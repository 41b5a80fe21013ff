import BrokerControl.Text.Hex
import BrokerControl.Yaml.Cursor

/-!
# Scalars

The five ways to write a piece of text in YAML. Plain and quoted scalars fold line breaks: a single
one becomes a space and further ones stay. Block scalars take their lines as they are or folded,
and may keep or drop the breaks at their end. Each function reads one scalar off a cursor.
-/

namespace BrokerControl.Yaml

inductive Style where
  | plain
  | singleQuoted
  | doubleQuoted
  | literal
  | folded
  deriving DecidableEq

/-! ## Folding -/

/-- The blanks and breaks since the last other character. -/
structure Gap where
  /-- The blanks before any break. -/
  blanks : List Char := []
  /-- Whether a line was ended. -/
  broken : Bool := false
  /-- The first break, empty if it was escaped. -/
  first : List Char := []
  /-- The breaks after the first. -/
  more : List Char := []

namespace Gap

def addBlank (g : Gap) (c : Char) : Gap :=
  if g.broken then g else { g with blanks := g.blanks ++ [c] }

def addBreak (g : Gap) (text : List Char) : Gap :=
  if g.broken then { g with more := g.more ++ text }
  else { g with blanks := [], broken := true, first := text }

/-- What the gap contributes to the scalar. -/
def fold (g : Gap) : List Char :=
  if g.broken then
    if g.first = ['\n'] then if g.more = [] then [' '] else g.more else g.first ++ g.more
  else g.blanks

def isEmpty (g : Gap) : Bool := !g.broken && g.blanks.isEmpty

end Gap

/-! ## Plain scalars -/

/-- A scalar in the making, its text back to front. -/
structure Partial where
  reversed : List Char := []
  gap : Gap := {}
  cursor : Cursor

namespace Partial

def add (p : Partial) (text : List Char) (width : Nat) : Partial where
  reversed := text.reverse ++ p.gap.fold.reverse ++ p.reversed
  gap := {}
  cursor := p.cursor.skip width

def blank (p : Partial) (c : Char) : Partial :=
  { p with gap := p.gap.addBlank c, cursor := p.cursor.skip 1 }

def lineBreak (p : Partial) : Partial :=
  let (text, cursor) := p.cursor.breakLine
  { p with gap := p.gap.addBreak text, cursor }

def text (p : Partial) : String := String.ofList p.reversed.reverse

end Partial

def isFlowIndicator (c : Char) : Bool :=
  c == ',' || c == '[' || c == ']' || c == '\x7b' || c == '\x7d'

/-- Whether a plain scalar ends before the character here. -/
def endsPlain (inFlow : Bool) (c : Cursor) : Bool :=
  match c.rest with
  | [] => true
  | x :: _ => (x == ':' && c.isGap 1) || (inFlow && isFlowIndicator x)

/-- Goes on with a plain scalar, whose further lines stand at least at the indent. -/
def plainFrom (inFlow : Bool) (indent : Int) : Nat → Partial → Option Partial
  | 0, _ => none
  | fuel + 1, p => match p.cursor.rest with
    | [] => some p
    | x :: _ =>
      if isBlank x then
        if p.gap.broken && p.cursor.column < indent && x == '\t' then none
        else plainFrom inFlow indent fuel (p.blank x)
      else if isBreak x then plainFrom inFlow indent fuel p.lineBreak
      else if !p.gap.isEmpty && ((!inFlow && p.cursor.column < indent) ||
          p.cursor.isDocumentMarker || x == '#') then some p
      else if inFlow && x == ':' && (p.cursor.ahead? 1).any (fun y => isFlowIndicator y || y == '?')
        then none
      else if endsPlain inFlow p.cursor then some p
      else plainFrom inFlow indent fuel (p.add [x] 1)

/-- A plain scalar, whether it went over a line's end, and what follows it. -/
def plain? (inFlow : Bool) (indent : Int) (c : Cursor) : Option (String × Bool × Cursor) := do
  let p ← plainFrom inFlow indent (c.rest.length + 1) { cursor := c }
  return (p.text, p.gap.broken, p.cursor)

/-! ## Quoted scalars -/

/-- The characters that a one-letter escape stands for. -/
def unescape? (c : Char) : Option Char :=
  [('0', '\x00'), ('a', '\x07'), ('b', '\x08'), ('t', '\t'), ('\t', '\t'), ('n', '\n'),
    ('v', '\x0b'), ('f', '\x0c'), ('r', '\r'), ('e', '\x1b'), (' ', ' '), ('"', '"'), ('/', '/'),
    ('\\', '\\'), ('N', '\u0085'), ('_', '\u00a0'), ('L', '\u2028'), ('P', '\u2029')].lookup c

/-- How many digits follow the letter of a numeric escape. -/
def escapeDigits? (c : Char) : Option Nat := [('x', 2), ('u', 4), ('U', 8)].lookup c

def hexNumber? (digits : List Char) : Option Nat :=
  digits.foldlM (fun n d => (Text.hexValue? d).map (16 * n + ·)) 0

/-- The character of a numeric escape, which must not be half of a surrogate pair. -/
def ofCode? (n : Nat) : Option Char :=
  if n < 0xD800 ∨ (0xDFFF < n ∧ n < 0x110000) then some (Char.ofNat n) else none

/-- The character that an escape stands for, and how long the escape is. -/
def escape? (afterBackslash : List Char) : Option (Char × Nat) :=
  match afterBackslash with
  | [] => none
  | x :: rest => match escapeDigits? x with
    | some n => do
      guard (n ≤ rest.length)
      let c ← ofCode? (← hexNumber? (rest.take n))
      return (c, n + 2)
    | none => (unescape? x).map fun c => (c, 2)

/-- Goes on with a quoted scalar up to its closing quote. -/
def quotedFrom (single : Bool) : Nat → Partial → Option Partial
  | 0, _ => none
  | fuel + 1, p => match p.cursor.rest with
    | [] => none
    | x :: rest =>
      if isBlank x then quotedFrom single fuel (p.blank x)
      else if isBreak x then quotedFrom single fuel p.lineBreak
      else if p.gap.broken && p.cursor.isDocumentMarker then none
      else if single then
        if x = '\'' then
          if rest.head? = some '\'' then quotedFrom single fuel (p.add ['\''] 2)
          else some (p.add [] 1)
        else quotedFrom single fuel (p.add [x] 1)
      else if x = '"' then some (p.add [] 1)
      else if x = '\\' then
        if rest.head?.any isBreak then
          let (_, cursor) := (p.cursor.skip 1).breakLine
          quotedFrom single fuel { p.add [] 1 with gap := { broken := true }, cursor }
        else match escape? rest with
          | some (c, width) => quotedFrom single fuel (p.add [c] width)
          | none => none
      else quotedFrom single fuel (p.add [x] 1)

/-- A scalar between quotes, from its opening quote on. -/
def quoted? (single : Bool) (c : Cursor) : Option (String × Cursor) := do
  let p ← quotedFrom single (c.rest.length + 1) { cursor := c.skip 1 }
  return (p.text, p.cursor)

/-! ## Block scalars -/

/-- What becomes of the breaks at the end of a block scalar. -/
inductive Chomping where
  | strip
  | clip
  | keep
  deriving DecidableEq

/-- The indicators after the mark: how to chomp and how far the text is indented. -/
def blockHeader? (c : Cursor) : Option (Chomping × Option Nat × Cursor) :=
  let chomp? : Char → Option Chomping
    | '+' => some .keep
    | '-' => some .strip
    | _ => none
  let increment? (x : Char) : Option Nat :=
    if x.isDigit then some (x.toNat - '0'.toNat) else none
  let header : Chomping × Option Nat × Nat :=
    match c.ahead? 0, c.ahead? 1 with
    | some x, y => match chomp? x, increment? x with
      | some chomping, _ => match y.bind increment? with
        | some n => (chomping, some n, 2)
        | none => (chomping, none, 1)
      | none, some n => match y.bind chomp? with
        | some chomping => (chomping, some n, 2)
        | none => (.clip, some n, 1)
      | none, none => (.clip, none, 0)
    | none, _ => (.clip, none, 0)
  let (chomping, increment, width) := header
  if increment = some 0 then none
  else
    let c := (c.skip width).skipWhile isBlank
    let c := if c.ahead? 0 = some '#' then c.skipToBreak else c
    if c.endsOr isBreak 0 then some (chomping, increment, c.breakLine.2) else none

/-- Past the indentation and the empty lines in front, with their breaks and the widest indentation
met. The indent is zero as long as it is not known; up to it no tab may stand. -/
def blockBreaks (indent : Nat) : Nat → Cursor → List Char → Nat →
    Option (Cursor × List Char × Nat)
  | 0, _, _, _ => none
  | fuel + 1, c, breaks, widest =>
    let spaces := (c.rest.takeWhile (· == ' ')).length
    let c := c.skip (if indent = 0 then spaces else min spaces (indent - c.column))
    let widest := max widest c.column
    if (indent = 0 || c.column < indent) && c.ahead? 0 == some '\t' then none
    else if (c.ahead? 0).any isBreak then
      let (text, c) := c.breakLine
      blockBreaks indent fuel c (breaks ++ text) widest
    else some (c, breaks, widest)

/-- A block scalar in the making. -/
structure Block where
  text : List Char := []
  /-- The break that ended the last line. -/
  leading : List Char := []
  /-- The breaks of the empty lines after it. -/
  trailing : List Char
  /-- Whether the last line began with a blank. -/
  startedBlank : Bool := false
  cursor : Cursor

/-- Goes on with the lines of a block scalar. -/
def blockLines (isLiteral : Bool) (indent : Nat) : Nat → Block → Option Block
  | 0, _ => none
  | fuel + 1, b => match b.cursor.rest with
    | [] => some b
    | x :: _ =>
      if b.cursor.column ≠ indent then some b
      else do
        let folds := !isLiteral && b.leading == ['\n'] && !b.startedBlank && !isBlank x
        let joint := if folds then if b.trailing = [] then [' '] else [] else b.leading
        let line := b.cursor.rest.takeWhile fun x => !isBreak x
        let (leading, c) := (b.cursor.skip line.length).breakLine
        let (c, trailing, _) ← blockBreaks indent (c.rest.length + 1) c [] 0
        blockLines isLiteral indent fuel {
          text := b.text ++ joint ++ b.trailing ++ line
          leading, trailing, startedBlank := isBlank x, cursor := c }

/-- A block scalar, from its mark on, within a node at the given indent. -/
def block? (isLiteral : Bool) (parent : Int) (c : Cursor) : Option (String × Cursor) := do
  let (chomping, increment, c) ← blockHeader? (c.skip 1)
  let given := match increment with
    | some n => (max parent 0).toNat + n
    | none => 0
  let (c, trailing, widest) ← blockBreaks given (c.rest.length + 1) c [] 0
  let indent := if given = 0 then max (max widest (parent + 1).toNat) 1 else given
  let b ← blockLines isLiteral indent (c.rest.length + 1) { trailing, cursor := c }
  let tail := match chomping with
    | .strip => []
    | .clip => b.leading
    | .keep => b.leading ++ b.trailing
  return (String.ofList (b.text ++ tail), b.cursor)

end BrokerControl.Yaml
