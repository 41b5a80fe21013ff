import BrokerControl.Yaml.Scalar

/-!
# Tokens of YAML

The marks and scalars of a stream in order. Blocks have no closing mark of their own, so a token is
put in where the indentation goes back. A key of a mapping may be recognised only by the colon that
follows it, on the same line and not too far away; its token is then put in ahead of it.
-/

namespace BrokerControl.Yaml

/-- The bytes of a tag, which need not be text. -/
abbrev Tag := List UInt8

/-- An exclamation mark alone. -/
def bareTag : Tag := [0x21]

inductive Token where
  | version (major minor : List Char)
  | tagDirective (handle : String) (expansion : Tag)
  | documentStart
  | documentEnd
  | blockSequenceStart
  | blockMappingStart
  | blockEnd
  | flowSequenceStart
  | flowSequenceEnd
  | flowMappingStart
  | flowMappingEnd
  | blockEntry
  | flowEntry
  | key
  | value
  | alias (name : String)
  | anchor (name : String)
  | tag (handle : String) (suffix : Tag)
  | scalar (text : String) (style : Style)
  deriving DecidableEq

/-- A place where a key may have begun. -/
structure KeyStart where
  /-- Whether nothing but a key can stand there. -/
  required : Bool
  /-- How many tokens come before it. -/
  count : Nat
  index : Nat
  line : Nat
  column : Nat

structure Lexer where
  cursor : Cursor
  /-- The tokens so far, the last first. -/
  tokens : List Token := []
  /-- The place of a possible key at the present level. -/
  start : Option KeyStart := none
  /-- The places of possible keys around the flow collections that are open. -/
  outer : List (Option KeyStart) := []
  indent : Int := -1
  /-- The indents around the present one. -/
  indents : List Int := []
  keyAllowed : Bool := true

namespace Lexer

/-- A step of the lexer, which refuses what is not YAML. -/
abbrev Step := StateT Lexer Option

def inFlow (l : Lexer) : Bool := !l.outer.isEmpty

def push (t : Token) : Step Unit := modify fun l => { l with tokens := t :: l.tokens }

/-- Takes some characters of the line as a token. -/
def mark (t : Token) (width : Nat) : Step Unit :=
  modify fun l => { l with tokens := t :: l.tokens, cursor := l.cursor.skip width }

def allowKey (allowed : Bool) : Step Unit := modify ({ · with keyAllowed := allowed })

/-- Puts a token after the first so many. -/
def insertAt (count : Nat) (t : Token) : Step Unit :=
  modify fun l => { l with tokens := l.tokens.insertIdx (l.tokens.length - count) t }

/-! ## Possible keys -/

/-- The key that may still be meant; one that was needed must not be out of reach. -/
def liveKey : Step (Option KeyStart) := do
  let l ← get
  match l.start with
  | none => return none
  | some k =>
    if k.line = l.cursor.line ∧ l.cursor.index ≤ k.index + 1024 then return some k
    else
      guard !k.required
      return none

/-- There is no key here after all. -/
def dropKey : Step Unit := do
  let l ← get
  guard !(l.start.any (·.required))
  set { l with start := none }

/-- A key may begin here. -/
def saveKey : Step Unit := do
  let l ← get
  if l.keyAllowed then
    dropKey
    modify ({ · with start := some {
      required := !l.inFlow && l.indent == l.cursor.column
      count := l.tokens.length
      index := l.cursor.index
      line := l.cursor.line
      column := l.cursor.column } })

/-! ## Indentation -/

/-- Closes the blocks that are indented further than a column. -/
def closeTo (column : Int) : List Int → Step Unit
  | [] => return ()
  | outer :: rest => do
    if (← get).indent > column then
      modify fun l => { l with
        tokens := .blockEnd :: l.tokens, indent := outer, indents := rest }
      closeTo column rest

def unroll (column : Int) : Step Unit := do
  let l ← get
  if !l.inFlow then closeTo column l.indents

/-- Opens a block at a column, if it is further in, with its token after the first so many. -/
def roll (column : Nat) (count : Nat) (t : Token) : Step Unit := do
  let l ← get
  if !l.inFlow && l.indent < column then
    insertAt count t
    modify ({ · with indent := column, indents := l.indent :: l.indents })

/-! ## Marks -/

def flowStart (t : Token) : Step Unit := do
  saveKey
  modify fun l => { l with outer := l.start :: l.outer, start := none }
  allowKey true
  mark t 1

def flowEnd (t : Token) : Step Unit := do
  dropKey
  modify fun l => match l.outer with
    | k :: outer => { l with start := k, outer }
    | [] => l
  allowKey false
  mark t 1

def flowEntry : Step Unit := do
  dropKey
  allowKey true
  mark .flowEntry 1

def blockEntry : Step Unit := do
  let l ← get
  if !l.inFlow then
    guard l.keyAllowed
    roll l.cursor.column l.tokens.length .blockSequenceStart
  dropKey
  allowKey true
  mark .blockEntry 1

def explicitKey : Step Unit := do
  let l ← get
  if !l.inFlow then
    guard l.keyAllowed
    roll l.cursor.column l.tokens.length .blockMappingStart
  dropKey
  allowKey !l.inFlow
  mark .key 1

def value : Step Unit := do
  match ← liveKey with
  | some k =>
    insertAt k.count .key
    roll k.column k.count .blockMappingStart
    modify ({ · with start := none })
    allowKey false
  | none =>
    let l ← get
    if !l.inFlow then
      guard l.keyAllowed
      roll l.cursor.column l.tokens.length .blockMappingStart
    allowKey !l.inFlow
  mark .value 1

def documentMarker (t : Token) : Step Unit := do
  unroll (-1)
  dropKey
  allowKey false
  mark t 3

/-! ## Names -/

/-- Takes the characters in front that pass a test. -/
def takeWhile (test : Char → Bool) : Step String := do
  let cs := (← get).cursor.rest.takeWhile test
  modify fun l => { l with cursor := l.cursor.skip cs.length }
  return String.ofList cs

def endsName (c : Char) : Bool :=
  isBlank c || isBreak c || ['?', ':', ',', ']', '\x7d', '%', '@', '\x60'].contains c

/-- An anchor or alias. -/
def reference (t : String → Token) : Step Unit := do
  saveKey
  allowKey false
  modify fun l => { l with cursor := l.cursor.skip 1 }
  let name ← takeWhile isWord
  guard (name != "" && (← get).cursor.endsOr endsName 0)
  push (t name)

/-- The characters of a tag's address, which may be percent-encoded. -/
def isAddress (verbatim : Bool) (c : Char) : Bool :=
  isWord c || ";/?:@&=+$.!~*'()%".toList.contains c || (verbatim && [',', '[', ']'].contains c)

/-- How many bytes follow the first of an encoded character. -/
def following? (first : Nat) : Option Nat :=
  if first < 0x80 then some 0
  else if first < 0xC0 then none
  else if first < 0xE0 then some 1
  else if first < 0xF0 then some 2
  else if first < 0xF8 then some 3
  else none

/-- The bytes of an address, so many of which must go on with an encoded character. -/
def addressBytes? : Nat → List Char → Option Tag
  | 0, [] => some []
  | _ + 1, [] => none
  | pending, '%' :: a :: b :: rest => do
    let n := 16 * (← Text.hexValue? a) + (← Text.hexValue? b)
    let pending ← match pending with
      | 0 => following? n
      | k + 1 => if 0x80 ≤ n ∧ n < 0xC0 then some k else none
    return .ofNat n :: (← addressBytes? pending rest)
  | 0, c :: rest => do
    guard (c != '%')
    return String.utf8EncodeChar c ++ (← addressBytes? 0 rest)
  | _ + 1, _ => none

def address (verbatim : Bool) : Step Tag := do
  match addressBytes? 0 (← takeWhile (isAddress verbatim)).toList with
  | some bytes => return bytes
  | none => failure

/-- A tag ends before its first null byte. -/
def untilNull (tag : Tag) : Tag := tag.takeWhile (· != 0)

/-- A tag: an address between angle brackets, or a suffix after a handle between exclamation marks,
which may be left away in part. -/
def tag : Step Unit := do
  saveKey
  allowKey false
  let l ← get
  if l.cursor.ahead? 1 = some '<' then
    modify fun l => { l with cursor := l.cursor.skip 2 }
    let suffix ← address true
    guard (!suffix.isEmpty && (← get).cursor.ahead? 0 == some '>')
    mark (.tag "" (untilNull suffix)) 1
  else
    modify fun l => { l with cursor := l.cursor.skip 1 }
    let name ← takeWhile isWord
    if (← get).cursor.ahead? 0 = some '!' then
      modify fun l => { l with cursor := l.cursor.skip 1 }
      let suffix ← address false
      guard !suffix.isEmpty
      push (.tag ("!" ++ name ++ "!") (untilNull suffix))
    else
      let suffix := untilNull (name.toUTF8.toList ++ (← address false))
      push (if suffix = [] then .tag "" bareTag else .tag "!" suffix)
  let l ← get
  guard (l.cursor.isGap 0 || (l.inFlow && l.cursor.ahead? 0 == some ','))

/-! ## Directives -/

def skipBlanks : Step Unit := modify fun l => { l with cursor := l.cursor.skipWhile isBlank }

def directive : Step Unit := do
  unroll (-1)
  dropKey
  allowKey false
  modify fun l => { l with cursor := l.cursor.skip 1 }
  let name ← takeWhile isWord
  guard ((← get).cursor.isGap 0)
  skipBlanks
  if name = "YAML" then
    let major ← takeWhile Char.isDigit
    guard ((← get).cursor.ahead? 0 == some '.')
    modify fun l => { l with cursor := l.cursor.skip 1 }
    let minor ← takeWhile Char.isDigit
    guard (major != "" && minor != "" && major.length < 10 && minor.length < 10)
    push (.version major.toList minor.toList)
  else if name = "TAG" then
    guard ((← get).cursor.ahead? 0 == some '!')
    modify fun l => { l with cursor := l.cursor.skip 1 }
    let word ← takeWhile isWord
    let handle ← if (← get).cursor.ahead? 0 = some '!' then
        modify fun l => { l with cursor := l.cursor.skip 1 }
        pure ("!" ++ word ++ "!")
      else pure ("!" ++ word)
    guard (handle == "!" || handle.endsWith "!")
    guard ((← get).cursor.rest.head?.any isBlank)
    skipBlanks
    let expansion ← address true
    guard (!expansion.isEmpty && (← get).cursor.isGap 0)
    push (.tagDirective handle (untilNull expansion))
  else failure
  skipBlanks
  modify fun l =>
    if l.cursor.ahead? 0 = some '#' then { l with cursor := l.cursor.skipToBreak } else l
  guard ((← get).cursor.endsOr isBreak 0)
  modify fun l => { l with cursor := l.cursor.breakLine.2 }

/-! ## Scalars -/

def plainScalar : Step Unit := do
  saveKey
  allowKey false
  let l ← get
  match plain? l.inFlow (l.indent + 1) l.cursor with
  | some (text, broken, cursor) =>
    set { l with cursor, keyAllowed := broken, tokens := .scalar text .plain :: l.tokens }
  | none => failure

def quotedScalar (single : Bool) : Step Unit := do
  saveKey
  allowKey false
  let l ← get
  match quoted? single l.cursor with
  | some (text, cursor) =>
    let style := if single then .singleQuoted else .doubleQuoted
    set { l with cursor, tokens := .scalar text style :: l.tokens }
  | none => failure

def blockScalar (isLiteral : Bool) : Step Unit := do
  dropKey
  allowKey true
  let l ← get
  match block? isLiteral l.indent l.cursor with
  | some (text, cursor) =>
    let style := if isLiteral then .literal else .folded
    set { l with cursor, tokens := .scalar text style :: l.tokens }
  | none => failure

/-! ## The stream -/

/-- Past blanks, comments and breaks. A tab is no blank where a block could begin, and a byte order
mark is one only at the beginning of a line. -/
def skipSpace : Nat → Step Unit
  | 0 => return ()
  | fuel + 1 => do
    let l ← get
    let c := if l.cursor.column = 0 ∧ l.cursor.ahead? 0 = some '\ufeff' then l.cursor.skip 1
      else l.cursor
    let c := c.skipWhile fun x => x == ' ' || (x == '\t' && (l.inFlow || !l.keyAllowed))
    let c := if c.ahead? 0 = some '#' then c.skipToBreak else c
    if (c.ahead? 0).any isBreak then
      set { l with cursor := c.breakLine.2, keyAllowed := l.keyAllowed || !l.inFlow }
      skipSpace fuel
    else set { l with cursor := c }

/-- Whether a plain scalar may begin here. -/
def startsPlain (inFlow : Bool) (c : Cursor) (x : Char) : Bool :=
  !(isBlank x || isBreak x || "-?:,[]\x7b\x7d#&*!|>'\"%@\x60".toList.contains x) ||
    (x == '-' && !(c.ahead? 1).any isBlank) ||
    (!inFlow && (x == '?' || x == ':') && !c.isGap 1)

/-- The token that begins here. -/
def token (x : Char) : Step Unit := do
  let l ← get
  let c := l.cursor
  if c.column == 0 && x == '%' then directive
  else if c.isMarker '-' then documentMarker .documentStart
  else if c.isMarker '.' then documentMarker .documentEnd
  else if x == '[' then flowStart .flowSequenceStart
  else if x == '\x7b' then flowStart .flowMappingStart
  else if x == ']' then flowEnd .flowSequenceEnd
  else if x == '\x7d' then flowEnd .flowMappingEnd
  else if x == ',' then flowEntry
  else if x == '-' && c.isGap 1 then blockEntry
  else if x == '?' && (l.inFlow || c.isGap 1) then explicitKey
  else if x == ':' && (l.inFlow || c.isGap 1) then value
  else if x == '*' then reference .alias
  else if x == '&' then reference .anchor
  else if x == '!' then tag
  else if x == '|' && !l.inFlow then blockScalar true
  else if x == '>' && !l.inFlow then blockScalar false
  else if x == '\'' then quotedScalar true
  else if x == '"' then quotedScalar false
  else if startsPlain l.inFlow c x then plainScalar
  else failure

/-- All tokens up to the end of the text. -/
def stream : Nat → Step Unit
  | 0 => failure
  | fuel + 1 => do
    skipSpace ((← get).cursor.rest.length + 1)
    let l ← get
    unroll l.cursor.column
    match l.cursor.rest with
    | [] =>
      unroll (-1)
      dropKey
    | x :: _ =>
      token x
      stream fuel

end Lexer

/-- The tokens of a text, if it has any reading as YAML marks and scalars. -/
def tokens? (text : String) : Option (List Token) := do
  let cs := text.toList
  guard (cs.all isAllowed)
  let (_, l) ← (Lexer.stream (cs.length + 1)).run { cursor := { rest := cs } }
  return l.tokens.reverse

end BrokerControl.Yaml
