import BrokerControl.Json.Basic
import BrokerControl.Text.Hex

/-!
# Reading JSON

The grammar of RFC 8259, with nothing added. Reading never fails: `read` gives the value, with
`cut` where the text stops being JSON, and says whether anything but white space follows it.
-/

namespace BrokerControl.Json

def isSpace (c : Char) : Bool := c == ' ' || c == '\t' || c == '\n' || c == '\r'

def skipSpace (cs : List Char) : List Char := cs.dropWhile isSpace

/-! ## String literals -/

/-- A character of a literal, or the code unit of a `\u` escape. -/
inductive Piece where
  | char (c : Char)
  | unit (n : Nat)

/-- The character that a one-letter escape stands for. -/
def unescape? (c : Char) : Option Char :=
  if c = '"' then some '"'
  else if c = '\\' then some '\\'
  else if c = '/' then some '/'
  else if c = 'b' then some '\x08'
  else if c = 'f' then some '\x0c'
  else if c = 'n' then some '\n'
  else if c = 'r' then some '\r'
  else if c = 't' then some '\t'
  else none

def codeUnit? (a b c d : Char) : Option Nat := do
  let w ← Text.hexValue? a
  let x ← Text.hexValue? b
  let y ← Text.hexValue? c
  let z ← Text.hexValue? d
  return ((w * 16 + x) * 16 + y) * 16 + z

/-- The pieces of a literal up to its closing quote, and the text after it. -/
def pieces? : List Char → Option (List Piece × List Char)
  | [] => none
  | c :: rest =>
    if c = '"' then some ([], rest)
    else if c = '\\' then
      match rest with
      | 'u' :: w :: x :: y :: z :: rest' =>
        match codeUnit? w x y z, pieces? rest' with
        | some n, some (ps, after) => some (.unit n :: ps, after)
        | _, _ => none
      | e :: rest' =>
        match unescape? e, pieces? rest' with
        | some c', some (ps, after) => some (.char c' :: ps, after)
        | _, _ => none
      | [] => none
    else if c.toNat < 0x20 then none
    else match pieces? rest with
      | some (ps, after) => some (.char c :: ps, after)
      | none => none

def isHighSurrogate (n : Nat) : Bool := 0xD800 ≤ n && n < 0xDC00

def isLowSurrogate (n : Nat) : Bool := 0xDC00 ≤ n && n < 0xE000

/-- The text of a literal: surrogates come in pairs, high before low. -/
def text? : List Piece → Option (List Char)
  | [] => some []
  | .char c :: ps => (text? ps).map (c :: ·)
  | .unit n :: ps =>
    if isHighSurrogate n then
      match ps with
      | .unit m :: ps' =>
        if isLowSurrogate m then
          (text? ps').map (Char.ofNat (0x10000 + (n - 0xD800) * 0x400 + (m - 0xDC00)) :: ·)
        else none
      | _ => none
    else if isLowSurrogate n then none
    else (text? ps).map (Char.ofNat n :: ·)

/-! ## Number literals -/

def leadingDigits (cs : List Char) : List Char × List Char := cs.span Char.isDigit

/-- The value of a sequence of decimal digits. -/
def ofDigits (ds : List Char) : Nat := ds.foldl (fun n d => n * 10 + (d.toNat - 48)) 0

/-- An optional fraction: nothing, or a point and at least one digit. -/
def fraction? : List Char → Option (List Char × List Char)
  | '.' :: rest =>
    match leadingDigits rest with
    | ([], _) => none
    | (ds, after) => some ('.' :: ds, after)
  | cs => some ([], cs)

/-- An optional exponent: nothing, or `e`, an optional sign and at least one digit. -/
def exponent? (cs : List Char) : Option (List Char × List Char) :=
  match cs with
  | e :: rest =>
    if e = 'e' ∨ e = 'E' then
      let (sign, rest') := match rest with
        | '+' :: r => (['+'], r)
        | '-' :: r => (['-'], r)
        | r => ([], r)
      match leadingDigits rest' with
      | ([], _) => none
      | (ds, after) => some (e :: sign ++ ds, after)
    else some ([], cs)
  | [] => some ([], [])

/-- A number literal: no sign but `-`, and no leading zero before another digit. -/
def number (cs : List Char) : Json × List Char :=
  let (sign, cs') := match cs with
    | '-' :: r => (['-'], r)
    | r => ([], r)
  let (ds, after) := leadingDigits cs'
  if ds = [] ∨ (ds.head? = some '0' ∧ ds ≠ ['0']) then (.cut, [])
  else match fraction? after with
    | none => (.cut, [])
    | some (f, after) => match exponent? after with
      | none => (.cut, [])
      | some (e, after) =>
        if sign = [] ∧ f = [] ∧ e = [] then (.natural (ofDigits ds), after)
        else (.numeral (String.ofList (sign ++ ds ++ f ++ e)), after)

/-! ## Values -/

/-- A value whose literal is a fixed word. -/
def word (expected : List Char) (j : Json) (cs : List Char) : Json × List Char :=
  if expected.isPrefixOf cs then (j, cs.drop expected.length) else (.cut, [])

mutual

/-- The value at the start of a text, and the text after it. Every call takes a character or
passes to one that does, so a bound of twice the length is never reached. -/
def value : Nat → List Char → Json × List Char
  | 0, _ => (.cut, [])
  | n + 1, cs =>
    match skipSpace cs with
    | [] => (.cut, [])
    | c :: rest =>
      if c = '"' then
        match pieces? rest with
        | none => (.cut, [])
        | some (ps, after) => match text? ps with
          | none => (.unpaired, after)
          | some s => (.string (String.ofList s), after)
      else if c = '[' then
        match skipSpace rest with
        | ']' :: after => (.array [], after)
        | _ =>
          let (js, after) := items n rest
          (.array js, after)
      else if c = '\x7b' then
        match skipSpace rest with
        | '\x7d' :: after => (.object [], after)
        | _ => match fields n rest with
          | (none, after) => (.cut, after)
          | (some fs, after) => (.object fs, after)
      else if c = 'n' then word ['n', 'u', 'l', 'l'] .null (c :: rest)
      else if c = 't' then word ['t', 'r', 'u', 'e'] (.bool true) (c :: rest)
      else if c = 'f' then word ['f', 'a', 'l', 's', 'e'] (.bool false) (c :: rest)
      else number (c :: rest)

/-- The items of an array from one of them on. -/
def items : Nat → List Char → List Json × List Char
  | 0, _ => ([.cut], [])
  | n + 1, cs =>
    let (j, after) := value n cs
    match skipSpace after with
    | ',' :: rest =>
      let (js, after) := items n rest
      (j :: js, after)
    | ']' :: rest => ([j], rest)
    | _ => ([j, .cut], [])

/-- The fields of an object from one of them on, unless the text breaks before its name is read. -/
def fields : Nat → List Char → Option (List (String × Json)) × List Char
  | 0, _ => (none, [])
  | n + 1, cs =>
    match skipSpace cs with
    | '"' :: rest =>
      match pieces? rest with
      | none => (none, [])
      | some (ps, after) =>
        let field (j : Json) : String × Json := match text? ps with
          | some name => (String.ofList name, j)
          | none => ("", .nameless j)
        match skipSpace after with
        | ':' :: rest =>
          let (j, after) := value n rest
          match skipSpace after with
          | ',' :: rest => match fields n rest with
            | (none, after) => (some [field j, ("", .cut)], after)
            | (some fs, after) => (some (field j :: fs), after)
          | '\x7d' :: rest => (some [field j], rest)
          | _ => (some [field j, ("", .cut)], [])
        | _ => (some [field .cut], [])
    | _ => (none, [])

end

/-- The value of a text, and whether only white space follows it. -/
def read (s : String) : Json × Bool :=
  let cs := s.toList
  let (j, after) := value (2 * cs.length + 1) cs
  (j, skipSpace after == [])

/-- The value of a text that is JSON. -/
def parse? (s : String) : Option Json :=
  match read s with
  | (j, true) => if j.isWhole then some j else none
  | (_, false) => none

end BrokerControl.Json
