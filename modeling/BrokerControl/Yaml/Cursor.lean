/-!
# Places in a YAML text

A cursor is what remains of the text together with where it begins: how many characters came
before, on which line and in which column. A line ends at a carriage return, a line feed, both
together, a next-line character or a line or paragraph separator.
-/

namespace BrokerControl.Yaml

/-- The characters that may stand in a stream. -/
def isAllowed (c : Char) : Bool :=
  let n := c.toNat
  n == 0x09 || n == 0x0A || n == 0x0D || (0x20 ≤ n && n ≤ 0x7E) || n == 0x85 ||
    (0xA0 ≤ n && n ≤ 0xFFFD) || 0x10000 ≤ n

def isBlank (c : Char) : Bool := c == ' ' || c == '\t'

def isBreak (c : Char) : Bool :=
  c == '\r' || c == '\n' || c == '\u0085' || c == '\u2028' || c == '\u2029'

/-- Letters, digits, `-` and `_`. -/
def isWord (c : Char) : Bool := c.isAlphanum || c == '-' || c == '_'

structure Cursor where
  rest : List Char
  index : Nat := 0
  line : Nat := 0
  column : Nat := 0

namespace Cursor

/-- The character some places ahead. -/
def ahead? (c : Cursor) (n : Nat) : Option Char := c.rest[n]?

/-- Whether a test holds of the character some places ahead, or the text has ended there. -/
def endsOr (test : Char → Bool) (c : Cursor) (n : Nat) : Bool := (c.ahead? n).all test

/-- A blank, a break or the end of the text. -/
def isGap (c : Cursor) (n : Nat) : Bool := c.endsOr (fun x => isBlank x || isBreak x) n

/-- Past some characters of the line. -/
def skip (c : Cursor) (n : Nat) : Cursor where
  rest := c.rest.drop n
  index := c.index + n
  line := c.line
  column := c.column + n

/-- Past a line break, with the characters it stands for. -/
def breakLine (c : Cursor) : List Char × Cursor :=
  let next (n : Nat) : Cursor := ⟨c.rest.drop n, c.index + n, c.line + 1, 0⟩
  match c.rest with
  | '\r' :: '\n' :: _ => (['\n'], next 2)
  | x :: _ =>
    if x = '\u2028' ∨ x = '\u2029' then ([x], next 1)
    else if isBreak x then (['\n'], next 1)
    else ([], c)
  | [] => ([], c)

/-- Past the characters in front that pass a test, which no break does. -/
def skipWhile (test : Char → Bool) (c : Cursor) : Cursor :=
  c.skip (c.rest.takeWhile test).length

/-- Past the rest of the line. -/
def skipToBreak (c : Cursor) : Cursor := c.skipWhile fun x => !isBreak x

/-- Whether a line begins here with three of one mark and nothing after them. -/
def isMarker (c : Cursor) (mark : Char) : Bool :=
  c.column == 0 && c.rest.take 3 == [mark, mark, mark] && c.isGap 3

/-- Whether a document begins or ends here. -/
def isDocumentMarker (c : Cursor) : Bool := c.isMarker '-' || c.isMarker '.'

end Cursor

end BrokerControl.Yaml
