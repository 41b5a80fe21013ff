import BrokerControl.Text.Hex

/-!
# Percent-encoding

A character is written as itself when a predicate keeps it, and otherwise as its UTF-8 bytes, each
as `%` and two upper-case digits. Reading undoes this: `%` followed by two digits is a byte, every
other character stands for its own bytes.
-/

namespace BrokerControl.Text.Percent

/-- One byte as `%` and two upper-case digits. -/
def escape (b : UInt8) : List Char :=
  ['%', hexDigitUpper (b.toNat / 16), hexDigitUpper (b.toNat % 16)]

/-- The encoding of one character. -/
def encodeChar (keep : Char → Bool) (c : Char) : List Char :=
  if keep c then [c] else (String.utf8EncodeChar c).flatMap escape

def encodeChars (keep : Char → Bool) (cs : List Char) : List Char := cs.flatMap (encodeChar keep)

def encode (keep : Char → Bool) (s : String) : String := String.ofList (encodeChars keep s.toList)

/-- The bytes that an encoded text stands for; a `%` without two digits after it stays as it is. -/
def bytes : List Char → List UInt8
  | [] => []
  | '%' :: a :: b :: rest =>
    match hexValue? a, hexValue? b with
    | some hi, some lo => UInt8.ofNat (hi * 16 + lo) :: bytes rest
    | _, _ => 0x25 :: bytes (a :: b :: rest)
  | c :: rest => String.utf8EncodeChar c ++ bytes rest

/-- The text that an encoded text stands for, if its bytes are UTF-8. -/
def decode? (s : String) : Option String := String.fromUTF8? ⟨(bytes s.toList).toArray⟩

/-! ## Characters that are kept -/

def isAsciiAlphanumeric (c : Char) : Bool :=
  ('a' ≤ c && c ≤ 'z') || ('A' ≤ c && c ≤ 'Z') || ('0' ≤ c && c ≤ '9')

/-- The unreserved characters of a URI: letters, digits and `-`, `_`, `.`, `~`. -/
def isUnreserved (c : Char) : Bool :=
  isAsciiAlphanumeric c || c == '-' || c == '_' || c == '.' || c == '~'

/-- The printable ASCII characters other than the given ones. -/
def isPrintableExcept (escaped : List Char) (c : Char) : Bool :=
  0x20 ≤ c.toNat && c.toNat < 0x7F && !escaped.contains c

end BrokerControl.Text.Percent
