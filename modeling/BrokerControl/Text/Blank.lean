/-!
# Blank text

The characters with the Unicode property `White_Space`, and the strings made of them alone.
-/

namespace BrokerControl.Text

/-- The characters that the Unicode character database lists as `White_Space`. -/
def isWhiteSpace (c : Char) : Bool :=
  let n := c.toNat
  (0x09 ≤ n && n ≤ 0x0D) || n == 0x20 || n == 0x85 || n == 0xA0 || n == 0x1680 ||
    (0x2000 ≤ n && n ≤ 0x200A) || n == 0x2028 || n == 0x2029 || n == 0x202F || n == 0x205F ||
    n == 0x3000

/-- A string is blank when nothing is left of it after trimming. -/
def isBlank (s : String) : Bool := s.toList.all isWhiteSpace

/-- What remains after leading white space. -/
def trimStart (cs : List Char) : List Char := cs.dropWhile isWhiteSpace

@[simp] theorem isBlank_empty : isBlank "" = true := rfl

end BrokerControl.Text
