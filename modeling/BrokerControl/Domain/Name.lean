import BrokerControl.Domain.Label
import BrokerControl.Domain.Mapping
import BrokerControl.Domain.Punycode
import BrokerControl.Text.Split
import BrokerControl.Unicode.Composed

/-!
# Domain names

Names of hosts in any script are brought into ASCII as Unicode Technical Standard 46 has it. Every
character is replaced by what it stands for, the text is normalized, and the labels between the dots
are checked and encoded each. A label that begins with `xn--` is encoded already and must be the
encoding of such a label.
-/

namespace BrokerControl.Domain.Name

open Unicode

def encodedMark : List Char := ['x', 'n', '-', '-']

/-- The most characters that a label to be encoded may have, and the most that may be decoded. -/
def longestLabel : Nat := 1000

def longestCode : Nat := 2000

/-- The characters that a text stands for, in normalization form C. -/
def meaning? (text : List Char) : Option (List Char) := do
  let points ← text.mapM fun c => Domain.meaning? c.toNat
  return (composed points.flatten).map Char.ofNat

/-- The label that an encoded one stands for. It is its own meaning and has need of encoding. -/
def decoded? (code : List Char) : Option (List Char) := do
  guard (code.length ≤ longestCode)
  let label ← Punycode.decode? code
  guard (!label.all Punycode.isBasic && meaning? label == some label)
  return label

/-- The label itself or, if it is encoded, the one that it stands for. -/
def plain? (label : List Char) : Option (List Char) :=
  if encodedMark.isPrefixOf label then do
    guard (label.all Punycode.isBasic)
    decoded? (label.drop encodedMark.length)
  else some label

/-- The label in ASCII. -/
def encoded? (label : List Char) : Option (List Char) :=
  if label.all Punycode.isBasic then some label
  else if label.length ≤ longestLabel then some (encodedMark ++ Punycode.encode label)
  else none

/-- The name in ASCII of a text, none of whose characters may be one of the forbidden. -/
def ofText? (isForbidden : Char → Bool) (text : String) : Option String := do
  let cs ← meaning? text.toList
  guard !cs.any isForbidden
  let labels := Text.pieces '.' cs
  let plain ← labels.mapM plain?
  let points := plain.map fun label => label.map Char.toNat
  guard (points.all Label.isWellFormed)
  guard (!points.any Label.isBidirectional || points.all Label.keepsDirection)
  return String.ofList (Text.unpieces '.' (← labels.mapM encoded?))

end BrokerControl.Domain.Name
