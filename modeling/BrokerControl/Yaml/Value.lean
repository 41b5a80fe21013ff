import BrokerControl.Text.Integer
import BrokerControl.Yaml.Node

/-!
# Values of YAML nodes

What a node is worth where a text, a number, an optional value or a record is wanted. Any scalar
will do for a text. A number must be plain. Nothing at all, `~` and `null` are the absence of an
optional value, but only if they are plain. A record is a mapping.
-/

namespace BrokerControl.Yaml.Node

def text? : Node → Option String
  | .scalar s => some s.text
  | _ => none

def isNull (text : String) : Bool :=
  text == "null" || text == "Null" || text == "NULL" || text == "~"

def nullTag : Tag := "tag:yaml.org,2002:null".toUTF8.toList

def integerTag : Tag := "tag:yaml.org,2002:int".toUTF8.toList

/-! ## Numbers -/

/-- Digits that begin with a zero for no reason. -/
def isPadded (digits : List Char) : Bool :=
  1 < digits.length && digits.head? == some '0' && digits.all Char.isDigit

/-- A number in base sixteen, eight or two after its mark, or else in base ten. -/
def naturalText? (bound : Nat) (text : String) : Option Nat :=
  let unsigned := match text.toList with
    | '+' :: rest => rest
    | cs => cs
  let inRadix (radix : Nat) (digits : List Char) : Option Nat :=
    if digits = [] then none else (Text.digitsBelow radix bound digits).toOption
  let marked := match unsigned with
    | '0' :: 'x' :: digits => inRadix 16 digits
    | '0' :: 'o' :: digits => inRadix 8 digits
    | '0' :: 'b' :: digits => inRadix 2 digits
    | _ => none
  match marked with
  | some n => some n
  | none => if isPadded unsigned then none else inRadix 10 unsigned

def natural? (bound : Nat) : Node → Option Nat
  | .scalar s =>
    if s.style = .plain ∨ (s.style = .literal ∧ s.tag = some integerTag) then
      naturalText? bound s.text
    else none
  | _ => none

/-! ## Absence -/

/-- Whether a scalar is the absence of a value; a tag may forbid both answers. -/
def absent? (s : Scalar) : Option Bool :=
  if s.style ≠ .plain then some false
  else match s.tag with
    | none => some (s.text == "" || isNull s.text)
    | some tag => if tag ≠ nullTag then some false else if isNull s.text then some true else none

/-- An optional value. -/
def optional? {α : Type} (value? : Node → Option α) (n : Node) : Option (Option α) := do
  let absent ← match n with
    | .scalar s => absent? s
    | _ => some false
  if absent then return none
  return some (← value? n)

/-! ## Alternatives and records -/

/-- The name in a tag of one's own: what follows the exclamation mark that it begins with, or that
mark itself. -/
def ownName? (tag : Tag) : Option String :=
  if tag.take 1 = bareTag then
    String.fromUTF8? ⟨(if tag = bareTag then tag else tag.drop 1).toArray⟩
  else none

/-- The name of an alternative, as a text or as a tag of one's own on nothing. -/
def alternative? : Node → Option String
  | .scalar s => match s.tag.bind ownName? with
    | some name => if s.style = .plain ∧ (s.text = "" ∨ isNull s.text) then some name else none
    | none => some s.text
  | _ => none

end Node

namespace Document

/-- The values of the declared fields among the pairs, each of which may come once. Other keys are
passed over, but must be texts. -/
def declaredPairs (d : Document) (declared : List String) :
    List (Node × Node) → List (String × Node) → Option (List (String × Node))
  | [], found => some found
  | (k, v) :: rest, found => do
    let name ← (d.follow k).text?
    if declared.contains name then
      guard (found.lookup name).isNone
      declaredPairs d declared rest (found ++ [(name, d.follow v)])
    else declaredPairs d declared rest found

/-- The fields of a record: those of a mapping, or none where nothing is written. -/
def fields? (d : Document) (declared : List String) (n : Node) :
    Option (List (String × Node)) :=
  match d.follow n with
  | .mapping _ pairs => d.declaredPairs declared pairs []
  | .scalar s => if s.style = .plain ∧ s.text = "" then some [] else none
  | _ => none

end Document

end BrokerControl.Yaml
