import BrokerControl.Data.Directory

/-!
# JSON values

A value as it was read from a text. Objects keep their fields in the order of the text, repeated
names included. A text that stops being JSON somewhere still has a value: everything before the
break is kept and `cut` marks the place.
-/

namespace BrokerControl

inductive Json where
  | null
  | bool (b : Bool)
  /-- A number literal with digits alone. -/
  | natural (n : Nat)
  /-- Any other number literal, as it was written. -/
  | numeral (text : String)
  | string (s : String)
  | array (items : List Json)
  | object (fields : List (String × Json))
  /-- A string literal with an escape that is half of a surrogate pair, so that it has no text. -/
  | unpaired
  /-- The value of a field whose name has no text for that reason; the field stands under the empty
  name. -/
  | nameless (j : Json)
  /-- The place where a text stops being JSON. -/
  | cut
  deriving Inhabited

namespace Json

mutual

/-- Whether the text was JSON to the end of the value. -/
def isWhole : Json → Bool
  | .cut => false
  | .array items => wholeItems items
  | .object fields => wholeFields fields
  | .nameless j => isWhole j
  | _ => true

def wholeItems : List Json → Bool
  | [] => true
  | j :: js => isWhole j && wholeItems js

def wholeFields : List (String × Json) → Bool
  | [] => true
  | (_, j) :: fs => isWhole j && wholeFields fs

end

/-- Whether a field's name has no text. -/
def isNameless : Json → Bool
  | .nameless _ => true
  | _ => false

mutual

/-- The value with the fields of every object in the order of their names, each once, where the last
of several counts. -/
def sorted : Json → Json
  | .array items => .array (sortedItems items)
  | .object fields => .object (Directory.ofList (sortedFields fields)).toList
  | j => j

def sortedItems : List Json → List Json
  | [] => []
  | j :: js => sorted j :: sortedItems js

def sortedFields : List (String × Json) → List (String × Json)
  | [] => []
  | (name, j) :: fs => (name, sorted j) :: sortedFields fs

end

/-- The value of an object's field of that name, the last if there are several. -/
def field? (name : String) : Json → Option Json
  | .object fields => fields.reverse.lookup name
  | _ => none

/-- A list of strings as an array. -/
def ofStrings (ss : List String) : Json := .array (ss.map .string)

end Json

end BrokerControl
