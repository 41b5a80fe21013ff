import BrokerControl.Json.Reader
import BrokerControl.Json.Printer

/-!
# Types with a JSON form

A type of class `Wire` has an encoder and a decoder. Decoding stops at the first fault in the order
of the text, so a fault before a place where the text breaks is the one reported. A record is read
from an object, whose unknown fields are skipped, or from an array of its fields in order; fields
that may be missing carry the value they then have.
-/

namespace BrokerControl.Json

/-- Why a value could not be read as the wanted type. -/
inductive DecodeError where
  | missingField (name : String)
  | duplicateField (name : String)
  /-- A name that is none of those expected, and whether nothing but its own value stands beside
  it. -/
  | unknownVariant (given : String) (expected : List String) (alone : Bool)
  /-- The text has a form of its own and is not of that form. -/
  | refused (reason : String)
  /-- A value of another kind or out of range, or no value at all. -/
  | mismatch
  deriving DecidableEq

/-- A name in backticks. -/
def ticked (name : String) : String := "\x60" ++ name ++ "\x60"

/-- The words for a fault; a mismatch has none. -/
def DecodeError.message? : DecodeError → Option String
  | .missingField name => some s!"missing field {ticked name}"
  | .duplicateField name => some s!"duplicate field {ticked name}"
  | .unknownVariant given expected _ =>
    let names := ", ".intercalate (expected.map ticked)
    some s!"unknown variant {ticked given}, expected one of {names}"
  | .refused reason => some reason
  | .mismatch => none

class Wire (α : Type) where
  encode : α → Json
  decode : Json → Except DecodeError α

export Wire (encode decode)

/-- The type's reading of a whole text. -/
def decodeText (α : Type) [Wire α] (text : String) : Except DecodeError α := do
  let (j, ended) := read text
  let a ← decode j
  if ended then return a else throw .mismatch

/-- The type's reading of a value that has lost its text, and with it the order of its fields. None
of several names comes first there. -/
def decodeValue (α : Type) [Wire α] (j : Json) : Except DecodeError α :=
  (decode j.sorted).mapError fun
    | .unknownVariant _ _ false => .mismatch
    | e => e

/-- The compact text of a value. -/
def encodeText {α : Type} [Wire α] (a : α) : String := print (encode a)

/-! ## Basic types -/

instance : Wire String where
  encode := .string
  decode
    | .string s => .ok s
    | _ => .error .mismatch

instance : Wire Bool where
  encode := .bool
  decode
    | .bool b => .ok b
    | _ => .error .mismatch

/-- A number literal of digits alone whose value is below a bound. -/
def decodeBelow (bound : Nat) : Json → Except DecodeError Nat
  | .natural n => if n < bound then .ok n else .error .mismatch
  | _ => .error .mismatch

instance : Wire UInt16 where
  encode n := .natural n.toNat
  decode j := (decodeBelow UInt16.size j).map UInt16.ofNat

instance : Wire UInt32 where
  encode n := .natural n.toNat
  decode j := (decodeBelow UInt32.size j).map UInt32.ofNat

instance : Wire UInt64 where
  encode n := .natural n.toNat
  decode j := (decodeBelow UInt64.size j).map UInt64.ofNat

variable {α β : Type}

/-- Each item in turn. -/
def decodeItems [Wire α] : List Json → Except DecodeError (List α)
  | [] => .ok []
  | j :: js => do
    let a ← decode j
    let as ← decodeItems js
    return a :: as

instance [Wire α] : Wire (List α) where
  encode as := .array (as.map encode)
  decode
    | .array items => decodeItems items
    | _ => .error .mismatch

instance [Wire α] : Wire (Option α) where
  encode
    | none => .null
    | some a => encode a
  decode
    | .null => .ok none
    | j => (decode j).map some

/-! ## Named alternatives -/

/-- One of finitely many names, as a string or as the name of an object's only field with value
`null`. -/
def decodeVariant (variants : List (String × α)) : Json → Except DecodeError α
  | .string s => match variants.lookup s with
    | some a => .ok a
    | none => .error (.unknownVariant s (variants.map Prod.fst) true)
  | .object ((_, .nameless _) :: _) => .error .mismatch
  | .object ((name, j) :: rest) => match variants.lookup name with
    | none => .error (.unknownVariant name (variants.map Prod.fst) rest.isEmpty)
    | some a => match j, rest with
      | .null, [] => .ok a
      | _, _ => .error .mismatch
  | _ => .error .mismatch

/-! ## Records -/

/-- The declared fields of a record in order, each with the test of its value, and how the record is
put together from the values by name or by position. -/
structure Record (α : Type) where
  fields : List (String × (Json → Except DecodeError Unit))
  ofNames : (String → Option Json) → Except DecodeError α
  ofItems : List Json → Except DecodeError (α × List Json)

namespace Record

/-- The record without fields. -/
def of (a : α) : Record α := ⟨[], fun _ => .ok a, fun js => .ok (a, js)⟩

/-- One more field, which must be present. -/
def required [Wire β] (r : Record (β → α)) (name : String) : Record α where
  fields := r.fields ++ [(name, fun j => (decode j : Except DecodeError β).map fun _ => ())]
  ofNames values := do
    let f ← r.ofNames values
    match values name with
    | some j => return f (← decode j)
    | none => throw (.missingField name)
  ofItems js := do
    let (f, js) ← r.ofItems js
    match js with
    | j :: js => return (f (← decode j), js)
    | [] => throw .mismatch

/-- One more field, which has a value of its own when it is missing. -/
def optional [Wire β] (r : Record (β → α)) (name : String) (absent : β) : Record α where
  fields := r.fields ++ [(name, fun j => (decode j : Except DecodeError β).map fun _ => ())]
  ofNames values := do
    let f ← r.ofNames values
    match values name with
    | some j => return f (← decode j)
    | none => return f absent
  ofItems js := do
    let (f, js) ← r.ofItems js
    match js with
    | j :: js => return (f (← decode j), js)
    | [] => return (f absent, [])

/-- Goes through an object's fields in order: a declared field must be new and of its type, any
other only be JSON and have a name. -/
def check (r : Record α) : List (String × Json) → List String → Except DecodeError Unit
  | [], _ => .ok ()
  | (name, j) :: rest, seen => match r.fields.lookup name with
    | none => if j.isWhole && !j.isNameless then check r rest seen else .error .mismatch
    | some test => if name ∈ seen then .error (.duplicateField name) else do
      test j
      check r rest (name :: seen)

def decode (r : Record α) : Json → Except DecodeError α
  | .object fs => do
    r.check fs []
    r.ofNames fun name => fs.lookup name
  | .array js => do
    let (a, rest) ← r.ofItems js
    if rest.isEmpty then return a else throw .mismatch
  | _ => .error .mismatch

end Record

end BrokerControl.Json
