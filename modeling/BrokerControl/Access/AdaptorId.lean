import BrokerControl.Access.Error
import BrokerControl.Text.Percent
import BrokerControl.Text.Split

/-!
# Adaptor ids

An adaptor is named like the exchange it publishes to: segments between slashes, none of them empty,
of ASCII letters, digits and `.`, `-`, `_`, `@`.
-/

namespace BrokerControl.Access

def isAdaptorChar (c : Char) : Bool :=
  Text.Percent.isAsciiAlphanumeric c || c == '.' || c == '-' || c == '_' || c == '@' || c == '/'

def isAdaptorId (s : String) : Bool :=
  s.toList.all isAdaptorChar && (Text.split '/' s).all (· != "")

structure AdaptorId where
  text : String
  valid : isAdaptorId text = true

namespace AdaptorId

def ofString? (s : String) : Except Malformed AdaptorId :=
  if h : isAdaptorId s = true then .ok ⟨s, h⟩ else .error (.resourceId s)

/-- The pattern of all keys that the adaptor publishes data with. -/
def dataPattern (id : AdaptorId) : String := id.text ++ "/.*"

/-- The key of one of the adaptor's status channels. -/
def statusKey (id : AdaptorId) (suffix : String) : String := id.text ++ suffix

theorem ext_text {a b : AdaptorId} (h : a.text = b.text) : a = b := by
  cases a; cases b; cases h; rfl

theorem ofString?_text (id : AdaptorId) : ofString? id.text = .ok id := by
  simp [ofString?, id.valid]

theorem text_of_ofString? {s : String} {id : AdaptorId} (h : ofString? s = .ok id) :
    id.text = s := by
  unfold ofString? at h
  split at h <;> cases h
  rfl

end AdaptorId

end BrokerControl.Access
