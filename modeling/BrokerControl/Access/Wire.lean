import BrokerControl.Access.AdaptorId
import BrokerControl.Access.Grant
import BrokerControl.Access.RoutingKey
import BrokerControl.Json.Wire

/-!
# JSON forms of grants, keys and ids
-/

namespace BrokerControl.Access

open Json

instance : Wire Right where
  encode r := .string r.name
  decode := decodeVariant ([.configure, .write, .read].map fun r => (r.name, r))

instance : Wire Edit where
  encode e := .string e.name
  decode :=
    decodeVariant ([.addRead, .addWrite, .deleteRead, .deleteWrite].map fun e => (e.name, e))

instance : Wire ResourceSet where
  encode g := .string g.toPattern
  decode j := (decode j).map ResourceSet.ofPattern

def Grant.record : Record Grant :=
  (((Record.of Grant.mk).optional "configure" ∅).optional "write" ∅).optional "read" ∅

instance : Wire Grant where
  encode g :=
    .object [("configure", encode g.configure), ("write", encode g.write), ("read", encode g.read)]
  decode := Grant.record.decode

/-- A malformed text is refused in its own words. -/
def refuse {α : Type} : Except Malformed α → Except DecodeError α
  | .ok a => .ok a
  | .error e => .error (.refused e.message)

instance : Wire RoutingKey where
  encode k := .string k.text
  decode j := do refuse (RoutingKey.ofString? (← decode j))

instance : Wire AdaptorId where
  encode id := .string id.text
  decode j := do refuse (AdaptorId.ofString? (← decode j))

end BrokerControl.Access
