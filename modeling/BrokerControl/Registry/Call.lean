import BrokerControl.Registry.State

/-!
# Registry calls

Each thing that is asked of the registry is a `Call`, which determines the type of its answer.
-/

namespace BrokerControl.Registry

inductive Call where
  | getCredential (username : String)
  | insertCredential (row : Credential)
  | updatePassword (username hash : String)
  | getCallback (id : String)
  | insertCallback (row : Callback)
  | updateEntities (id : String) (entities : List String)
  | deleteCallback (id : String)
  deriving DecidableEq

namespace Call

abbrev Answer : Call → Type
  | .getCredential _ => Credential
  | .getCallback _ => Callback
  | _ => Unit

def name : Call → String
  | .getCredential _ => "store.get_broker_user"
  | .insertCredential _ => "store.insert_broker_user"
  | .updatePassword .. => "store.update_broker_password"
  | .getCallback _ => "store.get_callback"
  | .insertCallback _ => "store.insert_callback"
  | .updateEntities .. => "store.update_callback_entities"
  | .deleteCallback _ => "store.delete_callback"

end Call

def perform (r : Registry) : (c : Call) → Outcome c.Answer
  | .getCredential username => r.getCredential username
  | .insertCredential row => r.insertCredential row
  | .updatePassword username hash => r.updatePassword username hash
  | .getCallback id => r.getCallback id
  | .insertCallback row => r.insertCallback row
  | .updateEntities id entities => r.updateEntities id entities
  | .deleteCallback id => r.deleteCallback id

/-- The answer to a call, and the state after it. A call that fails changes nothing. -/
def respond (r : Registry) (c : Call) : Except Error c.Answer × Registry :=
  match r.perform c with
  | .ok (a, r) => (.ok a, r)
  | .error e => (.error e, r)

end BrokerControl.Registry
