import BrokerControl.Data.Directory
import BrokerControl.Time.Timestamp

/-!
# The registry

The registry keeps what the broker cannot: the password hashes of the users that were created, and
the callback subscriptions. This one is in memory; its writes can be made to fail.
-/

namespace BrokerControl

namespace Registry

/-- The record of a broker user. -/
structure Credential where
  username : String
  passwordHash : String
  createdAt : Timestamp
  deriving DecidableEq

/-- A subscription whose messages are handed to a URL. -/
structure Callback where
  subscriptionId : String
  callbackUrl : String
  entities : List String
  startTime : Timestamp
  endTime : Timestamp
  frequency : Timestamp
  deriving DecidableEq

inductive Error where
  | notFound (what : String)
  | conflict (what : String)
  | unexpected (text : String)
  deriving DecidableEq, Inhabited

def Error.message : Error → String
  | .notFound what => s!"not found: {what}"
  | .conflict what => s!"conflict: {what}"
  | .unexpected text => text

end Registry

open Registry

structure Registry where
  /-- Credentials by user name. -/
  credentials : Directory String Credential := ∅
  /-- Callbacks by subscription id. -/
  callbacks : Directory String Callback := ∅
  rejectsWrites : Bool := false
  deriving Inhabited

namespace Registry

/-- What a call answers, and the state it leaves if it succeeds. -/
abbrev Outcome (α : Type) := Except Error (α × Registry)

def noCredential : Error := .notFound "broker user"

def noCallback : Error := .notFound "callback subscription"

/-- A write goes through unless writes are rejected. -/
def writing {α : Type} (r : Registry) (outcome : Outcome α) : Outcome α :=
  if r.rejectsWrites then .error (.unexpected "in-memory store rejecting writes") else outcome

/-! ## Credentials -/

def getCredential (r : Registry) (username : String) : Outcome Credential :=
  match r.credentials.get? username with
  | some c => .ok (c, r)
  | none => .error noCredential

def insertCredential (r : Registry) (c : Credential) : Outcome Unit :=
  r.writing <|
    if r.credentials.contains c.username then .error (.conflict "broker user")
    else .ok ((), { r with credentials := r.credentials.insert c.username c })

def updatePassword (r : Registry) (username hash : String) : Outcome Unit :=
  r.writing <|
    match r.credentials.get? username with
    | some c =>
      .ok ((), { r with
        credentials := r.credentials.insert username { c with passwordHash := hash } })
    | none => .error noCredential

/-! ## Callbacks -/

def getCallback (r : Registry) (id : String) : Outcome Callback :=
  match r.callbacks.get? id with
  | some c => .ok (c, r)
  | none => .error noCallback

def insertCallback (r : Registry) (c : Callback) : Outcome Unit :=
  r.writing <|
    if r.callbacks.contains c.subscriptionId then .error (.conflict "callback subscription")
    else .ok ((), { r with callbacks := r.callbacks.insert c.subscriptionId c })

def updateEntities (r : Registry) (id : String) (entities : List String) : Outcome Unit :=
  r.writing <|
    match r.callbacks.get? id with
    | some c => .ok ((), { r with callbacks := r.callbacks.insert id { c with entities } })
    | none => .error noCallback

def deleteCallback (r : Registry) (id : String) : Outcome Unit :=
  r.writing <|
    if r.callbacks.contains id then .ok ((), { r with callbacks := r.callbacks.erase id })
    else .error noCallback

/-! ## The store itself -/

def healthCheck (r : Registry) : Outcome Unit := .ok ((), r)

/-- The name of this kind of store. -/
def backendName : String := "memory"

/-- Whether the store outlives the program. -/
def isDurable : Bool := false

end Registry

end BrokerControl
