import BrokerControl.Management.Request
import BrokerControl.Text.Base64

/-!
# The client of a management interface

A broker behind its management interface: a call becomes a request, and the status of the reply says
what came of it. A change that makes something is told from one that finds it already there; a
resource that is not there is told from every other status.
-/

namespace BrokerControl

namespace Management

open Json

/-! ## Reading replies -/

/-- What a request was to do with its resource. -/
inductive Change where
  | create
  | delete
  | update
  deriving DecidableEq

/-- A status that is not success. -/
def refusal (subject path : String) (status : UInt16) : Broker.Error :=
  if status = 404 then .notFound subject else .unexpectedStatus path status

/-- The statuses that say it was done. -/
def Change.successes : Change → List UInt16
  | .create => [201]
  | .delete => [200, 204]
  | .update => [200, 201, 204]

def Change.outcome (change : Change) (subject path : String) (status : UInt16) :
    Except Broker.Error Unit :=
  if change.successes.contains status then .ok ()
  else if change = .create ∧ (status = 204 ∨ status = 400) then .error (.alreadyExists subject)
  else .error (refusal subject path status)

/-- The content of a reply to a question. -/
def content (α : Type) [Wire α] (subject path : String) (r : Reply) : Except Broker.Error α :=
  if r.status = 200 then
    match (String.fromUTF8? r.body).map (decodeText α) with
    | some (.ok a) => .ok a
    | _ => .error .transport
  else .error (refusal subject path r.status)

/-- Whether a published message reached a queue. -/
structure Routing where
  routed : Bool
  deriving DecidableEq

instance : Wire Routing where
  encode r := .object [("routed", encode r.routed)]
  decode := ((Record.of Routing.mk).optional "routed" false).decode

/-- The answer to a call that a reply gives. -/
def answer (path : String) (c : Broker.Call) (r : Reply) : Except Broker.Error c.Answer :=
  let changed (change : Change) := change.outcome c.subject path r.status
  match c with
  | .createExchange .. | .createQueue .. | .bindQueue .. | .createUser .. | .createVhost _ =>
    changed .create
  | .deleteExchange .. | .deleteQueue .. | .unbindQueue .. | .deleteVhost _ => changed .delete
  | .updateUserPassword .. | .setUserPermissions .. => changed .update
  | .getExchange .. => content Broker.Exchange c.subject path r
  | .listExchangeBindings .. =>
    (content (List Broker.BindingRow) c.subject path r).map Broker.BindingsByQueue.ofRows
  | .listQueueBindings _ name =>
    (content (List Broker.BindingRow) c.subject path r).map fun rows =>
      (rows.map (·.routingKey)).filter (· ≠ name)
  | .getUser _ => content Broker.UserEntry c.subject path r
  | .listVhosts =>
    (content (List Broker.VhostEntry) c.subject path r).map fun entries => entries.map (·.name)
  | .getUserPermissions .. => content Access.Grant c.subject path r
  | .publish .. => (content Routing c.subject path r).map fun _ => ()

end Management

/-! ## Clients -/

structure Management.Client where
  base : Management.Url
  username : String
  password : String
  queueArguments : Broker.QueueArguments := {}

namespace Management.Client

/-- The client of the interface at a URL. -/
def ofUrl (url username password : String) (queueArguments : Broker.QueueArguments := {}) :
    Except Broker.Error Client :=
  match Url.ofString? url with
  | some base => .ok { base, username, password, queueArguments }
  | none => .error (.invalidUrl url)

def authorization (client : Client) : String :=
  let encoded := Text.Base64.encode s!"{client.username}:{client.password}"
  s!"Basic {encoded}"

def request (client : Client) (c : Broker.Call) : Except Broker.Error Request := do
  let body ← c.body client.queueArguments
  return {
    method := c.method
    url := client.base.resource c.names
    authorization := client.authorization
    body }

/-- Makes a call over a transport. -/
def ask {m : Type → Type} [Monad m] (client : Client) (transport : Transport m)
    (c : Broker.Call) : m (Except Broker.Error c.Answer) :=
  match client.request c with
  | .error e => return .error e
  | .ok request => do
    match ← transport request with
    | some reply => return answer request.url.path c reply
    | none => return .error .transport

end Management.Client

end BrokerControl
