import BrokerControl.Control.Adaptors
import BrokerControl.Json.Printer
import BrokerControl.Text.Occurs

/-!
# Heartbeats

A heartbeat is published on the adaptor's exchange with the first key, among those the exchange is
bound with, in which the status occurs. Queues are gone through in the order of their names and the
keys of a queue in the order they were bound.
-/

namespace BrokerControl.Control

open Procedure

def heartbeatMessage (id status : String) : String :=
  Json.print (.object [("id", .string id), ("status", .string status)])

/-- Goes through the queues with their keys and publishes along the first key with the status in it;
the queues after it are not looked at. The first key of all that were passed over is carried along,
and tells how to give up if no queue is left. -/
def forward (status : String) (publish : String → Procedure Unit)
    (giveUp : Option String → Failure) :
    Option String → List (String × List String) → Procedure HeartbeatRoute
  | firstMismatch, [] => throw (giveUp firstMismatch)
  | firstMismatch, (queue, keys) :: rest =>
    match keys.find? fun key => Text.occursIn status.toList key.toList with
    | some key => do
      publish key
      return ⟨queue, key⟩
    | none => forward status publish giveUp
      (if firstMismatch.isNone then keys.head? else firstMismatch) rest

/-- Why nothing was published: there is no key at all, or else the first one does not match. -/
def unmatched (id : String) (queues : List (String × List String)) (firstMismatch : Option String) :
    Failure :=
  if firstMismatch.isNone && queues.all (·.2.isEmpty) then
    .notFound s!"No queue bound to {id}"
  else
    let key := firstMismatch.getD ""
    .validation s!"Routing key not matched: {key}"

def publishHeartbeat (s : Settings) (h : Heartbeat) : Procedure HeartbeatRoute := do
  demand (h.status != "") "status must not be empty"
  let id ← readAdaptorId h.adaptorId
  let vhost := s.vhostOr h.vhost
  let _ ← require (.getExchange vhost id.text) (.ofBroker "Exchange lookup failed")
  let bindings ← require (.listExchangeBindings vhost id.text) (.ofBroker "Listing bindings failed")
  let publish (key : String) : Procedure Unit :=
    require (.publish vhost id.text key (heartbeatMessage id.text h.status).toUTF8)
      (.remote "Heartbeat publish failed")
  forward h.status publish (unmatched id.text bindings.toList) none bindings.toList

end BrokerControl.Control
