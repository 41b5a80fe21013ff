import BrokerControl.Broker.Resource
import BrokerControl.Json.Wire

/-!
# JSON forms of what a broker holds
-/

namespace BrokerControl.Broker

open Json

def Exchange.record : Record Exchange :=
  (((((Record.of Exchange.mk).required "name").optional "vhost" "").required "type").optional
    "durable" false).optional "auto_delete" false

instance : Wire Exchange where
  encode x := .object [("name", encode x.name), ("vhost", encode x.vhost), ("type", encode x.kind),
    ("durable", encode x.durable), ("auto_delete", encode x.autoDelete)]
  decode := Exchange.record.decode

def BindingRow.record : Record BindingRow :=
  ((((Record.of BindingRow.mk).optional "source" "").required "destination").optional
    "destination_type" "").required "routing_key"

instance : Wire BindingRow where
  encode r := .object [("source", encode r.source), ("destination", encode r.destination),
    ("destination_type", encode r.destinationType), ("routing_key", encode r.routingKey)]
  decode := BindingRow.record.decode

/-- Each field in turn, the last of a name taking the place of those before. -/
def BindingsByQueue.ofFields : List (String × Json) → BindingsByQueue →
    Except DecodeError BindingsByQueue
  | [], d => .ok d
  | (queue, j) :: rest, d => do
    let keys : List String ← decode j
    ofFields rest (d.insert queue keys)

instance : Wire BindingsByQueue where
  encode d := .object (d.toList.map fun (queue, keys) => (queue, encode keys))
  decode
    | .object fields => BindingsByQueue.ofFields fields ∅
    | _ => .error .mismatch

instance : Wire UserEntry where
  encode u := .object [("name", encode u.name)]
  decode := ((Record.of UserEntry.mk).required "name").decode

instance : Wire VhostEntry where
  encode v := .object [("name", encode v.name)]
  decode := ((Record.of VhostEntry.mk).required "name").decode

def QueueArguments.record : Record QueueArguments :=
  (((Record.of QueueArguments.mk).required "x-message-ttl").required "x-max-length").required
    "x-queue-mode"

instance : Wire QueueArguments where
  encode a := .object [("x-message-ttl", encode a.messageTtl), ("x-max-length", encode a.maxLength),
    ("x-queue-mode", encode a.queueMode)]
  decode := QueueArguments.record.decode

end BrokerControl.Broker
