import BrokerControl.Access.Wire
import BrokerControl.Broker.Call
import BrokerControl.Broker.Wire
import BrokerControl.Management.Url

/-!
# Requests to the management interface

Every broker call is one request: a method, the names that lead to a resource, and sometimes a JSON
body. Sending is left to a `Transport`, which may bring back a reply.
-/

namespace BrokerControl.Management

open Json

inductive Method where
  | get
  | put
  | post
  | delete
  deriving DecidableEq

def Method.name : Method → String
  | .get => "GET"
  | .put => "PUT"
  | .post => "POST"
  | .delete => "DELETE"

structure Request where
  method : Method
  url : Url
  authorization : String
  body : Option Json

structure Reply where
  status : UInt16
  body : ByteArray

/-- What carries a request to the broker, and a reply back if one comes. -/
abbrev Transport (m : Type → Type) := Request → m (Option Reply)

/-- The transport of a broker that is out of reach. -/
def Transport.unreachable {m : Type → Type} [Monad m] : Transport m := fun _ => return none

/-- The name of a binding without arguments, made of its key. -/
def propertiesKey (key : String) : String :=
  if key = "" then "~" else Text.Percent.encode Text.Percent.isUnreserved key

end BrokerControl.Management

namespace BrokerControl.Broker.Call

open Json Management

def method : Call → Method
  | .getExchange .. | .listExchangeBindings .. | .listQueueBindings .. | .getUser _ | .listVhosts
  | .getUserPermissions .. => .get
  | .createExchange .. | .createQueue .. | .createUser .. | .updateUserPassword .. | .createVhost _
  | .setUserPermissions .. => .put
  | .bindQueue .. | .publish .. => .post
  | .deleteExchange .. | .deleteQueue .. | .unbindQueue .. | .deleteVhost _ => .delete

/-- The names that lead to the resource of a call. -/
def names : Call → List String
  | .createExchange vhost name | .getExchange vhost name | .deleteExchange vhost name =>
    ["exchanges", vhost, name]
  | .listExchangeBindings vhost name => ["exchanges", vhost, name, "bindings", "source"]
  | .createQueue vhost name | .deleteQueue vhost name => ["queues", vhost, name]
  | .listQueueBindings vhost name => ["queues", vhost, name, "bindings"]
  | .bindQueue vhost exchange queue _ => ["bindings", vhost, "e", exchange, "q", queue]
  | .unbindQueue vhost exchange queue key =>
    ["bindings", vhost, "e", exchange, "q", queue, propertiesKey key]
  | .getUser name | .createUser name _ | .updateUserPassword name _ => ["users", name]
  | .createVhost name | .deleteVhost name => ["vhosts", name]
  | .listVhosts => ["vhosts"]
  | .getUserPermissions vhost user | .setUserPermissions vhost user _ =>
    ["permissions", vhost, user]
  | .publish vhost exchange _ _ => ["exchanges", vhost, exchange, "publish"]

/-- What a call is about, as its failures say it. -/
def subject : Call → String
  | .createExchange _ name | .getExchange _ name | .deleteExchange _ name
  | .listExchangeBindings _ name | .publish _ name _ _ => s!"exchange {name}"
  | .createQueue _ name | .deleteQueue _ name | .listQueueBindings _ name => s!"queue {name}"
  | .bindQueue _ exchange queue _ | .unbindQueue _ exchange queue _ =>
    s!"binding {exchange} -> {queue}"
  | .getUser name | .createUser name _ | .updateUserPassword name _
  | .setUserPermissions _ name _ => s!"user {name}"
  | .createVhost name | .deleteVhost name => s!"vhost {name}"
  | .listVhosts => "vhosts"
  | .getUserPermissions vhost user => s!"permissions for {user} on {vhost}"

/-- The body of the request for a call; a message must be text. -/
def body (arguments : QueueArguments) : Call → Except Error (Option Json)
  | .createExchange .. => .ok (some (.object [("type", .string "topic"),
      ("auto_delete", .bool false), ("durable", .bool true)]))
  | .createQueue .. =>
    .ok (some (.object [("durable", .bool true), ("arguments", encode arguments)]))
  | .bindQueue _ _ _ key => .ok (some (.object [("routing_key", .string key)]))
  | .createUser _ password | .updateUserPassword _ password =>
    .ok (some (.object [("password", .string password), ("tags", .string "")]))
  | .setUserPermissions _ _ grant => .ok (some (encode grant))
  | .publish _ _ key message => match String.fromUTF8? message with
    | some text => .ok (some (.object [("properties", .object []), ("routing_key", .string key),
        ("payload", .string text), ("payload_encoding", .string "string")]))
    | none => .error .invalidPayload
  | _ => .ok none

end BrokerControl.Broker.Call
