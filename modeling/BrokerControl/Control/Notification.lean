import BrokerControl.Json.Wire

/-!
# Notifications

A change of a callback subscription is announced in a message whose key is the kind of change. The
message is an object with the single field `body`, the JSON text of the notification as a string.
-/

namespace BrokerControl.Control

open Json

inductive Change where
  | create
  | update
  | delete
  deriving DecidableEq

def Change.name : Change → String
  | .create => "create"
  | .update => "update"
  | .delete => "delete"

instance : Wire Change where
  encode c := .string c.name
  decode := decodeVariant ([Change.create, .update, .delete].map fun c => (c.name, c))

structure Notification where
  subscriptionId : String
  change : Change
  deriving DecidableEq

namespace Notification

def record : Record Notification :=
  ((Record.of Notification.mk).required "subscriptionID").required "operation"

instance : Wire Notification where
  encode n := .object [("subscriptionID", encode n.subscriptionId), ("operation", encode n.change)]
  decode := record.decode

def message (n : Notification) : String := print (.object [("body", .string (encodeText n))])

def key (n : Notification) : String := n.change.name

end Notification

end BrokerControl.Control
