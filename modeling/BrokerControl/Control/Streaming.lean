import BrokerControl.Control.Saga
import BrokerControl.Control.Settings
import BrokerControl.Control.Subscription
import BrokerControl.Control.Users

/-!
# Streaming subscriptions

Each has a queue of its own, named by the subscription's id, bound to the keys asked for and
readable by its consumer. A failure after the queue was made deletes it again.
-/

namespace BrokerControl.Control

open Procedure

/-- Makes the queue of a subscription. -/
def provisionStream (s : Settings) (id consumer : String) (entities : List String) :
    Procedure Unit := do
  match ← broker (.createQueue s.dataVhost id) with
  | .ok _ => pure ()
  | .error (.alreadyExists _) => throw (.conflict "queue_exists" s!"Queue {id} already exists")
  | .error e => throw (.remote "Queue creation failed" e)
  let saga := (Saga.begin "streaming_subscription").onFailure (Creation.queue s.dataVhost id)
  saga.guarded (bindKeys s.dataVhost id entities)
  saga.guarded (updatePermissions s.dataVhost consumer .addRead id)
  saga.complete (m := Plan)

/-- What a consumer needs to connect. -/
def streamingAccess (s : Settings) (id : String) (credentials : Credentials) :
    StreamingSubscription where
  subscriptionId := id
  username := credentials.username
  apiKey := credentials.apiKey
  streamingUrl := s!"amqps://{s.amqpHost}:{s.amqpPort.toNat}/{s.dataVhost}"
  host := s.amqpHost
  port := s.amqpPort
  vhost := s.dataVhost

def registerStreaming (s : Settings) (r : StreamingRequest) : Procedure StreamingSubscription := do
  demandEntities r.entities
  let id ← ofExcept (subscriptionId r.consumer r.name)
  let credentials ← ensureUser r.consumer s.internalVhost
  provisionStream s id r.consumer r.entities
  return streamingAccess s id credentials

/-- Deletes the queue, if there is one, and makes it anew. -/
def updateStreaming (s : Settings) (r : StreamingRequest) : Procedure StreamingSubscription := do
  demandEntities r.entities
  let id ← ofExcept (subscriptionId r.consumer r.name)
  match ← broker (.deleteQueue s.dataVhost id) with
  | .ok _ | .error (.notFound _) => pure ()
  | .error e => throw (.remote "Queue deletion failed" e)
  let credentials ← ensureUser r.consumer s.internalVhost
  provisionStream s id r.consumer r.entities
  return streamingAccess s id credentials

def listStreaming (s : Settings) (id : String) : Procedure StreamingBindings := do
  let entities ← require (.listQueueBindings s.dataVhost id) (.ofBroker "Listing bindings failed")
  return ⟨id, entities⟩

/-- Binds further keys; those before a failing one stay bound. -/
def appendStreaming (s : Settings) (r : AppendStreaming) : Procedure StreamingBindings := do
  match ← broker (.listQueueBindings s.dataVhost r.subscriptionId) with
  | .ok _ => pure ()
  | .error (.notFound _) =>
    throw (.validation s!"Subscription queue {r.subscriptionId} does not exist")
  | .error e => throw (.remote "Listing bindings failed" e)
  demandEntities r.entities
  bindKeys s.dataVhost r.subscriptionId r.entities
  listStreaming s r.subscriptionId

/-- Deletes the queue; taking back the consumer's right to read may fail unnoticed. -/
def deleteStreaming (s : Settings) (r : DeleteStreaming) : Procedure Unit := do
  demand (!Text.isBlank r.subscriptionId) "subscription id must not be empty"
  require (.deleteQueue s.dataVhost r.subscriptionId) (.ofBroker "Queue deletion failed")
  attempt (updatePermissions s.dataVhost r.consumer .deleteRead r.subscriptionId)

end BrokerControl.Control
