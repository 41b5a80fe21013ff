import BrokerControl.Control.Notification
import BrokerControl.Control.Payload
import BrokerControl.Control.Saga
import BrokerControl.Control.Settings
import BrokerControl.Control.Subscription

/-!
# Callback subscriptions

All share one queue, which is bound to the keys asked for; the registry has a row for each, and each
change of a row is announced on the notification exchange. A row whose creation cannot be announced
is deleted again.
-/

namespace BrokerControl.Control

open Procedure

/-- Announces a change of a callback subscription. -/
def notify (s : Settings) (n : Notification) : Procedure Unit :=
  require (.publish s.internalVhost s.notificationExchange n.key n.message.toUTF8)
    (.remote "Notification publish failed")

def registerCallback (s : Settings) (r : CallbackRequest) : Procedure CallbackSummary := do
  demand (!Text.isBlank r.callbackUrl) "callback url must not be empty"
  demandEntities r.entities
  let id ← ofExcept (subscriptionId r.consumer r.name)
  match ← registry (.getCallback id) with
  | .ok _ => throw (.duplicateSubscription id)
  | .error (.notFound _) => pure ()
  | .error e => throw (.persistence "Reading callback subscription failed" e)
  bindKeys s.dataVhost s.callbackQueue r.entities
  let now ← readClock
  let row : Registry.Callback := ⟨id, r.callbackUrl, r.entities, now, now, now⟩
  match ← registry (.insertCallback row) with
  | .ok _ => pure ()
  | .error (.conflict _) => throw (.duplicateSubscription id)
  | .error e => throw (.persistence "Saving callback subscription failed" e)
  let saga := (Saga.begin "callback_subscription").onFailure (Creation.callback id)
  saga.guarded (notify s ⟨id, .create⟩)
  saga.complete (m := Plan)
  return .ofRow row

/-- Binds the new keys and replaces the row's entities; keys no longer listed stay bound. -/
def updateCallback (s : Settings) (r : CallbackRequest) : Procedure CallbackSummary := do
  demandEntities r.entities
  let id ← ofExcept (subscriptionId r.consumer r.name)
  let row ← requireRow (.getCallback id) .ofRegistry
  bindKeys s.dataVhost s.callbackQueue r.entities
  requireRow (.updateEntities id r.entities) .ofRegistry
  notify s ⟨id, .update⟩
  return .ofRow { row with entities := r.entities }

/-- Deletes the row; announcing that may fail unnoticed. -/
def deleteCallback (s : Settings) (r : DeleteCallback) : Procedure Unit := do
  let id ← ofExcept (subscriptionId r.consumer r.name)
  let _ ← requireRow (.getCallback id) .ofRegistry
  requireRow (.deleteCallback id) .ofRegistry
  attempt (notify s ⟨id, .delete⟩)

def listCallback (consumer name : String) : Procedure CallbackSummary := do
  let id ← ofExcept (subscriptionId consumer name)
  return .ofRow (← requireRow (.getCallback id) .ofRegistry)

end BrokerControl.Control
