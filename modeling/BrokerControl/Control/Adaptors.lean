import BrokerControl.Access.AdaptorId
import BrokerControl.Control.Saga
import BrokerControl.Control.Settings
import BrokerControl.Control.Users

/-!
# Adaptors

An adaptor owns the exchange of its name. Registering it makes the exchange, lets the owner write
to it and binds it to the system queues; a failure after the exchange was made deletes it again.
-/

namespace BrokerControl.Control

open Access (AdaptorId)
open Procedure

/-- The channels on which an adaptor reports on itself. -/
def statusSuffixes : List String := [".heartbeat", ".dataIssue", ".downstreamIssue"]

/-- The queues and keys that an adaptor's exchange is bound with, in order. -/
def fanOut (s : Settings) (id : AdaptorId) : List (String × String) :=
  [(s.dataQueue, id.dataPattern), (s.latestQueue, id.dataPattern)] ++
    statusSuffixes.map (fun suffix => (s.logsQueue, id.statusKey suffix)) ++
    [(s.auditingQueue, id.dataPattern)]

def readAdaptorId (text : String) : Procedure AdaptorId :=
  ofExcept ((AdaptorId.ofString? text).mapError .ofMalformed)

def demandOwner (owner : String) : Procedure Unit :=
  demand (!Text.isBlank owner) "owner must not be empty"

/-- Binds an exchange to queues one after the other. -/
def bindFanOut (saga : Saga Creation) (vhost exchange : String) :
    List (String × String) → Procedure Unit
  | [] => return ()
  | (queue, key) :: rest => do
    saga.guarded (require (.bindQueue vhost exchange queue key) (.remote "Queue binding failed"))
    bindFanOut saga vhost exchange rest

def registerAdaptor (s : Settings) (r : RegisterAdaptor) : Procedure AdaptorRegistration := do
  let id ← readAdaptorId r.adaptorId
  demandOwner r.owner
  let vhost := s.vhostOr r.vhost
  let credentials ← ensureUser r.owner vhost
  match ← broker (.createExchange vhost id.text) with
  | .ok _ => pure ()
  | .error (.alreadyExists _) =>
    throw (.conflict "exchange_exists" s!"Exchange {id.text} already exists")
  | .error e => throw (.remote "Exchange creation failed" e)
  let saga := (Saga.begin "register_adaptor").onFailure (Creation.exchange vhost id.text)
  saga.guarded (updatePermissions vhost r.owner .addWrite id.text)
  bindFanOut saga vhost id.text (fanOut s id)
  saga.complete (m := Plan)
  return {
    username := credentials.username
    apiKey := credentials.apiKey
    id := id.text
    url := s.amqpHost
    port := s.amqpPort
    vhost }

/-- Deletes the exchange; taking back the owner's right to write may fail unnoticed. -/
def deleteAdaptor (s : Settings) (r : DeleteAdaptor) : Procedure Unit := do
  let id ← readAdaptorId r.adaptorId
  demandOwner r.owner
  let vhost := s.vhostOr r.vhost
  let _ ← require (.getExchange vhost id.text) (.ofBroker "Exchange lookup failed")
  require (.deleteExchange vhost id.text) (.ofBroker "Exchange deletion failed")
  attempt (updatePermissions vhost r.owner .deleteWrite id.text)

def getAdaptor (s : Settings) (adaptorId : String) (vhost : Option String) :
    Procedure Broker.Exchange := do
  let id ← readAdaptorId adaptorId
  require (.getExchange (s.vhostOr vhost) id.text) (.ofBroker "Exchange lookup failed")

def listAdaptorBindings (s : Settings) (adaptorId : String) (vhost : Option String) :
    Procedure AdaptorBindings := do
  let id ← readAdaptorId adaptorId
  let queues ← require (.listExchangeBindings (s.vhostOr vhost) id.text)
    (.ofBroker "Listing bindings failed")
  return ⟨id.text, queues⟩

end BrokerControl.Control
