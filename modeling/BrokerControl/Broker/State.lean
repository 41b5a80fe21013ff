import BrokerControl.Access.Grant
import BrokerControl.Broker.Address
import BrokerControl.Broker.Error
import BrokerControl.Broker.Resource

/-!
# A broker in memory

The whole state of a broker and what each call does to it. Virtual hosts are only listed: exchanges
and queues may be declared on any. A binding needs both its ends, bindings are kept in the order
they were made, and an exchange or queue takes its bindings along when it is deleted.
-/

namespace BrokerControl

open Access (Grant)

namespace Broker

structure Binding where
  vhost : String
  exchange : String
  queue : String
  routingKey : String
  deriving DecidableEq

structure Message where
  vhost : String
  exchange : String
  routingKey : String
  body : ByteArray

/-- The calls that are made to fail. -/
structure Faults where
  /-- The queues that nothing can be bound to. -/
  bindToQueues : List String := []
  setPermissions : Bool := false
  publish : Bool := false
  deleteExchange : Bool := false
  deleteQueue : Bool := false
  deriving DecidableEq, Inhabited

end Broker

open Broker

structure Broker where
  vhosts : Directory String Unit := ∅
  exchanges : Directory Address Exchange := ∅
  queues : Directory Address Unit := ∅
  bindings : List Binding := []
  /-- Users with their passwords. -/
  users : Directory String String := ∅
  grants : Directory Address Grant := ∅
  published : List Message := []
  faults : Faults := {}
  deriving Inhabited

namespace Broker

/-- A call at work on the state. What it has changed by the time it fails stays changed. -/
abbrev Action := ExceptT Error (StateM Broker)

def injected (path : String) : Error := .unexpectedStatus path 500

/-! ## Exchanges -/

def createExchange (vhost name : String) : Action Unit := do
  if (← get).exchanges.contains ⟨vhost, name⟩ then
    throw (.alreadyExists s!"exchange {name}")
  modify fun b => { b with exchanges := b.exchanges.insert ⟨vhost, name⟩ (.topic vhost name) }

def getExchange (vhost name : String) : Action Exchange := do
  match (← get).exchanges.get? ⟨vhost, name⟩ with
  | some x => return x
  | none => throw (.notFound s!"exchange {name}")

/-- The exchange is taken out first; that it was not there shows in what came out. -/
def deleteExchange (vhost name : String) : Action Unit := do
  if (← get).faults.deleteExchange then
    throw (injected s!"/api/exchanges/{vhost}/{name}")
  let old := (← get).exchanges
  modify fun b => { b with exchanges := b.exchanges.erase ⟨vhost, name⟩ }
  if !old.contains ⟨vhost, name⟩ then
    throw (.notFound s!"exchange {name}")
  modify fun b =>
    { b with bindings := b.bindings.filter fun x => !(x.vhost == vhost && x.exchange == name) }

def listExchangeBindings (vhost name : String) : Action BindingsByQueue := do
  let b ← get
  if !b.exchanges.contains ⟨vhost, name⟩ then
    throw (.notFound s!"exchange {name}")
  let own := b.bindings.filter fun x => x.vhost == vhost && x.exchange == name
  return own.foldl (fun d x => d.push x.queue x.routingKey) ∅

/-! ## Queues -/

def createQueue (vhost name : String) : Action Unit := do
  let old := (← get).queues
  modify fun b => { b with queues := b.queues.insert ⟨vhost, name⟩ () }
  if old.contains ⟨vhost, name⟩ then
    throw (.alreadyExists s!"queue {name}")

def deleteQueue (vhost name : String) : Action Unit := do
  if (← get).faults.deleteQueue then
    throw (injected s!"/api/queues/{vhost}/{name}")
  let old := (← get).queues
  modify fun b => { b with queues := b.queues.erase ⟨vhost, name⟩ }
  if !old.contains ⟨vhost, name⟩ then
    throw (.notFound s!"queue {name}")
  modify fun b =>
    { b with bindings := b.bindings.filter fun x => !(x.vhost == vhost && x.queue == name) }

def listQueueBindings (vhost name : String) : Action (List String) := do
  let b ← get
  if !b.queues.contains ⟨vhost, name⟩ then
    throw (.notFound s!"queue {name}")
  let own := b.bindings.filter fun x => x.vhost == vhost && x.queue == name
  return own.map (·.routingKey)

/-! ## Bindings -/

/-- Binding again what is bound already changes nothing. -/
def bindQueue (vhost exchange queue key : String) : Action Unit := do
  let b ← get
  if b.faults.bindToQueues.contains queue then
    throw (injected s!"/api/bindings/{vhost}/e/{exchange}/q/{queue}")
  if !b.exchanges.contains ⟨vhost, exchange⟩ then
    throw (.notFound s!"exchange {exchange}")
  if !b.queues.contains ⟨vhost, queue⟩ then
    throw (.notFound s!"queue {queue}")
  let new : Binding := ⟨vhost, exchange, queue, key⟩
  if new ∉ b.bindings then
    modify fun b => { b with bindings := b.bindings ++ [new] }

/-- The binding is taken out first; that it was not there shows in the number of those left. -/
def unbindQueue (vhost exchange queue key : String) : Action Unit := do
  let before := (← get).bindings.length
  let old : Binding := ⟨vhost, exchange, queue, key⟩
  modify fun b => { b with bindings := b.bindings.filter (· ≠ old) }
  if (← get).bindings.length = before then
    throw (.notFound s!"binding {exchange} -> {queue}")

/-! ## Users and virtual hosts -/

def getUser (name : String) : Action UserEntry := do
  if !(← get).users.contains name then
    throw (.notFound s!"user {name}")
  return ⟨name⟩

def createUser (name password : String) : Action Unit := do
  if (← get).users.contains name then
    throw (.alreadyExists s!"user {name}")
  modify fun b => { b with users := b.users.insert name password }

def updateUserPassword (name password : String) : Action Unit := do
  if !(← get).users.contains name then
    throw (.notFound s!"user {name}")
  modify fun b => { b with users := b.users.insert name password }

def createVhost (name : String) : Action Unit := do
  let old := (← get).vhosts
  modify fun b => { b with vhosts := b.vhosts.insert name () }
  if old.contains name then
    throw (.alreadyExists s!"vhost {name}")

def deleteVhost (name : String) : Action Unit := do
  let old := (← get).vhosts
  modify fun b => { b with vhosts := b.vhosts.erase name }
  if !old.contains name then
    throw (.notFound s!"vhost {name}")

def listVhosts : Action (List String) := do
  return (← get).vhosts.keys

/-! ## Grants -/

def getUserPermissions (vhost user : String) : Action Grant := do
  match (← get).grants.get? ⟨vhost, user⟩ with
  | some g => return g
  | none => throw (.notFound s!"permissions for {user} on {vhost}")

def setUserPermissions (vhost user : String) (g : Grant) : Action Unit := do
  let b ← get
  if b.faults.setPermissions then
    throw (injected s!"/api/permissions/{vhost}/{user}")
  if !b.users.contains user then
    throw (.notFound s!"user {user}")
  modify fun b => { b with grants := b.grants.insert ⟨vhost, user⟩ g }

/-! ## Messages -/

def publish (vhost exchange key : String) (body : ByteArray) : Action Unit := do
  let b ← get
  if b.faults.publish then
    throw (injected s!"/api/exchanges/{vhost}/{exchange}/publish")
  if !b.exchanges.contains ⟨vhost, exchange⟩ then
    throw (.notFound s!"exchange {exchange}")
  modify fun b => { b with published := b.published ++ [⟨vhost, exchange, key, body⟩] }

end Broker

end BrokerControl
