import BrokerControl.Control.Payload
import BrokerControl.Control.Plan
import BrokerControl.Control.Settings

/-!
# Topology

The virtual hosts, queues and exchange that the control plane needs are declared in a fixed order;
those that exist already are reported as such.
-/

namespace BrokerControl.Control

open Procedure

/-- Declares a resource and says whether it was made. -/
def declared (call : Plan (Except Broker.Error Unit)) (context : String) : Procedure Bool := do
  match ← call with
  | .ok _ => return true
  | .error (.alreadyExists _) => return false
  | .error e => throw (.remote context e)

def declareVhost (name : String) : Procedure TopologyEntry := do
  let created ← declared (broker (.createVhost name)) "Vhost creation failed"
  return ⟨"vhost", name, name, created⟩

def declareQueue (vhost name : String) : Procedure TopologyEntry := do
  let created ← declared (broker (.createQueue vhost name)) "Queue creation failed"
  return ⟨"queue", vhost, name, created⟩

def declareExchange (vhost name : String) : Procedure TopologyEntry := do
  let created ← declared (broker (.createExchange vhost name)) "Exchange creation failed"
  return ⟨"exchange", vhost, name, created⟩

def bootstrap (s : Settings) : Procedure (List TopologyEntry) := do
  let vhosts ← [s.dataVhost, s.internalVhost].mapM declareVhost
  let queues ← s.systemQueues.mapM (declareQueue s.dataVhost)
  let exchange ← declareExchange s.internalVhost s.notificationExchange
  return vhosts ++ queues ++ [exchange]

end BrokerControl.Control
