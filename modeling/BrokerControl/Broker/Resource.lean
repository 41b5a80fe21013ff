import BrokerControl.Data.Directory

/-!
# What a broker holds

The descriptions that a broker gives of its exchanges, bindings, users and virtual hosts.
-/

namespace BrokerControl.Broker

structure Exchange where
  name : String
  vhost : String
  kind : String
  durable : Bool
  autoDelete : Bool
  deriving DecidableEq

/-- Exchanges are made to last and route by topic. -/
def Exchange.topic (vhost name : String) : Exchange := ⟨name, vhost, "topic", true, false⟩

structure UserEntry where
  name : String
  deriving DecidableEq

structure VhostEntry where
  name : String
  deriving DecidableEq

/-- The arguments that every queue is declared with. -/
structure QueueArguments where
  messageTtl : UInt64 := 86400000
  maxLength : UInt64 := 10000
  queueMode : String := "lazy"
  deriving DecidableEq

/-! ## Bindings of an exchange -/

/-- One row of a listing of bindings. -/
structure BindingRow where
  source : String
  destination : String
  destinationType : String
  routingKey : String
  deriving DecidableEq

/-- Whether the row leads to a queue; rows without a type do. -/
def BindingRow.leadsToQueue (r : BindingRow) : Bool :=
  r.destinationType == "" || r.destinationType == "queue"

/-- Routing keys in order for each queue that has any. -/
abbrev BindingsByQueue := Directory String (List String)

namespace BindingsByQueue

def push (d : BindingsByQueue) (queue key : String) : BindingsByQueue :=
  d.insert queue ((d.get? queue).getD [] ++ [key])

/-- The rows that lead to queues, grouped. -/
def ofRows (rows : List BindingRow) : BindingsByQueue :=
  (rows.filter (·.leadsToQueue)).foldl (fun d r => push d r.destination r.routingKey) ∅

end BindingsByQueue

end BrokerControl.Broker
