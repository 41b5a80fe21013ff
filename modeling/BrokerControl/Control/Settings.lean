import BrokerControl.Json.Wire

/-!
# Settings of the control plane

Where clients reach the broker, and the names of the virtual hosts, queues and exchange that the
control plane keeps for itself.
-/

namespace BrokerControl.Control

open Json

structure Settings where
  amqpHost : String := "localhost"
  amqpPort : UInt16 := 5671
  dataVhost : String := "IUDX"
  internalVhost : String := "IUDX-INTERNAL"
  dataQueue : String := "database"
  latestQueue : String := "redis-latest"
  logsQueue : String := "adaptorLogs"
  auditingQueue : String := "subscriptions-monitoring"
  callbackQueue : String := "callback.data"
  notificationExchange : String := "callback.notification"
  deriving DecidableEq, Inhabited

namespace Settings

/-- The virtual host asked for, or that of the data if none is named. -/
def vhostOr (s : Settings) (vhost : Option String) : String :=
  match vhost with
  | some v => if v = "" then s.dataVhost else v
  | none => s.dataVhost

/-- The queues that exist before any subscription. -/
def systemQueues (s : Settings) : List String :=
  [s.dataQueue, s.latestQueue, s.logsQueue, s.auditingQueue, s.callbackQueue]

def toJson (s : Settings) : Json :=
  .object [("amqp_host", encode s.amqpHost), ("amqp_port", encode s.amqpPort),
    ("data_vhost", encode s.dataVhost), ("internal_vhost", encode s.internalVhost),
    ("data_queue", encode s.dataQueue), ("latest_queue", encode s.latestQueue),
    ("logs_queue", encode s.logsQueue), ("auditing_queue", encode s.auditingQueue),
    ("callback_queue", encode s.callbackQueue),
    ("notification_exchange", encode s.notificationExchange)]

end Settings

end BrokerControl.Control
