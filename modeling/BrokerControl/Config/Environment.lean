import BrokerControl.Config.Basic

/-!
# Configuration from the environment

Each part of the configuration has a variable of its own; one that is not set leaves the default.
Variables are read in a fixed order, and the first that cannot be read ends it. The numbers for the
database count only if its URL is set.
-/

namespace BrokerControl.Config

/-- The values of the variables that are set. -/
abbrev Environment := String → Option String

/-- All variables that are looked at. -/
def variableNames : List String :=
  ["COURIER_MGMT_URL", "COURIER_MGMT_USERNAME", "COURIER_MGMT_PASSWORD", "COURIER_MGMT_TIMEOUT_MS",
    "COURIER_AMQP_HOST", "COURIER_AMQP_PORT", "COURIER_DATA_VHOST", "COURIER_INTERNAL_VHOST",
    "COURIER_DATA_QUEUE", "COURIER_LATEST_QUEUE", "COURIER_LOGS_QUEUE", "COURIER_AUDITING_QUEUE",
    "COURIER_CALLBACK_QUEUE", "COURIER_NOTIFICATION_EXCHANGE", "COURIER_STORAGE", "COURIER_PG_URL",
    "COURIER_PG_MAX_CONNECTIONS", "COURIER_PG_CONNECT_TIMEOUT_MS", "COURIER_PG_ACQUIRE_TIMEOUT_MS",
    "COURIER_CP_CONFIG"]

namespace Environment

def textOr (env : Environment) (name absent : String) : String := (env name).getD absent

/-- A number below a bound. -/
def numberOr (env : Environment) (name : String) (bound absent : Nat) : Except Error Nat :=
  match env name with
  | none => .ok absent
  | some text => (Text.naturalBelow 10 bound text.toList).mapError (.badNumber name)

def storage (env : Environment) : Except Error Storage :=
  let given := env.textOr "COURIER_STORAGE" "memory"
  match Storage.ofName? given with
  | some s => .ok s
  | none => .error (.unsupportedStorage given)

def postgres (env : Environment) : Except Error (Option Postgres) := do
  let some url := env "COURIER_PG_URL" | return none
  let maxConnections ← env.numberOr "COURIER_PG_MAX_CONNECTIONS" UInt32.size 10
  let connectTimeout ← env.numberOr "COURIER_PG_CONNECT_TIMEOUT_MS" UInt64.size 5000
  let acquireTimeout ← env.numberOr "COURIER_PG_ACQUIRE_TIMEOUT_MS" UInt64.size 5000
  return some {
    url
    maxConnections := .ofNat maxConnections
    connectTimeoutMs := .ofNat connectTimeout
    acquireTimeoutMs := .ofNat acquireTimeout }

def config (env : Environment) : Except Error Config := do
  let m : Management := {}
  let s : Control.Settings := {}
  let timeout ← env.numberOr "COURIER_MGMT_TIMEOUT_MS" UInt64.size m.timeoutMs.toNat
  let port ← env.numberOr "COURIER_AMQP_PORT" UInt16.size s.amqpPort.toNat
  let storage ← env.storage
  let postgres ← env.postgres
  return {
    management := {
      url := env.textOr "COURIER_MGMT_URL" m.url
      username := env.textOr "COURIER_MGMT_USERNAME" m.username
      password := env.textOr "COURIER_MGMT_PASSWORD" m.password
      timeoutMs := .ofNat timeout }
    settings := {
      amqpHost := env.textOr "COURIER_AMQP_HOST" s.amqpHost
      amqpPort := .ofNat port
      dataVhost := env.textOr "COURIER_DATA_VHOST" s.dataVhost
      internalVhost := env.textOr "COURIER_INTERNAL_VHOST" s.internalVhost
      dataQueue := env.textOr "COURIER_DATA_QUEUE" s.dataQueue
      latestQueue := env.textOr "COURIER_LATEST_QUEUE" s.latestQueue
      logsQueue := env.textOr "COURIER_LOGS_QUEUE" s.logsQueue
      auditingQueue := env.textOr "COURIER_AUDITING_QUEUE" s.auditingQueue
      callbackQueue := env.textOr "COURIER_CALLBACK_QUEUE" s.callbackQueue
      notificationExchange := env.textOr "COURIER_NOTIFICATION_EXCHANGE" s.notificationExchange }
    storage
    postgres }

end Environment

end BrokerControl.Config
