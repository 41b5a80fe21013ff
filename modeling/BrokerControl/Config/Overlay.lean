import BrokerControl.Config.Environment
import BrokerControl.Yaml.Value

/-!
# Configuration from a file

A file may set any part of the configuration again. What it sets counts, what it leaves out or sets
to nothing stays as it was.
-/

namespace BrokerControl.Config

open Yaml (Document Node)

/-- The fields of a file. -/
abbrev Fields := List (String × Node)

namespace Fields

/-- The value of a field, if it is there and is not nothing. -/
def get? {α : Type} (fs : Fields) (name : String) (value? : Node → Option α) :
    Option (Option α) :=
  match fs.lookup name with
  | some n => n.optional? value?
  | none => some none

def textOr (fs : Fields) (name absent : String) : Option String :=
  return (← fs.get? name Node.text?).getD absent

def numberOr (fs : Fields) (name : String) (bound absent : Nat) : Option Nat :=
  return (← fs.get? name (Node.natural? bound)).getD absent

end Fields

def postgresFields : List String :=
  ["url", "max_connections", "connect_timeout_ms", "acquire_timeout_ms"]

/-- All fields of the database, none of which may be missing. -/
def Postgres.ofNode? (d : Document) (n : Node) : Option Postgres := do
  let fs ← d.fields? postgresFields n
  let url ← (← fs.lookup "url").text?
  let maxConnections ← (← fs.lookup "max_connections").natural? UInt32.size
  let connectTimeout ← (← fs.lookup "connect_timeout_ms").natural? UInt64.size
  let acquireTimeout ← (← fs.lookup "acquire_timeout_ms").natural? UInt64.size
  return {
    url
    maxConnections := .ofNat maxConnections
    connectTimeoutMs := .ofNat connectTimeout
    acquireTimeoutMs := .ofNat acquireTimeout }

def Storage.ofNode? (n : Node) : Option Storage := do
  Storage.ofName? (← n.alternative?)

def fileFields : List String :=
  ["management_url", "management_username", "management_password", "management_timeout_ms",
    "amqp_host", "amqp_port", "data_vhost", "internal_vhost", "data_queue", "latest_queue",
    "logs_queue", "auditing_queue", "callback_queue", "notification_exchange", "storage",
    "postgres"]

/-- The configuration with what a document sets. -/
def overlay (c : Config) (d : Document) : Option Config := do
  let fs : Fields ← d.fields? fileFields d.root
  let timeout ← fs.numberOr "management_timeout_ms" UInt64.size c.management.timeoutMs.toNat
  let port ← fs.numberOr "amqp_port" UInt16.size c.settings.amqpPort.toNat
  let postgres ← fs.get? "postgres" (Postgres.ofNode? d)
  return {
    management := {
      url := ← fs.textOr "management_url" c.management.url
      username := ← fs.textOr "management_username" c.management.username
      password := ← fs.textOr "management_password" c.management.password
      timeoutMs := .ofNat timeout }
    settings := {
      amqpHost := ← fs.textOr "amqp_host" c.settings.amqpHost
      amqpPort := .ofNat port
      dataVhost := ← fs.textOr "data_vhost" c.settings.dataVhost
      internalVhost := ← fs.textOr "internal_vhost" c.settings.internalVhost
      dataQueue := ← fs.textOr "data_queue" c.settings.dataQueue
      latestQueue := ← fs.textOr "latest_queue" c.settings.latestQueue
      logsQueue := ← fs.textOr "logs_queue" c.settings.logsQueue
      auditingQueue := ← fs.textOr "auditing_queue" c.settings.auditingQueue
      callbackQueue := ← fs.textOr "callback_queue" c.settings.callbackQueue
      notificationExchange :=
        ← fs.textOr "notification_exchange" c.settings.notificationExchange }
    storage := (← fs.get? "storage" Storage.ofNode?).getD c.storage
    postgres := postgres <|> c.postgres }

/-- The configuration with what the text of a file sets; an empty text sets nothing. -/
def withFile (c : Config) (text : String) : Except Error Config :=
  let read := do
    match ← Yaml.read? text with
    | some d => overlay c d
    | none => some c
  match read with
  | some c => .ok c
  | none => .error .badFile

/-- The configuration from the environment and the file that it names, if it names one. -/
def load (env : Environment) (file : String → Option String) : Except Error Config := do
  let c ← env.config
  match env "COURIER_CP_CONFIG" with
  | none => return c
  | some path => match file path with
    | none => throw (.unreadable path)
    | some text => withFile c text

end BrokerControl.Config
