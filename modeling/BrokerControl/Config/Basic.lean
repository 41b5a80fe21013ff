import BrokerControl.Broker.Wire
import BrokerControl.Control.Settings
import BrokerControl.Text.Integer

/-!
# Configuration

What the program must know before it starts: where the broker is managed, the settings of the
control plane, and where the registry is kept. Without any configuration it runs against a broker
on the same machine and keeps the registry in memory.
-/

namespace BrokerControl

namespace Config

open Json

/-- Access to the management interface of the broker. -/
structure Management where
  url : String := "http://localhost:15672"
  username : String := "guest"
  password : String := "guest"
  timeoutMs : UInt64 := 10000
  deriving DecidableEq

/-- Where the registry is kept. -/
inductive Storage where
  | memory
  | postgres
  deriving DecidableEq

def Storage.name : Storage → String
  | .memory => "memory"
  | .postgres => "postgres"

def Storage.ofName? (s : String) : Option Storage :=
  if s = "memory" then some .memory else if s = "postgres" then some .postgres else none

structure Postgres where
  url : String
  maxConnections : UInt32
  connectTimeoutMs : UInt64
  acquireTimeoutMs : UInt64
  deriving DecidableEq

inductive Error where
  | badNumber (name : String) (fault : Text.IntegerFault)
  | unsupportedStorage (given : String)
  | unreadable (path : String)
  | badFile
  deriving DecidableEq

namespace Error

def message : Error → String
  | .badNumber name _ => s!"parse {name}"
  | .unsupportedStorage given => s!"unsupported COURIER_STORAGE: {given}"
  | .unreadable path => s!"read COURIER_CP_CONFIG: {path}"
  | .badFile => "parse control plane config yaml"

/-- What was wrong with a number. -/
def cause? : Error → Option String
  | .badNumber _ fault => some fault.message
  | _ => none

end Error

end Config

structure Config where
  management : Config.Management := {}
  settings : Control.Settings := {}
  storage : Config.Storage := .memory
  postgres : Option Config.Postgres := none
  deriving DecidableEq

end BrokerControl
