import BrokerControl.Config.Basic
import BrokerControl.Management.Client
import BrokerControl.Registry.State

/-!
# Starting up

A configuration is good enough to start when its registry can be opened and its URL can be called.
The registry is looked at first. Only a registry in memory can be opened: there is no connection to
a database here.
-/

namespace BrokerControl.Config

inductive StartFault where
  | postgresMissing
  | postgresUnreachable
  | client (error : Broker.Error)
  deriving DecidableEq

/-- The reasons for a fault, each because of the next. -/
def StartFault.reasons : StartFault → List String
  | .postgresMissing => ["postgres configuration missing"]
  | .postgresUnreachable => ["connect registry store"]
  | .client e => ["build management client", e.message]

def Management.client (m : Management) : Except Broker.Error Management.Client :=
  Management.Client.ofUrl m.url m.username m.password

def openRegistry (c : Config) : Except StartFault Registry :=
  match c.storage, c.postgres with
  | .memory, _ => .ok {}
  | .postgres, none => .error .postgresMissing
  | .postgres, some _ => .error .postgresUnreachable

/-- The registry and the broker that a configuration leads to. -/
def start (c : Config) : Except StartFault (Registry × Management.Client) := do
  let registry ← c.openRegistry
  let client ← c.management.client.mapError .client
  return (registry, client)

end BrokerControl.Config
