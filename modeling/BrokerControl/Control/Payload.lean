import BrokerControl.Broker.Resource
import BrokerControl.Registry.State

/-!
# Requests and results

What callers send to the control plane and what they get back.
-/

namespace BrokerControl.Control

/-! ## Users -/

/-- A user with the key to log in with, or a hint in its place if the user was there before. -/
structure Credentials where
  username : String
  apiKey : String
  created : Bool
  deriving DecidableEq

structure PasswordReset where
  username : String
  apiKey : String
  deriving DecidableEq

/-! ## Adaptors -/

structure RegisterAdaptor where
  adaptorId : String
  owner : String
  vhost : Option String
  deriving DecidableEq

structure DeleteAdaptor where
  adaptorId : String
  owner : String
  vhost : Option String
  deriving DecidableEq

structure AdaptorRegistration where
  username : String
  apiKey : String
  id : String
  url : String
  port : UInt16
  vhost : String
  deriving DecidableEq

structure AdaptorBindings where
  adaptorId : String
  queues : Broker.BindingsByQueue

/-! ## Heartbeats -/

structure Heartbeat where
  adaptorId : String
  status : String
  vhost : Option String
  deriving DecidableEq

/-- The binding that a heartbeat went through. -/
structure HeartbeatRoute where
  queue : String
  routingKey : String
  deriving DecidableEq

/-! ## Streaming subscriptions -/

structure StreamingRequest where
  consumer : String
  name : String
  entities : List String
  deriving DecidableEq

structure AppendStreaming where
  subscriptionId : String
  entities : List String
  deriving DecidableEq

structure DeleteStreaming where
  subscriptionId : String
  consumer : String
  deriving DecidableEq

structure StreamingSubscription where
  subscriptionId : String
  username : String
  apiKey : String
  streamingUrl : String
  host : String
  port : UInt16
  vhost : String
  deriving DecidableEq

structure StreamingBindings where
  subscriptionId : String
  entities : List String
  deriving DecidableEq

/-! ## Callback subscriptions -/

structure CallbackRequest where
  consumer : String
  name : String
  callbackUrl : String
  entities : List String
  deriving DecidableEq

structure DeleteCallback where
  consumer : String
  name : String
  deriving DecidableEq

structure CallbackSummary where
  subscriptionId : String
  callbackUrl : String
  entities : List String
  deriving DecidableEq

/-- The part of a row that callers see. -/
def CallbackSummary.ofRow (row : Registry.Callback) : CallbackSummary where
  subscriptionId := row.subscriptionId
  callbackUrl := row.callbackUrl
  entities := row.entities

/-! ## Topology -/

/-- A resource of the control plane itself, and whether it had to be made. -/
structure TopologyEntry where
  kind : String
  vhost : String
  name : String
  created : Bool
  deriving DecidableEq

end BrokerControl.Control
