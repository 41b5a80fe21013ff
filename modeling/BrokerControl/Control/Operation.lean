import BrokerControl.Control.Callbacks
import BrokerControl.Control.Heartbeats
import BrokerControl.Control.Streaming
import BrokerControl.Control.Topology
import BrokerControl.Control.Wire

/-!
# Operations

Everything the control plane can be asked to do, each with the type of its result and the procedure
that does it.
-/

namespace BrokerControl.Control

open Json

inductive Operation where
  | bootstrap
  | registerAdaptor (request : RegisterAdaptor)
  | deleteAdaptor (request : DeleteAdaptor)
  | getAdaptor (adaptorId : String) (vhost : Option String)
  | listAdaptorBindings (adaptorId : String) (vhost : Option String)
  | registerStreaming (request : StreamingRequest)
  | updateStreaming (request : StreamingRequest)
  | appendStreaming (request : AppendStreaming)
  | deleteStreaming (request : DeleteStreaming)
  | listStreaming (subscriptionId : String)
  | registerCallback (request : CallbackRequest)
  | updateCallback (request : CallbackRequest)
  | deleteCallback (request : DeleteCallback)
  | listCallback (consumer name : String)
  | heartbeat (request : Heartbeat)
  | ensureUser (username vhost : String)
  | resetPassword (username : String)
  | updatePermissions (vhost username : String) (edit : Access.Edit) (resource : String)

namespace Operation

abbrev Result : Operation → Type
  | .bootstrap => List TopologyEntry
  | .registerAdaptor _ => AdaptorRegistration
  | .getAdaptor .. => Broker.Exchange
  | .listAdaptorBindings .. => AdaptorBindings
  | .registerStreaming _ | .updateStreaming _ => StreamingSubscription
  | .appendStreaming _ | .listStreaming _ => StreamingBindings
  | .registerCallback _ | .updateCallback _ | .listCallback .. => CallbackSummary
  | .heartbeat _ => HeartbeatRoute
  | .ensureUser .. => Credentials
  | .resetPassword _ => PasswordReset
  | .deleteAdaptor _ | .deleteStreaming _ | .deleteCallback _ | .updatePermissions .. => Unit

def procedure (s : Settings) : (op : Operation) → Procedure op.Result
  | .bootstrap => Control.bootstrap s
  | .registerAdaptor r => Control.registerAdaptor s r
  | .deleteAdaptor r => Control.deleteAdaptor s r
  | .getAdaptor id vhost => Control.getAdaptor s id vhost
  | .listAdaptorBindings id vhost => Control.listAdaptorBindings s id vhost
  | .registerStreaming r => Control.registerStreaming s r
  | .updateStreaming r => Control.updateStreaming s r
  | .appendStreaming r => Control.appendStreaming s r
  | .deleteStreaming r => Control.deleteStreaming s r
  | .listStreaming id => Control.listStreaming s id
  | .registerCallback r => Control.registerCallback s r
  | .updateCallback r => Control.updateCallback s r
  | .deleteCallback r => Control.deleteCallback s r
  | .listCallback consumer name => Control.listCallback consumer name
  | .heartbeat r => Control.publishHeartbeat s r
  | .ensureUser username vhost => Control.ensureUser username vhost
  | .resetPassword username => Control.resetPassword username
  | .updatePermissions vhost username edit resource =>
    Control.updatePermissions vhost username edit resource

/-- The JSON form of a result. -/
def encodeResult : (op : Operation) → op.Result → Json
  | .bootstrap, r => encode r
  | .registerAdaptor _, r => encode r
  | .getAdaptor .., r => encode r
  | .listAdaptorBindings .., r => encode r
  | .registerStreaming _, r | .updateStreaming _, r => encode r
  | .appendStreaming _, r | .listStreaming _, r => encode r
  | .registerCallback _, r | .updateCallback _, r | .listCallback .., r => encode r
  | .heartbeat _, r => encode r
  | .ensureUser .., r => encode r
  | .resetPassword _, r => encode r
  | .deleteAdaptor _, _ | .deleteStreaming _, _ | .deleteCallback _, _
  | .updatePermissions .., _ => .null

end Operation

end BrokerControl.Control
