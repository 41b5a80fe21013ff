import BrokerControl.Access.Error
import BrokerControl.Broker.Error
import BrokerControl.Registry.State

/-!
# Failures of operations

An operation fails for a reason of its own or because a call to the broker or the registry failed.
The reply to the caller has a code and a message; of a failed call it gives what was being done and
nothing of the call's own failure.
-/

namespace BrokerControl.Control

inductive Failure where
  | validation (message : String)
  | conflict (code : String) (message : String)
  | notFound (message : String)
  | duplicateSubscription (id : String)
  | remote (context : String) (source : Broker.Error)
  | persistence (context : String) (source : Registry.Error)
  deriving DecidableEq, Inhabited

namespace Failure

/-- What the caller is told. -/
structure Reply where
  code : String
  message : String
  deriving DecidableEq

def message : Failure → String
  | .validation message => message
  | .conflict _ message => message
  | .notFound message => message
  | .duplicateSubscription id => s!"subscription {id} already exists"
  | .remote context source => s!"{context}: {source.message}"
  | .persistence context source => s!"{context}: {source.message}"

def code : Failure → String
  | .validation _ => "validation_error"
  | .conflict code _ => code
  | .notFound _ => "not_found"
  | .duplicateSubscription _ => "duplicate_subscription"
  | .remote .. => "remote_error"
  | .persistence .. => "persistence_error"

/-- The status of an HTTP reply with this failure. -/
def status : Failure → UInt16
  | .validation _ => 400
  | .conflict .. | .duplicateSubscription _ => 409
  | .notFound _ => 404
  | .remote .. => 502
  | .persistence .. => 500

def reply (f : Failure) : Reply where
  code := f.code
  message := match f with
    | .remote context _ | .persistence context _ => context
    | f => f.message

/-! ## Failures of calls -/

/-- A call that must find its resource, or make a new one. -/
def ofBroker (context : String) : Broker.Error → Failure
  | .notFound what => .notFound s!"{what} not found"
  | .alreadyExists what => .conflict "already_exists" s!"{what} already exists"
  | e => .remote context e

def ofRegistry : Registry.Error → Failure
  | .notFound what => .notFound s!"{what} not found"
  | .conflict what => .conflict "already_exists" s!"{what} already exists"
  | e => .persistence "registry storage failed" e

def ofMalformed (e : Access.Malformed) : Failure := .validation e.message

end Failure

end BrokerControl.Control
