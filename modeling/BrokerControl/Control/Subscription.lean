import BrokerControl.Access.RoutingKey
import BrokerControl.Control.Plan
import BrokerControl.Digest.Sha1
import BrokerControl.Text.Blank
import BrokerControl.Text.Split

/-!
# Subscriptions

A subscription is named by the domain of its consumer, the digest of the consumer and the alias that
the consumer chose. Its entities are routing keys, which say what exchange each is to be bound to.
-/

namespace BrokerControl.Control

open Procedure

/-- What follows the first `@`, or all of it where there is none. -/
def domainOf (consumer : String) : String :=
  match Text.cut? '@' consumer.toList with
  | some (_, domain) => String.ofList domain
  | none => consumer

def subscriptionId (consumer name : String) : Except Failure String :=
  if Text.isBlank consumer then .error (.validation "consumer must not be empty")
  else if Text.isBlank name then .error (.validation "name must not be empty")
  else .ok (Text.join '/' [domainOf consumer, Digest.sha1Hex consumer, name])

theorem subscriptionId_eq_ok_iff {consumer name id : String} :
    subscriptionId consumer name = .ok id ↔
      (Text.isBlank consumer = false ∧ Text.isBlank name = false) ∧
        id = Text.join '/' [domainOf consumer, Digest.sha1Hex consumer, name] := by
  unfold subscriptionId
  by_cases hconsumer : Text.isBlank consumer = true
  · simp [hconsumer]
  · by_cases hname : Text.isBlank name = true
    · simp [hconsumer, hname]
    · simp [hconsumer, hname, eq_comm]

def demandEntities (entities : List String) : Procedure Unit :=
  demand (!entities.isEmpty) "entities must not be empty"

/-- Binds a queue to each key in order and stops at the first that is malformed or cannot be bound;
those before it stay bound. -/
def bindKeys (vhost queue : String) : List String → Procedure Unit
  | [] => return ()
  | text :: rest => do
    match Access.RoutingKey.ofString? text with
    | .error _ => throw (.validation s!"Invalid routing key: {text}")
    | .ok key =>
      require (.bindQueue vhost key.exchange queue key.text) (.remote "Binding failed")
      bindKeys vhost queue rest

end BrokerControl.Control
