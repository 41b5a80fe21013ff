import BrokerControl.Control.World

/-!
# Rehearsals

A world in which chosen calls are made to fail, and in which every call is written down with its
outcome. An injected failure lets some calls of its name through first and then takes the place of
some others. A call visits the injections of its name in the order they were made: one that is used
up is passed over, one that still lets calls through counts this call and is passed over too, and
the first that is neither fires.
-/

namespace BrokerControl.Control

/-- A failure in place of calls of a name. -/
structure Injection (ε : Type) where
  call : String
  error : ε
  /-- How many calls are still let through. -/
  after : Nat
  /-- How many calls are then still to fail. -/
  times : Nat

/-- The failure that a call meets, if any, and the injections afterwards. -/
def Injection.visit {ε : Type} (call : String) :
    List (Injection ε) → Option ε × List (Injection ε)
  | [] => (none, [])
  | i :: rest =>
    if i.call = call ∧ i.times ≠ 0 then
      if i.after = 0 then (some i.error, { i with times := i.times - 1 } :: rest)
      else
        let (fired, rest) := visit call rest
        (fired, { i with after := i.after - 1 } :: rest)
    else
      let (fired, rest) := visit call rest
      (fired, i :: rest)

/-- A call that was made, with the words of its failure if it failed. -/
structure Entry where
  effect : Effect
  failure : Option String

structure Rehearsal where
  world : World
  brokerInjections : List (Injection Broker.Error) := []
  registryInjections : List (Injection Registry.Error) := []
  log : List Entry := []

namespace Rehearsal

/-- Lets the world answer. -/
def pass (r : Rehearsal) (e : Effect) : e.Answer × Rehearsal :=
  let (a, world) := World.handle e r.world
  (a, { r with world })

def record (r : Rehearsal) (effect : Effect) (failure : Option String) : Rehearsal :=
  { r with log := r.log ++ [⟨effect, failure⟩] }

def answerBroker (r : Rehearsal) (c : Broker.Call) :
    Except Broker.Error c.Answer × Rehearsal :=
  match Injection.visit c.name r.brokerInjections with
  | (some e, injections) => (.error e, { r with brokerInjections := injections })
  | (none, injections) => pass { r with brokerInjections := injections } (.broker c)

def answerRegistry (r : Rehearsal) (c : Registry.Call) :
    Except Registry.Error c.Answer × Rehearsal :=
  match Injection.visit c.name r.registryInjections with
  | (some e, injections) => (.error e, { r with registryInjections := injections })
  | (none, injections) => pass { r with registryInjections := injections } (.registry c)

def handle : (e : Effect) → StateM Rehearsal e.Answer
  | .broker c => fun r => match answerBroker r c with
    | (.ok a, r) => (.ok a, r.record (.broker c) none)
    | (.error e, r) => (.error e, r.record (.broker c) (some e.message))
  | .registry c => fun r => match answerRegistry r c with
    | (.ok a, r) => (.ok a, r.record (.registry c) none)
    | (.error e, r) => (.error e, r.record (.registry c) (some e.message))
  | e => fun r => r.pass e

def run (r : Rehearsal) (s : Settings) (op : Operation) :
    Except Failure op.Result × Rehearsal :=
  (op.procedure s).run.interpret handle r

end Rehearsal

end BrokerControl.Control
