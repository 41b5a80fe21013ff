import BrokerControl.Control.Operation

/-!
# The world in memory

A broker, a registry, a supply of passwords, a clock and the events counted so far: all that
operations can touch. `handle` answers every effect from it, and `run` carries an operation out.
-/

namespace BrokerControl.Control

structure World where
  broker : Broker := {}
  registry : Registry := {}
  /-- The passwords that are drawn, in order. -/
  passwords : Nat → String
  drawn : Nat := 0
  now : Timestamp
  events : List Event := []

namespace World

def handle : (e : Effect) → StateM World e.Answer
  | .broker c => fun w =>
    let (a, broker) := w.broker.respond c
    (a, { w with broker })
  | .registry c => fun w =>
    let (a, registry) := w.registry.respond c
    (a, { w with registry })
  | .drawPassword => fun w => (w.passwords w.drawn, { w with drawn := w.drawn + 1 })
  | .readClock => fun w => (w.now, w)
  | .count event => fun w => ((), { w with events := w.events ++ [event] })

def runPlan {α : Type} (w : World) (p : Plan α) : α × World := p.interpret handle w

def run (w : World) (s : Settings) (op : Operation) : Except Failure op.Result × World :=
  w.runPlan (op.procedure s).run

end World

end BrokerControl.Control
