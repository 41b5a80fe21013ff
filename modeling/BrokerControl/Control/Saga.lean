import BrokerControl.Control.Plan

/-!
# Sagas

A workflow of several steps records after each step how to undo it. When a later step fails, what
was recorded is undone, the last first, and the failure is passed on; an undoing that fails is
counted and does not stop the others. A finished workflow drops its records.
-/

namespace BrokerControl.Control

/-- How steps of a kind are undone, and how events are counted, in the monad of the workflow. -/
class Undoes (κ : Type) (m : Type → Type) where
  /-- Undoes a step and says whether that succeeded. -/
  undo : κ → m Bool
  note : Event → m Unit

structure Saga (κ : Type) where
  name : String
  /-- What to undo, the last step first. -/
  pending : List κ
  deriving DecidableEq

namespace Saga

variable {κ ε α : Type} {m : Type → Type}

def begin (name : String) : Saga κ := ⟨name, []⟩

def onFailure (s : Saga κ) (k : κ) : Saga κ := { s with pending := k :: s.pending }

section Workflow

variable [Monad m] [Undoes κ m]

/-- Undoes steps in the order given. -/
def unwind (name : String) : List κ → m Unit
  | [] => pure ()
  | k :: ks => do
    if !(← Undoes.undo (m := m) k) then
      Undoes.note κ (.compensationFailed name)
    unwind name ks

/-- Gives up: everything recorded is undone and nothing is left to undo. The error is handed back. -/
def abort (s : Saga κ) (e : ε) : m (ε × Saga κ) := do
  unwind s.name s.pending
  Undoes.note κ (.compensated s.name)
  return (e, { s with pending := [] })

/-- Takes a step, and gives up if it fails. -/
def guard (s : Saga κ) (step : m (Except ε α)) : m (Except ε α × Saga κ) := do
  match ← step with
  | .ok a => return (.ok a, s)
  | .error e =>
    let (e, s) ← abort s e
    return (.error e, s)

/-- Ends the workflow; nothing is undone. -/
def complete (s : Saga κ) : m Unit := Undoes.note κ (.completed s.name)

end Workflow

end Saga

/-! ## Workflows of the control plane -/

/-- What a workflow made and may have to take back. -/
inductive Creation where
  | exchange (vhost name : String)
  | queue (vhost name : String)
  | callback (id : String)
  deriving DecidableEq

namespace Creation

def takeBack : Creation → Plan Bool
  | .exchange vhost name => do
    return (← Procedure.broker (.deleteExchange vhost name)).isOk
  | .queue vhost name => do
    return (← Procedure.broker (.deleteQueue vhost name)).isOk
  | .callback id => do
    return (← Procedure.registry (.deleteCallback id)).isOk

instance : Undoes Creation Plan where
  undo := takeBack
  note := Procedure.count

end Creation

/-- A step of a procedure under a saga. -/
def Saga.guarded {α : Type} (s : Saga Creation) (p : Procedure α) : Procedure α := do
  let (r, _) ← (s.guard p.run : Plan _)
  ofExcept r

end BrokerControl.Control
