import BrokerControl.Broker.Call
import BrokerControl.Control.Failure
import BrokerControl.Registry.Call

/-!
# Plans

What an operation does is a plan: a tree of the calls it makes, branching on their answers. A plan
says nothing about who answers; `interpret` runs it under any handler.
-/

namespace BrokerControl.Control

/-- What is counted about workflows. -/
inductive Event where
  | completed (workflow : String)
  | compensated (workflow : String)
  | compensationFailed (workflow : String)
  deriving DecidableEq

inductive Effect where
  | broker (call : Broker.Call)
  | registry (call : Registry.Call)
  /-- A password that was never given out before. -/
  | drawPassword
  | readClock
  | count (event : Event)

abbrev Effect.Answer : Effect → Type
  | .broker c => Except Broker.Error c.Answer
  | .registry c => Except Registry.Error c.Answer
  | .drawPassword => String
  | .readClock => Timestamp
  | .count _ => Unit

inductive Plan (α : Type) where
  | done (a : α)
  | step (e : Effect) (next : e.Answer → Plan α)

namespace Plan

variable {α β : Type}

def bind : Plan α → (α → Plan β) → Plan β
  | .done a, f => f a
  | .step e next, f => .step e fun x => (next x).bind f

instance : Monad Plan where
  pure := .done
  bind := .bind

@[simp] theorem pure_eq (a : α) : (pure a : Plan α) = .done a := rfl

@[simp] theorem done_bind (a : α) (f : α → Plan β) : (Plan.done a >>= f) = f a := rfl

@[simp] theorem step_bind (e : Effect) (next : e.Answer → Plan α) (f : α → Plan β) :
    (Plan.step e next >>= f) = .step e fun x => next x >>= f := rfl

instance : LawfulMonad Plan :=
  LawfulMonad.mk' Plan
    (fun p => by
      induction p with
      | done a => rfl
      | step e next ih => exact congrArg (Plan.step e) (funext ih))
    (fun _ _ => rfl)
    (fun p f g => by
      induction p with
      | done a => rfl
      | step e next ih => exact congrArg (Plan.step e) (funext ih))

/-- The plan of a single effect. -/
def perform (e : Effect) : Plan e.Answer := .step e .done

/-- Runs a plan, with every effect answered by the handler. -/
def interpret {m : Type → Type} [Monad m] (handle : (e : Effect) → m e.Answer) : Plan α → m α
  | .done a => pure a
  | .step e next => do
    let x ← handle e
    (next x).interpret handle

variable {m : Type → Type} [Monad m] (handle : (e : Effect) → m e.Answer)

@[simp] theorem interpret_done (a : α) : (Plan.done a).interpret handle = pure a := rfl

@[simp] theorem interpret_step (e : Effect) (next : e.Answer → Plan α) :
    (Plan.step e next).interpret handle = (handle e >>= fun x => (next x).interpret handle) := rfl

theorem interpret_bind [LawfulMonad m] (p : Plan α) (f : α → Plan β) :
    (p >>= f).interpret handle =
      (p.interpret handle >>= fun a => (f a).interpret handle) := by
  induction p with
  | done a => simp
  | step e next ih => simp [ih]

end Plan

/-- A plan that may fail. -/
abbrev Procedure := ExceptT Failure Plan

namespace Procedure

def broker (c : Broker.Call) : Plan (Except Broker.Error c.Answer) := .perform (.broker c)

def registry (c : Registry.Call) : Plan (Except Registry.Error c.Answer) := .perform (.registry c)

def drawPassword : Plan String := .perform .drawPassword

def readClock : Plan Timestamp := .perform .readClock

def count (e : Event) : Plan Unit := .perform (.count e)

/-- A broker call that must succeed. -/
def require (c : Broker.Call) (fault : Broker.Error → Failure) : Procedure c.Answer := do
  match ← broker c with
  | .ok a => return a
  | .error e => throw (fault e)

/-- A registry call that must succeed. -/
def requireRow (c : Registry.Call) (fault : Registry.Error → Failure) : Procedure c.Answer := do
  match ← registry c with
  | .ok a => return a
  | .error e => throw (fault e)

/-- A requirement on the request itself. -/
def demand (condition : Bool) (message : String) : Procedure Unit :=
  if condition then return () else throw (.validation message)

/-- Runs a procedure for its effects, whether it fails or not. -/
def attempt (p : Procedure Unit) : Procedure Unit := tryCatch p fun _ => return ()

end Procedure

end BrokerControl.Control
