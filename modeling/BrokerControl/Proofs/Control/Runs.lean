import BrokerControl.Proofs.Control.Effects
import BrokerControl.Proofs.Control.Execution

/-! # Runs

A run is a list of moves: operations, and changes of what is made to fail. What each move preserves
where it is allowed holds after every run of allowed moves. -/

namespace BrokerControl.Control

/-- What may happen to a world: an operation, or a change of what is made to fail. -/
inductive Move where
  | perform (op : Operation)
  | setFaults (f : Broker.Faults)
  | rejectWrites (reject : Bool)

namespace World

def move (w : World) (s : Settings) : Move → World
  | .perform op => (w.run s op).2
  | .setFaults f => w.withBroker { w.broker with faults := f }
  | .rejectWrites reject => w.withRegistry { w.registry with rejectsWrites := reject }

def after (w : World) (s : Settings) (moves : List Move) : World :=
  moves.foldl (fun w m => w.move s m) w

theorem reachable_move {w : World} (h : w.broker.Reachable) (s : Settings) (mv : Move) :
    (w.move s mv).broker.Reachable := by
  cases mv with
  | perform op => exact reachable_run h s op
  | setFaults f => exact h.faults f
  | rejectWrites reject => exact h

theorem reachable_after {w : World} (h : w.broker.Reachable) (s : Settings) (moves : List Move) :
    (w.after s moves).broker.Reachable := by
  induction moves generalizing w with
  | nil => exact h
  | cons mv moves ih => exact ih (reachable_move h s mv)

theorem handle_of_isPassive {e : Effect} (h : e.IsPassive) (w : World) :
    (handle e w).2.broker = w.broker ∧ (handle e w).2.registry = w.registry := by
  cases e with
  | broker c =>
    refine ⟨?_, rfl⟩
    rw [handle_broker, withBroker_broker]
    have hquestion : c.IsQuestion := by cases c <;> exact h
    exact w.broker.respond_of_isQuestion hquestion
  | registry c =>
    refine ⟨rfl, ?_⟩
    rw [handle_registry, withRegistry_registry]
    cases c with
    | getCredential username => rw [Registry.respond_getCredential]; split <;> rfl
    | getCallback id => rw [Registry.respond_getCallback]; split <;> rfl
    | _ => exact h.elim
  | drawPassword | readClock | count event => exact ⟨rfl, rfl⟩

/-- What the parts of a plan preserve, the plan preserves. -/
theorem closed_preserves {P : World → Prop}
    (hpassive : ∀ e : Effect, e.IsPassive → ∀ w, P w → P (handle e w).2) :
    Plan.Closed fun _ p => ∀ w, P w → P (w.runPlan p).2 where
  done _ _ hw := hw
  andThen {_ _ p f} hp hf w hw := by
    rw [runPlan_bind]
    exact hf _ _ (hp w hw)
  passive {e} h w hw := hpassive e h w hw

end World

/-! ## Moves that are allowed -/

section Throughout

variable {σ : Type} (step : σ → Move → σ) (allowed : σ → Move → Prop)

/-- Every move of a run is allowed in the state in which it is made. -/
def Throughout : σ → List Move → Prop
  | _, [] => True
  | x, mv :: moves => allowed x mv ∧ Throughout (step x mv) moves

instance Throughout.decidable [∀ x mv, Decidable (allowed x mv)] :
    (x : σ) → (moves : List Move) → Decidable (Throughout step allowed x moves)
  | _, [] => inferInstanceAs (Decidable True)
  | x, mv :: moves =>
    have := Throughout.decidable (step x mv) moves
    inferInstanceAs (Decidable (allowed x mv ∧ Throughout step allowed (step x mv) moves))

variable {step allowed}

theorem Throughout.of_forall {moves : List Move} (h : ∀ mv ∈ moves, ∀ x, allowed x mv) (x : σ) :
    Throughout step allowed x moves := by
  induction moves generalizing x with
  | nil => trivial
  | cons mv moves ih =>
    exact ⟨h mv (by simp) x, ih (fun mv' h' => h mv' (by simp [h'])) (step x mv)⟩

theorem Throughout.foldl {P : σ → Prop}
    (hstep : ∀ x mv, P x → allowed x mv → P (step x mv)) {x : σ} {moves : List Move}
    (h : Throughout step allowed x moves) (hx : P x) : P (moves.foldl step x) := by
  induction moves generalizing x with
  | nil => exact hx
  | cons mv moves ih => exact ih h.2 (hstep x mv hx h.1)

end Throughout

/-! ## Books -/

/-- A world, and a book in which operations are entered with their results. -/
structure Recorded (β : Type) where
  world : World
  book : β

namespace Recorded

variable {β : Type}

def move (enter : (op : Operation) → Except Failure op.Result → β → β) (s : Settings)
    (x : Recorded β) : Move → Recorded β
  | .perform op => ⟨(x.world.run s op).2, enter op (x.world.run s op).1 x.book⟩
  | mv => ⟨x.world.move s mv, x.book⟩

def after (enter : (op : Operation) → Except Failure op.Result → β → β) (s : Settings)
    (x : Recorded β) (moves : List Move) : Recorded β := moves.foldl (move enter s) x

/-- The book has no influence on the world. -/
theorem world_after (enter : (op : Operation) → Except Failure op.Result → β → β) (s : Settings)
    (x : Recorded β) (moves : List Move) :
    (x.after enter s moves).world = x.world.after s moves := by
  induction moves generalizing x with
  | nil => rfl
  | cons mv moves ih =>
    refine (ih (x.move enter s mv)).trans ?_
    cases mv <;> rfl

end Recorded

end BrokerControl.Control
