import BrokerControl.Proofs.Control.Execution
import Mathlib.Logic.Function.Basic

/-! # Requests at work at the same time

Several requests take turns on one world, in any order. At a turn a request performs one effect: the
world answers it, or the call is made to fail and does not reach the world. -/

namespace BrokerControl.Control

/-- How a call fails that does not reach the broker or the registry. -/
structure Mishap where
  broker : Broker.Error
  registry : Registry.Error

/-- The answer to a call that is made to fail. What is called to take something back does not
fail. -/
def Mishap.answer? (m : Mishap) : (e : Effect) → Option e.Answer
  | .broker (.deleteExchange ..) | .broker (.deleteQueue ..)
  | .registry (.deleteCallback _) => none
  | .broker _ => some (.error m.broker)
  | .registry _ => some (.error m.registry)
  | _ => none

/-- What a request did at one of its turns, and what it was answered. -/
structure Turn (ι : Type) where
  request : ι
  effect : Effect
  answer : effect.Answer

/-- Whatever it is answered, the plan is done after so many effects. -/
def Plan.Within {α : Type} : Nat → Plan α → Prop
  | _, .done _ => True
  | 0, .step .. => False
  | n + 1, .step _ next => ∀ a, (next a).Within n

/-- Requests at work on one world. -/
structure Crowd (ι : Type) (α : ι → Type) where
  world : World
  /-- What each request has yet to do. -/
  rest : (i : ι) → Plan (Except Failure (α i))
  /-- The turns taken so far, in order. -/
  turns : List (Turn ι) := []

namespace World

/-- The answer to an effect, which may be a call that is made to fail. -/
def reply (w : World) (m : Option Mishap) (e : Effect) : e.Answer × World :=
  match m.bind (·.answer? e) with
  | some a => (a, w)
  | none => handle e w

@[simp] theorem reply_none (w : World) (e : Effect) : w.reply none e = handle e w := rfl

end World

namespace Crowd

variable {ι : Type} {α : ι → Type}

/-- No request has had a turn yet. -/
def start (w : World) (requests : (i : ι) → Procedure (α i)) : Crowd ι α :=
  ⟨w, fun i => (requests i).run, []⟩

/-! ## Requests that have returned -/

def Returned (c : Crowd ι α) (i : ι) : Prop :=
  match c.rest i with
  | .done _ => True
  | .step .. => False

def Succeeded (c : Crowd ι α) (i : ι) : Prop :=
  match c.rest i with
  | .done (.ok _) => True
  | _ => False

instance (c : Crowd ι α) (i : ι) : Decidable (c.Returned i) := by
  unfold Returned
  split <;> infer_instance

instance (c : Crowd ι α) (i : ι) : Decidable (c.Succeeded i) := by
  unfold Succeeded
  split <;> infer_instance

theorem succeeded_iff {c : Crowd ι α} {i : ι} :
    c.Succeeded i ↔ ∃ a, c.rest i = .done (.ok a) := by
  unfold Succeeded
  split
  · next a h => exact iff_of_true trivial ⟨a, h⟩
  · next h => exact iff_of_false id fun ⟨a, ha⟩ => h a ha

/-! ## Turns -/

variable [DecidableEq ι]

/-- A request takes a turn; one that has returned has nothing left to do. -/
def turn (c : Crowd ι α) (i : ι) (m : Option Mishap) : Crowd ι α :=
  match c.rest i with
  | .done _ => c
  | .step e next =>
    let (a, world) := c.world.reply m e
    { world, rest := Function.update c.rest i (next a), turns := c.turns ++ [⟨i, e, a⟩] }

/-- The requests take turns in the order given. -/
def after (c : Crowd ι α) (schedule : List (ι × Option Mishap)) : Crowd ι α :=
  schedule.foldl (fun c x => c.turn x.1 x.2) c

theorem turn_of_done {c : Crowd ι α} {i : ι} {x : Except Failure (α i)} (h : c.rest i = .done x)
    (m : Option Mishap) : c.turn i m = c := by
  rw [turn, h]

theorem turn_of_step {c : Crowd ι α} {i : ι} {e : Effect}
    {next : e.Answer → Plan (Except Failure (α i))} (h : c.rest i = .step e next)
    (m : Option Mishap) :
    c.turn i m = ⟨(c.world.reply m e).2, Function.update c.rest i (next (c.world.reply m e).1),
      c.turns ++ [⟨i, e, (c.world.reply m e).1⟩]⟩ := by
  rw [turn, h]

theorem world_turn {c : Crowd ι α} {i : ι} {e : Effect}
    {next : e.Answer → Plan (Except Failure (α i))} (h : c.rest i = .step e next)
    (m : Option Mishap) : (c.turn i m).world = (c.world.reply m e).2 := by
  rw [turn_of_step h]

theorem rest_turn_self {c : Crowd ι α} {i : ι} {e : Effect}
    {next : e.Answer → Plan (Except Failure (α i))} (h : c.rest i = .step e next)
    (m : Option Mishap) : (c.turn i m).rest i = next (c.world.reply m e).1 := by
  rw [turn_of_step h]
  exact Function.update_self ..

theorem rest_turn_of_ne {c : Crowd ι α} {i j : ι} (h : j ≠ i) (m : Option Mishap) :
    (c.turn i m).rest j = c.rest j := by
  cases hrest : c.rest i with
  | done x => rw [turn_of_done hrest]
  | step e next =>
    rw [turn_of_step hrest]
    exact Function.update_of_ne h ..

/-- What every turn preserves holds however the turns are taken. -/
theorem after_preserves {P : Crowd ι α → Prop} (hturn : ∀ c i m, P c → P (c.turn i m))
    {c : Crowd ι α} (h : P c) (schedule : List (ι × Option Mishap)) : P (c.after schedule) := by
  induction schedule generalizing c with
  | nil => exact h
  | cons x schedule ih => exact ih (hturn c x.1 x.2 h)

/-- A request returns once it has had as many turns as it can have effects. -/
theorem returned_after {c : Crowd ι α} {i : ι} {n : Nat} (h : (c.rest i).Within n)
    {schedule : List (ι × Option Mishap)} (hturns : n ≤ (schedule.map Prod.fst).count i) :
    (c.after schedule).Returned i := by
  induction schedule generalizing c n with
  | nil =>
    obtain rfl : n = 0 := by simpa using hturns
    unfold Returned
    cases hrest : c.rest i with
    | done x => simp [after, hrest]
    | step e next =>
      rw [hrest] at h
      exact h.elim
  | cons x schedule ih =>
    obtain ⟨j, m⟩ := x
    change ((c.turn j m).after schedule).Returned i
    by_cases hj : j = i
    · subst hj
      cases hrest : c.rest j with
      | done x =>
        rw [turn_of_done hrest]
        exact ih (n := 0) (by rw [hrest]; trivial) (Nat.zero_le _)
      | step e next =>
        rw [hrest] at h
        cases n with
        | zero => exact h.elim
        | succ n =>
          refine ih (n := n) ?_ (by simpa using hturns)
          rw [rest_turn_self hrest]
          exact h _
    · refine ih (n := n) ?_ (by simpa [hj] using hturns)
      rwa [rest_turn_of_ne (Ne.symm hj)]

end Crowd

end BrokerControl.Control
