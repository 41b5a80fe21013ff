import BrokerControl.Control.Trial
import Mathlib.Data.List.DropRight
import Mathlib.Data.List.Induction
import Mathlib.Data.List.Perm.Subperm

/-! # What a saga undoes

What a saga has undone, and when, can be told from the moves made on it. Giving up undoes what was
registered since the last time the saga gave up or ended, the last first; it does so once, and
whatever comes of it does not change the answer. -/

namespace BrokerControl.Control.Trial

variable {ε α : Type}

/-! ## Moves -/

namespace Move

/-- The undoing that is registered. -/
def registered? : Move ε α → Option Undoing
  | .push k => some k
  | _ => none

/-- Whether the saga gives up. -/
def unwinds : Move ε α → Bool
  | .guard (.error _) | .abort _ => true
  | _ => false

def completes : Move ε α → Bool
  | .complete => true
  | _ => false

/-- Whether the saga ends and a new one begins. -/
def finishes : Move ε α → Bool
  | .complete | .drop => true
  | _ => false

/-- Whether what is registered stays registered. -/
def keeps (m : Move ε α) : Bool := !(m.unwinds || m.finishes)

theorem unwinds_of_keeps (m : Move ε α) (h : m.keeps = true) : m.unwinds = false := by
  simp_all [keeps]

theorem completes_of_unwinds (m : Move ε α) (h : m.unwinds = true) : m.completes = false := by
  cases m <;> first | rfl | cases h

theorem unwinds_of_finishes (m : Move ε α) (h : m.finishes = true) : m.unwinds = false := by
  cases m <;> first | rfl | cases h

/-- The value or error that the move is made with. -/
def own : Move ε α → Option (Except ε α)
  | .push _ | .complete | .drop => none
  | .guard step => some step
  | .abort error => some (.error error)

end Move

/-! ## Histories -/

def registered (moves : List (Move ε α)) : List Undoing := moves.filterMap Move.registered?

/-- What was registered since the saga gave up or ended, if it ever did. -/
def standing (moves : List (Move ε α)) : List Undoing :=
  registered (moves.rtakeWhile Move.keeps)

/-- Whenever the saga gives up, what was registered since it last did or ended, the last first. -/
def executed (moves : List (Move ε α)) : List Undoing :=
  (List.range moves.length).flatMap fun i =>
    if moves[i]?.any Move.unwinds then (standing (moves.take i)).reverse else []

theorem registered_snoc (moves : List (Move ε α)) (m : Move ε α) :
    registered (moves ++ [m]) = registered moves ++ m.registered?.toList := by
  rw [registered, List.filterMap_append, registered]
  cases m <;> rfl

theorem standing_snoc (moves : List (Move ε α)) (m : Move ε α) :
    standing (moves ++ [m]) = if m.keeps then standing moves ++ m.registered?.toList else [] := by
  cases hm : m.keeps with
  | true =>
    rw [standing, List.rtakeWhile_concat_pos _ _ _ hm, registered_snoc]
    rfl
  | false =>
    have hstop : ¬m.keeps = true := by simp [hm]
    rw [standing, List.rtakeWhile_concat_neg _ _ _ hstop]
    rfl

theorem executed_snoc (moves : List (Move ε α)) (m : Move ε α) :
    executed (moves ++ [m]) =
      executed moves ++ if m.unwinds then (standing moves).reverse else [] := by
  -- what happened at an earlier move does not depend on the last one
  have hearlier : ∀ i ∈ List.range moves.length,
      (if (moves ++ [m])[i]?.any Move.unwinds then
        (standing ((moves ++ [m]).take i)).reverse else []) =
      if moves[i]?.any Move.unwinds then (standing (moves.take i)).reverse else [] := by
    intro i hi
    have hi : i < moves.length := List.mem_range.1 hi
    rw [List.getElem?_append_left hi, List.take_append_of_le_length (by omega)]
  rw [executed, List.length_append, List.length_singleton, List.range_succ, List.flatMap_append,
    List.flatMap_congr hearlier, executed]
  simp

/-! ### Each once -/

/-- What was undone and what may still be undone are different registrations. -/
theorem executed_standing_subperm (moves : List (Move ε α)) :
    (executed moves ++ standing moves).Subperm (registered moves) := by
  induction moves using List.reverseRecOn with
  | nil => exact List.Subperm.refl _
  | append_singleton moves m ih =>
    rw [executed_snoc, standing_snoc, registered_snoc]
    cases hkeeps : m.keeps with
    | true =>
      have hgoes : m.unwinds = false := m.unwinds_of_keeps hkeeps
      rw [hgoes, if_neg Bool.false_ne_true, if_pos rfl, List.append_nil, ← List.append_assoc]
      exact (List.subperm_append_right _).2 ih
    | false =>
      rw [if_neg Bool.false_ne_true, List.append_nil]
      refine List.Subperm.trans ?_ (List.sublist_append_left _ _).subperm
      refine List.Subperm.trans ?_ ih
      split
      · exact ((List.reverse_perm _).append_left _).subperm
      · rw [List.append_nil]
        exact (List.sublist_append_left _ _).subperm

/-! ### Nothing from before the end -/

section Keeps

variable {m : Move ε α} (hm : m.keeps = false) (past : List (Move ε α))

include hm

theorem standing_append (future : List (Move ε α)) :
    standing (past ++ m :: future) = standing future := by
  induction future using List.reverseRecOn with
  | nil =>
    rw [standing_snoc, hm]
    rfl
  | append_singleton future m' ih =>
    rw [← List.cons_append, ← List.append_assoc, standing_snoc, standing_snoc, ih]

theorem executed_append (future : List (Move ε α)) :
    executed (past ++ m :: future) = executed (past ++ [m]) ++ executed future := by
  induction future using List.reverseRecOn with
  | nil => simp [executed]
  | append_singleton future m' ih =>
    rw [← List.cons_append, ← List.append_assoc, executed_snoc, ih, standing_append hm,
      executed_snoc future, List.append_assoc]

end Keeps

/-! ## Runs -/

/-- What is counted at a move of a saga. -/
def Move.events (s : Saga Undoing) (m : Move ε α) : List Event :=
  if m.unwinds then
    .replicate (s.pending.countP (·.fails)) (.compensationFailed s.name) ++ [.compensated s.name]
  else if m.completes then [.completed s.name] else []

theorem unwind_run (name : String) (ks : List Undoing) (r : Report) :
    (Saga.unwind (m := StateM Report) name ks).run r =
      ((), { ran := r.ran ++ ks.map (·.label),
             events := r.events ++
               .replicate (ks.countP (·.fails)) (.compensationFailed name) }) := by
  induction ks generalizing r with
  | nil =>
    rw [List.map_nil, List.append_nil, List.countP_nil, List.replicate_zero, List.append_nil]
    rfl
  | cons k ks ih =>
    obtain ⟨label, fails⟩ := k
    cases fails with
    | true =>
      have hfirst : (Saga.unwind (m := StateM Report) name (⟨label, true⟩ :: ks)).run r =
          (Saga.unwind (m := StateM Report) name ks).run
            ⟨r.ran ++ [label], r.events ++ [.compensationFailed name]⟩ := rfl
      rw [hfirst, ih]
      simp [List.replicate_succ]
    | false =>
      have hfirst : (Saga.unwind (m := StateM Report) name (⟨label, false⟩ :: ks)).run r =
          (Saga.unwind (m := StateM Report) name ks).run ⟨r.ran ++ [label], r.events⟩ := rfl
      rw [hfirst, ih]
      simp

/-- The error comes back as it was, with nothing left to undo; what was pending has been undone. -/
theorem abort_run (s : Saga Undoing) (e : ε) (r : Report) :
    (s.abort (m := StateM Report) e).run r =
      ((e, ⟨s.name, []⟩), { ran := r.ran ++ s.pending.map (·.label),
                            events := r.events ++ (.replicate (s.pending.countP (·.fails))
                              (.compensationFailed s.name) ++ [.compensated s.name]) }) := by
  rw [Saga.abort, StateT.run_bind, unwind_run, ← List.append_assoc]
  rfl

/-- What a move answers, leaves and reports. -/
theorem make_run (s : Saga Undoing) (m : Move ε α) (r : Report) :
    (m.make s).run r =
      ((m.own, ⟨s.name, if m.keeps then m.registered?.toList ++ s.pending else []⟩),
        { ran := r.ran ++ if m.unwinds then s.pending.map (·.label) else [],
          events := r.events ++ m.events s }) := by
  have hnothing : r = { ran := r.ran ++ [], events := r.events ++ [] } := by simp
  cases m with
  | push k => exact congrArg (Prod.mk _) hnothing
  | guard step =>
    cases step with
    | ok a => exact congrArg (Prod.mk _) hnothing
    | error e =>
      simp only [Move.make, Saga.guard, pure_bind, StateT.run_bind, abort_run]
      rfl
  | abort e =>
    rw [Move.make, StateT.run_bind, abort_run]
    rfl
  | complete =>
    have hcounted : Report.mk r.ran (r.events ++ [.completed s.name]) =
        ⟨r.ran ++ [], r.events ++ [.completed s.name]⟩ := by simp
    exact congrArg (Prod.mk _) hcounted
  | drop => exact congrArg (Prod.mk _) hnothing

/-- A saga on trial and its report after one more move. -/
def step (x : Saga Undoing × Report) (m : Move ε α) : Saga Undoing × Report :=
  (((m.make x.1).run x.2).1.2, ((m.make x.1).run x.2).2)

/-- What a saga on trial answers to a move. -/
def answer (x : Saga Undoing × Report) (m : Move ε α) : Option (Except ε α) :=
  ((m.make x.1).run x.2).1.1

/-- A new saga of the name after the moves, with the report of all of them. -/
def after (name : String) (moves : List (Move ε α)) : Saga Undoing × Report :=
  moves.foldl step (.begin name, {})

theorem after_snoc (name : String) (moves : List (Move ε α)) (m : Move ε α) :
    after name (moves ++ [m]) = step (after name moves) m := List.foldl_concat ..

/-- How often each event is counted: completions, moves by which the saga gave up, and undoings that
were carried out and failed. -/
def tally (name : String) (moves : List (Move ε α)) : Event → Nat
  | .completed name' => if name' = name then moves.countP Move.completes else 0
  | .compensated name' => if name' = name then moves.countP Move.unwinds else 0
  | .compensationFailed name' => if name' = name then (executed moves).countP (·.fails) else 0

/-- The moves account for a saga and its report. -/
structure Accounts (name : String) (moves : List (Move ε α)) (x : Saga Undoing × Report) :
    Prop where
  saga : x.1 = ⟨name, (standing moves).reverse⟩
  ran : x.2.ran = (executed moves).map (·.label)
  events : ∀ e, x.2.events.count e = tally name moves e

theorem tally_snoc (name : String) (moves : List (Move ε α)) (m : Move ε α) (e : Event) :
    tally name (moves ++ [m]) e =
      tally name moves e + (m.events ⟨name, (standing moves).reverse⟩).count e := by
  cases e with
  | completed name' =>
    rw [tally, tally, List.countP_append, List.countP_singleton, Move.events]
    cases hunwinds : m.unwinds with
    | true => simp [m.completes_of_unwinds hunwinds, List.count_replicate]
    | false =>
      rcases eq_or_ne name' name with rfl | hname
      · cases m.completes <;> simp
      · cases m.completes <;> simp [hname, hname.symm]
  | compensated name' =>
    rw [tally, tally, List.countP_append, List.countP_singleton, Move.events]
    rcases eq_or_ne name' name with rfl | hname
    · cases m.unwinds <;> cases m.completes <;> simp [List.count_replicate]
    · cases m.unwinds <;> cases m.completes <;> simp [hname, hname.symm, List.count_replicate]
  | compensationFailed name' =>
    rw [tally, tally, executed_snoc, List.countP_append, Move.events]
    rcases eq_or_ne name' name with rfl | hname
    · cases m.unwinds <;> cases m.completes <;> simp
    · cases m.unwinds <;> cases m.completes <;> simp [hname, hname.symm, List.count_replicate]

theorem Accounts.step {name : String} {moves : List (Move ε α)} {x : Saga Undoing × Report}
    (h : Accounts name moves x) (m : Move ε α) : Accounts name (moves ++ [m]) (step x m) := by
  obtain ⟨saga, report⟩ := x
  obtain ⟨hsaga, hran, hevents⟩ := h
  dsimp only at hsaga hran hevents
  subst hsaga
  constructor
  · rw [Trial.step, make_run, standing_snoc]
    cases m.keeps with
    | true => cases m <;> simp [Move.registered?]
    | false => rfl
  · rw [Trial.step, make_run, executed_snoc, List.map_append, ← hran]
    cases m.unwinds <;> rfl
  · intro e
    rw [Trial.step, make_run, tally_snoc, ← hevents, List.count_append]

theorem accounts_after (name : String) (moves : List (Move ε α)) :
    Accounts name moves (after name moves) := by
  induction moves using List.reverseRecOn with
  | nil =>
    refine ⟨rfl, rfl, fun e => ?_⟩
    cases e <;> simp [tally, after, executed]
  | append_singleton moves m ih =>
    rw [after_snoc]
    exact ih.step m

/-- After any moves, the saga has just what was registered since it last gave up or ended still to
undo. Whatever comes next, the answer is the value or error it is made with; if the saga gives up,
what stands is undone, each registration once and the last first, and otherwise nothing is. So over
the whole run no registration is undone twice, and what was registered before the saga ended has no
part in what comes later. The events counted are the completions, the moves by which the saga gave
up, and the undoings that were carried out and failed. -/
theorem saga_unwinds_once (name : String) (moves : List (Move ε α)) :
    let x := after name moves
    x.1.pending = (standing moves).reverse ∧
      (∀ m : Move ε α, answer x m = m.own ∧ (step x m).2.ran =
        x.2.ran ++ if m.unwinds then ((standing moves).map (·.label)).reverse else []) ∧
      x.2.ran = (executed moves).map (·.label) ∧
      (executed moves ++ standing moves).Subperm (registered moves) ∧
      (∀ (m : Move ε α) future, m.finishes = true →
        (after name (moves ++ m :: future)).2.ran = x.2.ran ++ (after name future).2.ran) ∧
      ∀ e, x.2.events.count e = tally name moves e := by
  intro x
  obtain ⟨hsaga, hran, hevents⟩ := accounts_after name moves
  refine ⟨congrArg Saga.pending hsaga, fun m => ⟨?_, ?_⟩, hran, executed_standing_subperm moves, ?_,
    hevents⟩
  · rw [answer, make_run]
  · rw [step, make_run, congrArg Saga.pending hsaga, List.map_reverse]
  · intro m future hm
    have hkeeps : m.keeps = false := by simp [Move.keeps, hm]
    have hunwinds : m.unwinds = false := m.unwinds_of_finishes hm
    rw [(accounts_after name _).ran, (accounts_after name future).ran, hran,
      executed_append hkeeps, executed_snoc, hunwinds, if_neg Bool.false_ne_true, List.append_nil,
      List.map_append]

/-- A saga that is used again after it gave up, and is completed with something still to undo. -/
example :
    (after "test" [.push ⟨"first", false⟩, .push ⟨"second", true⟩, .guard (.error "boom"),
      .push ⟨"third", false⟩, .guard (.ok 7), .complete, .abort "late"] : _ × Report).2 =
    ⟨["second", "first"], [.compensationFailed "test", .compensated "test", .completed "test",
      .compensated "test"]⟩ := rfl

end BrokerControl.Control.Trial
