import BrokerControl.Proofs.Control.Interleaving
import BrokerControl.Proofs.Control.Users
import Mathlib.Data.Bool.Count

/-! # Edits of one grant at the same time

An edit reads the grant, and writes it back edited. What others have written in between is lost: in
the end the grant is what some of the edits make of it one after the other, and the order of the
turns tells which. -/

namespace BrokerControl.Control

open Access (Edit Grant)
open Broker (Address)

variable {ι : Type}

/-! ## Which edits count -/

/-- How far an edit has come. -/
inductive Stage (ι : Type) where
  | fresh
  /-- It has read what some edits, one after the other, made of the grant. -/
  | read (base : List ι)
  | written

/-- How edits stand that take turns, each of which may have read what others have written. -/
structure Lineage (ι : Type) where
  /-- The edits that made the grant what it is, in order. -/
  present : List ι := []
  stage : ι → Stage ι := fun _ => .fresh
  turns : List ι := []

namespace Lineage

variable [DecidableEq ι]

/-- The first turn of an edit reads, and the second writes. -/
def turn (l : Lineage ι) (i : ι) : Lineage ι :=
  match l.stage i with
  | .fresh => ⟨l.present, Function.update l.stage i (.read l.present), l.turns ++ [i]⟩
  | .read base => ⟨base ++ [i], Function.update l.stage i .written, l.turns ++ [i]⟩
  | .written => l

def after (order : List ι) : Lineage ι := order.foldl turn {}

theorem after_concat (order : List ι) (i : ι) : after (order ++ [i]) = (after order).turn i := by
  simp [after]

/-- Turns after the second come to nothing. -/
theorem after_turns (order : List ι) : after (after order).turns = after order := by
  induction order using List.reverseRecOn with
  | nil => rfl
  | append_singleton order i ih =>
    rw [after_concat]
    cases hstage : (after order).stage i with
    | fresh | read base => rw [turn, hstage, after_concat, ih, turn, hstage]
    | written => rwa [turn, hstage]

/-- An edit takes two turns in all. -/
theorem count_turns (order : List ι) (i : ι) :
    (after order).turns.count i =
      match (after order).stage i with
      | .fresh => 0
      | .read _ => 1
      | .written => 2 := by
  induction order using List.reverseRecOn with
  | nil => rfl
  | append_singleton order j ih =>
    rw [after_concat]
    by_cases hj : i = j
    · subst hj
      cases hstage : (after order).stage i with
      | fresh | read base | written =>
        rw [hstage] at ih
        simp [turn, hstage, ih]
    · cases hstage : (after order).stage j with
      | fresh | read base => simpa [turn, hstage, Function.update_of_ne hj, Ne.symm hj] using ih
      | written => simpa [turn, hstage] using ih

end Lineage

/-- Carries out procedures one after the other. -/
def World.serially {α : ι → Type} (w : World) (p : (i : ι) → Procedure (α i)) (is : List ι) :
    World :=
  is.foldl (fun w i => (w.exec (p i)).2) w

theorem World.serially_concat {α : ι → Type} (w : World) (p : (i : ι) → Procedure (α i))
    (is : List ι) (i : ι) : w.serially p (is ++ [i]) = ((w.serially p is).exec (p i)).2 := by
  simp [serially]

/-! ## One edit -/

variable {w : World} {v u : String}

/-- Writes back an edited grant. -/
def writeBack (v u : String) (edit : Edit) (resource : String) (g : Grant) : Procedure Unit :=
  Procedure.require (.setUserPermissions v u (g.apply edit resource))
    (.remote "Updating permissions failed")

/-- The first turn of an edit leaves the world as it is. -/
theorem updatePermissions_reads (v u : String) (edit : Edit) (resource : String) :
    ∃ next, (updatePermissions v u edit resource).run =
        .step (.broker (.getUserPermissions v u)) next ∧
      ∀ w : World, (World.handle (.broker (.getUserPermissions v u)) w).2 = w ∧
        next (World.handle (.broker (.getUserPermissions v u)) w).1 =
          (writeBack v u edit resource (w.broker.grantAt ⟨v, u⟩)).run := by
  refine ⟨_, rfl, fun w => ?_⟩
  have hread : World.handle (.broker (.getUserPermissions v u)) w =
      ((w.broker.respond (.getUserPermissions v u)).1,
        w.withBroker (w.broker.respond (.getUserPermissions v u)).2) := rfl
  rw [hread, Broker.respond_getUserPermissions, Broker.grantAt]
  cases w.broker.grants.get? ⟨v, u⟩ with
  | none => exact ⟨rfl, rfl⟩
  | some g => exact ⟨rfl, rfl⟩

/-- The second turn of an edit ends it. -/
theorem writeBack_writes (v u : String) (edit : Edit) (resource : String) (g : Grant) :
    ∃ e next, (writeBack v u edit resource g).run = .step e next ∧
      ∀ w : World, (World.handle e w).2 = (w.exec (writeBack v u edit resource g)).2 ∧
        next (World.handle e w).1 = .done (w.exec (writeBack v u edit resource g)).1 := by
  have hlast : ∃ e next, (writeBack v u edit resource g).run = .step e next ∧
      ∀ a, ∃ x, next a = .done x := by
    refine ⟨_, _, rfl, fun a => ?_⟩
    cases a with
    | ok _ => exact ⟨_, rfl⟩
    | error _ => exact ⟨_, rfl⟩
  obtain ⟨e, next, hrun, hdone⟩ := hlast
  refine ⟨e, next, hrun, fun w => ?_⟩
  obtain ⟨x, hx⟩ := hdone (World.handle e w).1
  have hexec : w.exec (writeBack v u edit resource g) = (x, (World.handle e w).2) := by
    rw [World.exec, hrun, World.runPlan_step, hx]
    rfl
  rw [hexec, hx]
  exact ⟨rfl, rfl⟩

/-- To edit a grant is to write it back edited. -/
theorem exec_updatePermissions (w : World) (v u : String) (edit : Edit) (resource : String) :
    w.exec (updatePermissions v u edit resource) =
      w.exec (writeBack v u edit resource (w.broker.grantAt ⟨v, u⟩)) := by
  obtain ⟨next, hrun, hread⟩ := updatePermissions_reads v u edit resource
  obtain ⟨hw, hnext⟩ := hread w
  rw [World.exec, hrun, World.runPlan_step, hw, hnext]
  rfl

/-- Whether writing back succeeds does not depend on what is written. -/
theorem exec_writeBack (w : World) (v u : String) (edit : Edit) (resource : String) (g : Grant) :
    w.exec (writeBack v u edit resource g) =
      if w.broker.faults.setPermissions then
        (.error (.remote "Updating permissions failed"
          (Broker.injected s!"/api/permissions/{v}/{u}")), w)
      else if w.broker.users.contains u then
        (.ok (), w.withBroker { w.broker with
          grants := w.broker.grants.insert ⟨v, u⟩ (g.apply edit resource) })
      else
        (.error (.remote "Updating permissions failed" (.notFound s!"user {u}")), w) := by
  have hexec := w.exec_require (.setUserPermissions v u (g.apply edit resource))
    (.remote "Updating permissions failed")
  rw [Broker.respond_setUserPermissions] at hexec
  refine hexec.trans ?_
  split_ifs <;> rfl

/-- A grant that was written back is replaced when another is, and makes no difference to that. -/
theorem exec_writeBack_twice (w : World) (v u : String) (edit edit' : Edit)
    (resource resource' : String) (g g' : Grant) :
    (w.exec (writeBack v u edit resource g)).2.exec (writeBack v u edit' resource' g') =
      w.exec (writeBack v u edit' resource' g') := by
  rw [exec_writeBack w v u edit resource]
  split_ifs with hfault hu
  · rfl
  · simp [exec_writeBack, hfault, hu, World.withBroker, Directory.insert_insert]
  · rfl

/-! ## Edits that take turns -/

section Edits

variable (w : World) (v u : String) (edit : ι → Edit) (resource : ι → String)

/-- Each of some edits of the grant of one user. -/
def edits (i : ι) : Procedure Unit := updatePermissions v u (edit i) (resource i)

/-- What an edit that has come so far has yet to do. -/
def restOfEdit (i : ι) : Stage ι → Plan (Except Failure Unit)
  | .fresh => (edits v u edit resource i).run
  | .read base => (writeBack v u (edit i) (resource i)
      ((w.serially (edits v u edit resource) base).broker.grantAt ⟨v, u⟩)).run
  | .written => .done (w.exec (edits v u edit resource i)).1

/-- Edits have come as far as their lineage tells. -/
structure HasLineage (c : Crowd ι fun _ => Unit) (l : Lineage ι) : Prop where
  world : c.world = w.serially (edits v u edit resource) l.present
  rest : ∀ i, c.rest i = restOfEdit w v u edit resource i (l.stage i)
  turns : c.turns.map (·.request) = l.turns

variable {w v u edit resource}

/-- Whatever was edited before, an edit that is written back replaces it. -/
theorem serially_exec_writeBack (is : List ι) (e : Edit) (r : String) (g : Grant) :
    (w.serially (edits v u edit resource) is).exec (writeBack v u e r g) =
      w.exec (writeBack v u e r g) := by
  induction is generalizing w with
  | nil => rfl
  | cons i is ih =>
    refine (ih (w := (w.exec (edits v u edit resource i)).2)).trans ?_
    rw [edits, exec_updatePermissions, exec_writeBack_twice]

/-- An edit comes to the same after others. -/
theorem serially_exec_edits_fst (is : List ι) (i : ι) :
    ((w.serially (edits v u edit resource) is).exec (edits v u edit resource i)).1 =
      (w.exec (edits v u edit resource i)).1 := by
  rw [edits, exec_updatePermissions, exec_updatePermissions, serially_exec_writeBack,
    exec_writeBack, exec_writeBack]
  split_ifs <;> rfl

theorem HasLineage.turn [DecidableEq ι] {c : Crowd ι fun _ => Unit} {l : Lineage ι}
    (h : HasLineage w v u edit resource c l) (i : ι) :
    HasLineage w v u edit resource (c.turn i none) (l.turn i) := by
  have hrest := h.rest i
  cases hstage : l.stage i with
  | fresh =>
    obtain ⟨next, hrun, hread⟩ := updatePermissions_reads v u (edit i) (resource i)
    obtain ⟨hw, hnext⟩ := hread c.world
    rw [hstage, restOfEdit, edits, hrun] at hrest
    rw [Crowd.turn_of_step hrest, World.reply_none, hw, hnext, Lineage.turn, hstage]
    refine ⟨h.world, fun j => ?_, by simp [h.turns]⟩
    by_cases hj : j = i
    · subst hj
      simp only [Function.update_self]
      rw [restOfEdit, h.world]
    · simp only [Function.update_of_ne hj]
      exact h.rest j
  | read base =>
    obtain ⟨e, next, hrun, hwrite⟩ := writeBack_writes v u (edit i) (resource i)
      ((w.serially (edits v u edit resource) base).broker.grantAt ⟨v, u⟩)
    obtain ⟨hw, hnext⟩ := hwrite c.world
    -- what was written since the edit has read is not there any more
    have hexec : c.world.exec (writeBack v u (edit i) (resource i)
          ((w.serially (edits v u edit resource) base).broker.grantAt ⟨v, u⟩)) =
        (w.serially (edits v u edit resource) base).exec (edits v u edit resource i) := by
      rw [h.world, serially_exec_writeBack, edits, exec_updatePermissions, serially_exec_writeBack]
    rw [hexec] at hw hnext
    rw [hstage, restOfEdit, hrun] at hrest
    rw [Crowd.turn_of_step hrest, World.reply_none, hw, hnext, Lineage.turn, hstage]
    refine ⟨(w.serially_concat _ base i).symm, fun j => ?_, by simp [h.turns]⟩
    by_cases hj : j = i
    · subst hj
      simp only [Function.update_self]
      rw [restOfEdit, serially_exec_edits_fst]
    · simp only [Function.update_of_ne hj]
      exact h.rest j
  | written =>
    rw [hstage] at hrest
    rw [Crowd.turn_of_done hrest, Lineage.turn, hstage]
    exact h

/-- However edits of one grant take turns: in the end the world is what it would be if those of the
lineage had been made one after the other and the others never. -/
theorem edits_follow_lineage [DecidableEq ι] (order : List ι) :
    HasLineage w v u edit resource
      ((Crowd.start w (edits v u edit resource)).after (order.map (·, none)))
      (Lineage.after order) := by
  have hstart : HasLineage w v u edit resource (.start w (edits v u edit resource)) {} :=
    ⟨rfl, fun _ => rfl, rfl⟩
  have hrun (c : Crowd ι fun _ => Unit) (l : Lineage ι) (h : HasLineage w v u edit resource c l) :
      HasLineage w v u edit resource (c.after (order.map (·, none))) (order.foldl Lineage.turn l) := by
    induction order generalizing c l with
    | nil => exact h
    | cons i order ih => exact ih _ _ (h.turn i)
  exact hrun _ _ hstart

end Edits

/-! ## Two edits -/

/-- Two edits count both, unless each has read before the other has written. -/
private theorem lineage_of_two {turns : List Bool} (hcount : ∀ i, turns.count i = 2) :
    ∃ last,
      (turns = [!last, !last, last, last] ∧ (Lineage.after turns).present = [!last, last]) ∨
      ((turns = [last, !last, !last, last] ∨ turns = [!last, last, !last, last]) ∧
        (Lineage.after turns).present = [last]) := by
  have hlength : turns.length = 4 := by
    rw [← List.count_false_add_count_true, hcount, hcount]
  match turns, hlength with
  | [a, b, c, d], _ =>
    revert a b c d
    decide

/-- An edit that has succeeded has read and written. -/
private theorem HasLineage.written [DecidableEq ι] {c : Crowd ι fun _ => Unit} {l : Lineage ι}
    {w : World} {v u : String} {edit : ι → Edit} {resource : ι → String}
    (h : HasLineage w v u edit resource c l) {i : ι} (hi : c.Succeeded i) : l.stage i = .written := by
  obtain ⟨a, ha⟩ := Crowd.succeeded_iff.1 hi
  have hrest := h.rest i
  rw [ha] at hrest
  cases hstage : l.stage i with
  | fresh =>
    obtain ⟨next, hrun, -⟩ := updatePermissions_reads v u (edit i) (resource i)
    rw [hstage, restOfEdit, edits, hrun] at hrest
    cases hrest
  | read base =>
    obtain ⟨e, next, hrun, -⟩ := writeBack_writes v u (edit i) (resource i)
      ((w.serially (edits v u edit resource) base).broker.grantAt ⟨v, u⟩)
    rw [hstage, restOfEdit, hrun] at hrest
    cases hrest
  | written => rfl

/-- Two edits of one grant that both succeed leave what they leave one after the other, unless each
has read before the other has written; then they leave what the one that has written last leaves
alone. -/
theorem concurrent_edits (w : World) (v u : String) (edit : Bool → Edit) (resource : Bool → String)
    (order : List Bool)
    (hok : ∀ i, ((Crowd.start w (edits v u edit resource)).after
      (order.map (·, none))).Succeeded i) :
    let c := (Crowd.start w (edits v u edit resource)).after (order.map (·, none))
    let turns := c.turns.map (·.request)
    ∃ last,
      (turns = [!last, !last, last, last] ∧
        c.world = w.serially (edits v u edit resource) [!last, last]) ∨
      ((turns = [last, !last, !last, last] ∨ turns = [!last, last, !last, last]) ∧
        c.world = w.serially (edits v u edit resource) [last]) := by
  intro c turns
  have h : HasLineage w v u edit resource c (Lineage.after order) := edits_follow_lineage order
  have hcount (i : Bool) : (Lineage.after order).turns.count i = 2 := by
    rw [Lineage.count_turns, h.written (hok i)]
  obtain ⟨last, hlast⟩ := lineage_of_two hcount
  rw [Lineage.after_turns, ← h.turns] at hlast
  refine ⟨last, hlast.imp (fun hserial => ⟨hserial.1, ?_⟩) fun hlost => ⟨hlost.1, ?_⟩⟩
  · rw [h.world, hserial.2]
  · rw [h.world, hlost.2]

/-- One after the other, and a turn too many. -/
theorem concurrent_edits_serial :
    let now : Timestamp := ⟨⟨2024, 1, 1, by decide⟩, 0, 0, 0, by decide⟩
    let w := ((World.new (fun _ => "secret") now).run {} (.ensureUser "bob" "IUDX")).2
    let resource : Bool → String := fun i => if i then "y" else "x"
    let p := edits "IUDX" "bob" (fun _ => .addRead) resource
    let c := (Crowd.start w p).after ([true, true, false, false, true].map (·, none))
    (∀ i, c.Succeeded i) ∧ c.world = w.serially p [true, false] := by
  intro now w resource p c
  have hok : ∀ i, c.Succeeded i := by decide +kernel
  have hturns : c.turns.map (·.request) = [true, true, false, false] := by decide +kernel
  have hedits := concurrent_edits w "IUDX" "bob" (fun _ => .addRead) resource
    [true, true, false, false, true]
  change (∀ i, c.Succeeded i) → ∃ last,
    (c.turns.map (·.request) = [!last, !last, last, last] ∧
      c.world = w.serially p [!last, last]) ∨
    ((c.turns.map (·.request) = [last, !last, !last, last] ∨
      c.turns.map (·.request) = [!last, last, !last, last]) ∧
        c.world = w.serially p [last]) at hedits
  clear_value c p w
  refine ⟨hok, ?_⟩
  obtain ⟨last, ⟨hserial, hworld⟩ | ⟨hlost, -⟩⟩ := hedits hok
  · have hlast : last = false := by simpa using hturns.symm.trans hserial
    subst hlast
    exact hworld
  · rw [hturns] at hlost
    cases last <;> simp at hlost

/-- Both read before one writes: the first to write has edited for nothing. -/
theorem edit_lost :
    let now : Timestamp := ⟨⟨2024, 1, 1, by decide⟩, 0, 0, 0, by decide⟩
    let w := ((World.new (fun _ => "secret") now).run {} (.ensureUser "bob" "IUDX")).2
    let resource : Bool → String := fun i => if i then "y" else "x"
    let p := edits "IUDX" "bob" (fun _ => .addRead) resource
    let c := (Crowd.start w p).after ([false, true, false, true].map (·, none))
    (∀ i, c.Succeeded i) ∧ ∀ i, c.world.broker.grantAt ⟨"IUDX", "bob"⟩ ≠
      (w.serially p [i, !i]).broker.grantAt ⟨"IUDX", "bob"⟩ := by
  intro now w resource p c
  have hok : ∀ i, c.Succeeded i := by decide +kernel
  have hlost : ∀ i, c.world.broker.grantAt ⟨"IUDX", "bob"⟩ ≠
      (w.serially p [i, !i]).broker.grantAt ⟨"IUDX", "bob"⟩ := by
    decide +kernel
  clear_value c
  exact ⟨hok, hlost⟩

end BrokerControl.Control
