import BrokerControl.Control.Rehearsal
import BrokerControl.Proofs.Control.Discretion
import Mathlib.Data.List.Forall2

/-! # What a caller learns of failed calls

Two rehearsals set out from one world and make the same calls fail, each for reasons of its own that
are neither that a resource is there already nor that it is not there. They end in one world and
have made the same calls, and the caller is told the same. -/

namespace BrokerControl.Control

/-! ## Failures injected for different reasons -/

namespace Injection

variable {ε : Type} {R : ε → ε → Prop}

/-- In place of the same calls, for reasons that `R` relates. -/
structure Agree (R : ε → ε → Prop) (i j : Injection ε) : Prop where
  call : i.call = j.call
  error : R i.error j.error
  after : i.after = j.after
  times : i.times = j.times

theorem visit_agree (call : String) {is js : List (Injection ε)}
    (h : List.Forall₂ (Agree R) is js) :
    Option.Rel R (visit call is).1 (visit call js).1 ∧
      List.Forall₂ (Agree R) (visit call is).2 (visit call js).2 := by
  induction h with
  | nil => exact ⟨.none, .nil⟩
  | @cons i j is js hij hrest ih =>
    unfold visit
    rw [← hij.call, ← hij.times, ← hij.after]
    split
    · split
      · exact ⟨.some hij.error, .cons ⟨rfl, hij.error, rfl, rfl⟩ hrest⟩
      · exact ⟨ih.1, .cons ⟨rfl, hij.error, rfl, rfl⟩ ih.2⟩
    · exact ⟨ih.1, .cons hij ih.2⟩

end Injection

namespace Rehearsal

variable {r r' : Rehearsal}

/-- Rehearsals in one world that made the same calls and will make the same calls fail. -/
structure Agree (r r' : Rehearsal) : Prop where
  world : r.world = r'.world
  brokerInjections :
    List.Forall₂ (Injection.Agree Broker.Error.Agree) r.brokerInjections r'.brokerInjections
  registryInjections :
    List.Forall₂ (Injection.Agree Registry.Error.Agree) r.registryInjections r'.registryInjections
  calls : r.log.map Entry.effect = r'.log.map Entry.effect

theorem Agree.record (h : r.Agree r') (e : Effect) (failure failure' : Option String) :
    (r.record e failure).Agree (r'.record e failure') where
  world := h.world
  brokerInjections := h.brokerInjections
  registryInjections := h.registryInjections
  calls := by simp only [Rehearsal.record, List.map_append, h.calls, List.map_cons]

theorem Agree.pass (h : r.Agree r') (e : Effect) :
    (r.pass e).1 = (r'.pass e).1 ∧ (r.pass e).2.Agree (r'.pass e).2 := by
  unfold Rehearsal.pass
  rw [← h.world]
  exact ⟨rfl, rfl, h.brokerInjections, h.registryInjections, h.calls⟩

theorem Agree.answerBroker (h : r.Agree r') (c : Broker.Call) :
    UpTo Broker.Error.Agree (r.answerBroker c).1 (r'.answerBroker c).1 ∧
      (r.answerBroker c).2.Agree (r'.answerBroker c).2 := by
  unfold Rehearsal.answerBroker
  obtain ⟨hfired, hleft⟩ := Injection.visit_agree c.name h.brokerInjections
  generalize Injection.visit c.name r.brokerInjections = v at hfired hleft
  generalize Injection.visit c.name r'.brokerInjections = v' at hfired hleft
  obtain ⟨fired, left⟩ := v
  obtain ⟨fired', left'⟩ := v'
  cases hfired with
  | some he => exact ⟨.error he, h.world, hleft, h.registryInjections, h.calls⟩
  | none =>
    have hr : ({ r with brokerInjections := left } : Rehearsal).Agree
        { r' with brokerInjections := left' } :=
      ⟨h.world, hleft, h.registryInjections, h.calls⟩
    obtain ⟨hanswer, hstate⟩ := hr.pass (.broker c)
    refine ⟨?_, hstate⟩
    dsimp only
    rw [hanswer]
    exact UpTo.refl (fun _ => .inl rfl) _

theorem Agree.answerRegistry (h : r.Agree r') (c : Registry.Call) :
    UpTo Registry.Error.Agree (r.answerRegistry c).1 (r'.answerRegistry c).1 ∧
      (r.answerRegistry c).2.Agree (r'.answerRegistry c).2 := by
  unfold Rehearsal.answerRegistry
  obtain ⟨hfired, hleft⟩ := Injection.visit_agree c.name h.registryInjections
  generalize Injection.visit c.name r.registryInjections = v at hfired hleft
  generalize Injection.visit c.name r'.registryInjections = v' at hfired hleft
  obtain ⟨fired, left⟩ := v
  obtain ⟨fired', left'⟩ := v'
  cases hfired with
  | some he => exact ⟨.error he, h.world, h.brokerInjections, hleft, h.calls⟩
  | none =>
    have hr : ({ r with registryInjections := left } : Rehearsal).Agree
        { r' with registryInjections := left' } :=
      ⟨h.world, h.brokerInjections, hleft, h.calls⟩
    obtain ⟨hanswer, hstate⟩ := hr.pass (.registry c)
    refine ⟨?_, hstate⟩
    dsimp only
    rw [hanswer]
    exact UpTo.refl (fun _ => .inl rfl) _

/-- One effect: the answers differ at most in why the call failed. -/
theorem Agree.handle (h : r.Agree r') (e : Effect) :
    e.Agree (handle e r).1 (handle e r').1 ∧ (handle e r).2.Agree (handle e r').2 := by
  cases e with
  | broker c =>
    obtain ⟨hanswer, hstate⟩ := h.answerBroker c
    unfold Rehearsal.handle
    dsimp only
    generalize r.answerBroker c = a at hanswer hstate
    generalize r'.answerBroker c = a' at hanswer hstate
    obtain ⟨x, r⟩ := a
    obtain ⟨x', r'⟩ := a'
    cases hanswer with
    | ok a => exact ⟨.ok a, hstate.record ..⟩
    | error he => exact ⟨.error he, hstate.record ..⟩
  | registry c =>
    obtain ⟨hanswer, hstate⟩ := h.answerRegistry c
    unfold Rehearsal.handle
    dsimp only
    generalize r.answerRegistry c = a at hanswer hstate
    generalize r'.answerRegistry c = a' at hanswer hstate
    obtain ⟨x, r⟩ := a
    obtain ⟨x', r'⟩ := a'
    cases hanswer with
    | ok a => exact ⟨.ok a, hstate.record ..⟩
    | error he => exact ⟨.error he, hstate.record ..⟩
  | drawPassword => exact h.pass .drawPassword
  | readClock => exact h.pass .readClock
  | count event => exact ⟨trivial, (h.pass (.count event)).2⟩

/-- Why calls failed changes neither what an operation does nor what its caller is told, as long as
they did not fail because something is there already or not there. -/
theorem failures_undisclosed (h : r.Agree r') (s : Settings) (op : Operation) :
    UpTo Failure.Agree (r.run s op).1 (r'.run s op).1 ∧
      (r.run s op).2.Agree (r'.run s op).2 :=
  Plan.Related.interpret (fun e _ _ hs => hs.handle e) (op.procedure_discreet s) h

/-- A registration of which the second binding fails, and then the deletion of its exchange too. -/
theorem failures_undisclosed_binding :
    let w : World :=
      { passwords := fun _ => "secret", now := ⟨⟨2024, 1, 1, by decide⟩, 0, 0, 0, by decide⟩ }
    let r : Rehearsal :=
      { world := (w.run {} .bootstrap).2
        brokerInjections := [⟨"bind_queue", .transport, 1, 1⟩,
          ⟨"delete_exchange", .transport, 0, 1⟩] }
    let r' : Rehearsal :=
      { world := (w.run {} .bootstrap).2
        brokerInjections := [⟨"bind_queue", .unexpectedStatus "/api/bindings" 503, 1, 1⟩,
          ⟨"delete_exchange", .invalidPayload, 0, 1⟩] }
    let op : Operation := .registerAdaptor ⟨"a/b/c/d", "alice", none⟩
    r.Agree r' ∧ (r.run {} op).1 = .error (.remote "Queue binding failed" .transport) ∧
      UpTo Failure.Agree (r.run {} op).1 (r'.run {} op).1 ∧
      (r.run {} op).2.Agree (r'.run {} op).2 := by
  intro w r r' op
  have hagree : r.Agree r' :=
    ⟨rfl, .cons ⟨rfl, .inr ⟨⟨rfl, rfl⟩, rfl, rfl⟩, rfl, rfl⟩
      (.cons ⟨rfl, .inr ⟨⟨rfl, rfl⟩, rfl, rfl⟩, rfl, rfl⟩ .nil), .nil, rfl⟩
  have hfails : (r.run {} op).1 = .error (.remote "Queue binding failed" .transport) := by
    decide +kernel
  exact ⟨hagree, hfails, failures_undisclosed hagree {} op⟩

end Rehearsal

end BrokerControl.Control
