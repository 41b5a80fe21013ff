import BrokerControl.Control.World
import BrokerControl.Proofs.Broker.WellFormed
import BrokerControl.Proofs.Registry.Response

/-! # Carrying procedures out

How a procedure ends in a given world: with a result or with a failure, and in which world then.
There is one rule for each way of putting procedures together. -/

namespace BrokerControl.Control

variable {α β : Type}

namespace World

/-! ## Parts of the world -/

/-- A world with a new broker and a new registry. -/
def new (passwords : Nat → String) (now : Timestamp) : World := { passwords, now }

def withBroker (w : World) (b : Broker) : World := { w with broker := b }

def withRegistry (w : World) (r : Registry) : World := { w with registry := r }

/-- The world after the next password was drawn. -/
def withDrawn (w : World) : World := { w with drawn := w.drawn + 1 }

def withEvent (w : World) (e : Event) : World := { w with events := w.events ++ [e] }

@[simp] theorem withBroker_broker (w : World) (b : Broker) : (w.withBroker b).broker = b := rfl

@[simp] theorem withRegistry_broker (w : World) (r : Registry) :
    (w.withRegistry r).broker = w.broker := rfl

@[simp] theorem withRegistry_registry (w : World) (r : Registry) :
    (w.withRegistry r).registry = r := rfl

@[simp] theorem withDrawn_broker (w : World) : w.withDrawn.broker = w.broker := rfl

@[simp] theorem withEvent_broker (w : World) (e : Event) :
    (w.withEvent e).broker = w.broker := rfl

/-! ## Procedures -/

/-- Carries a procedure out. -/
def exec (w : World) (p : Procedure α) : Except Failure α × World := w.runPlan p.run

/-- Carrying out the procedure ends with a result and a world as in `ok`, or with a failure and a
world as in `failed`. -/
def Ends (w : World) (p : Procedure α) (ok : α → World → Prop)
    (failed : Failure → World → Prop) : Prop :=
  match w.exec p with
  | (.ok a, w') => ok a w'
  | (.error f, w') => failed f w'

theorem run_eq_exec (w : World) (s : Settings) (op : Operation) :
    w.run s op = w.exec (op.procedure s) := rfl

theorem handle_broker (w : World) (c : Broker.Call) :
    handle (.broker c) w = ((w.broker.respond c).1, w.withBroker (w.broker.respond c).2) := rfl

theorem handle_registry (w : World) (c : Registry.Call) :
    handle (.registry c) w = ((w.registry.respond c).1, w.withRegistry (w.registry.respond c).2) :=
  rfl

theorem runPlan_step (w : World) (e : Effect) (next : e.Answer → Plan α) :
    w.runPlan (.step e next) = (handle e w).2.runPlan (next (handle e w).1) := rfl

theorem runPlan_bind (w : World) (p : Plan α) (f : α → Plan β) :
    w.runPlan (p >>= f) = (w.runPlan p).2.runPlan (f (w.runPlan p).1) := by
  rw [runPlan, Plan.interpret_bind]
  rfl

theorem exec_bind (w : World) (p : Procedure α) (f : α → Procedure β) :
    w.exec (p >>= f) =
      match w.exec p with
      | (.ok a, w') => w'.exec (f a)
      | (.error e, w') => (.error e, w') := by
  change w.runPlan (p.run >>= _) = _
  rw [runPlan_bind]
  simp only [exec]
  rcases w.runPlan p.run with ⟨e | a, w'⟩ <;> rfl

theorem exec_bind_of_ok {w w' : World} {p : Procedure α} {a : α} (h : w.exec p = (.ok a, w'))
    (f : α → Procedure β) : w.exec (p >>= f) = w'.exec (f a) := by
  rw [exec_bind, h]

theorem exec_lift_bind (w : World) (p : Plan α) (f : α → Procedure β) :
    w.exec (liftM p >>= f) = (w.runPlan p).2.exec (f (w.runPlan p).1) := by
  have hlift : w.exec (liftM p) = (.ok (w.runPlan p).1, (w.runPlan p).2) := by
    change w.runPlan (p >>= fun a => pure (Except.ok a)) = _
    exact w.runPlan_bind p _
  rw [exec_bind, hlift]

theorem runPlan_broker (w : World) (c : Broker.Call) : w.runPlan (Procedure.broker c) =
    ((w.broker.respond c).1, w.withBroker (w.broker.respond c).2) := rfl

theorem exec_require (w : World) (c : Broker.Call) (fault : Broker.Error → Failure) :
    w.exec (Procedure.require c fault) =
      ((w.broker.respond c).1.mapError fault, w.withBroker (w.broker.respond c).2) := by
  rw [Procedure.require, exec_lift_bind, runPlan_broker]
  cases (w.broker.respond c).1 with
  | ok a => rfl
  | error e => rfl

/-- Whatever comes of undoing a saga, the error is handed back as it was. -/
theorem runPlan_abort (w : World) (s : Saga Creation) (f : Failure) :
    (w.runPlan (s.abort f : Plan _)).1.1 = f := by
  rw [Saga.abort, runPlan_bind, runPlan_bind]
  rfl

namespace Ends

variable {w : World} {ok : α → World → Prop} {failed : Failure → World → Prop}

theorem mono {p : Procedure α} {ok' : α → World → Prop} {failed' : Failure → World → Prop}
    (h : w.Ends p ok failed) (hok : ∀ a w', ok a w' → ok' a w')
    (hfailed : ∀ f w', failed f w' → failed' f w') : w.Ends p ok' failed' := by
  unfold Ends at h ⊢
  split at h
  · exact hok _ _ h
  · exact hfailed _ _ h

theorem of_ok {p : Procedure α} {a : α} {w' : World} (h : w.Ends p ok failed)
    (hrun : w.exec p = (.ok a, w')) : ok a w' := by
  unfold Ends at h
  rwa [hrun] at h

theorem of_error {p : Procedure α} {f : Failure} {w' : World} (h : w.Ends p ok failed)
    (hrun : w.exec p = (.error f, w')) : failed f w' := by
  unfold Ends at h
  rwa [hrun] at h

theorem of_both {p : Procedure α} {P : Except Failure α → World → Prop}
    (h : w.Ends p (fun a w' => P (.ok a) w') fun f w' => P (.error f) w') :
    P (w.exec p).1 (w.exec p).2 := by
  unfold Ends at h
  revert h
  rcases w.exec p with ⟨e | a, w'⟩ <;> exact id

theorem and {p : Procedure α} {ok' : α → World → Prop} {failed' : Failure → World → Prop}
    (h : w.Ends p ok failed) (h' : w.Ends p ok' failed') :
    w.Ends p (fun a w' => ok a w' ∧ ok' a w') fun f w' => failed f w' ∧ failed' f w' := by
  unfold Ends at h h' ⊢
  revert h h'
  rcases w.exec p with ⟨e | a, w'⟩ <;> exact And.intro

theorem of_exec_ok {p : Procedure α} {a : α} {w' : World} (hrun : w.exec p = (.ok a, w'))
    (h : ok a w') : w.Ends p ok failed := by
  unfold Ends
  rwa [hrun]

/-- What holds of the world in the end holds both ways. -/
theorem of_exec {p : Procedure α} {P : World → Prop} (h : P (w.exec p).2) :
    w.Ends p (fun _ => P) fun _ => P := by
  unfold Ends
  revert h
  rcases w.exec p with ⟨e | a, w'⟩ <;> exact id

theorem pure {a : α} (h : ok a w) : w.Ends (pure a) ok failed := h

theorem throw {f : Failure} (h : failed f w) : w.Ends (throw f : Procedure α) ok failed := h

theorem bind {p : Procedure β} {f : β → Procedure α}
    (h : w.Ends p (fun b w' => w'.Ends (f b) ok failed) failed) :
    w.Ends (p >>= f) ok failed := by
  unfold Ends at h ⊢
  rw [exec_bind]
  revert h
  rcases w.exec p with ⟨e | b, w'⟩ <;> exact id

theorem broker {c : Broker.Call} {ok : Except Broker.Error c.Answer → World → Prop}
    (h : ∀ a b, w.broker.respond c = (a, b) → ok a (w.withBroker b)) :
    w.Ends (liftM (Procedure.broker c)) ok failed := h _ _ rfl

theorem registry {c : Registry.Call} {ok : Except Registry.Error c.Answer → World → Prop}
    (h : ∀ a r, w.registry.respond c = (a, r) → ok a (w.withRegistry r)) :
    w.Ends (liftM (Procedure.registry c)) ok failed := h _ _ rfl

theorem drawPassword {ok : String → World → Prop} (h : ok (w.passwords w.drawn) w.withDrawn) :
    w.Ends (liftM Procedure.drawPassword) ok failed := h

theorem readClock {ok : Timestamp → World → Prop} (h : ok w.now w) :
    w.Ends (liftM Procedure.readClock) ok failed := h

/-! ### Requirements -/

theorem demand {condition : Bool} {message : String} {ok : Unit → World → Prop}
    (hok : condition = true → ok () w)
    (hfailed : condition = false → failed (.validation message) w) :
    w.Ends (Procedure.demand condition message) ok failed := by
  unfold Procedure.demand
  cases h : condition with
  | true => exact hok h
  | false => exact hfailed h

theorem ofExcept {x : Except Failure α} (hok : ∀ a, x = .ok a → ok a w)
    (hfailed : ∀ f, x = .error f → failed f w) : w.Ends (ofExcept x) ok failed := by
  cases h : x with
  | ok a => exact hok a h
  | error f => exact hfailed f h

/-- A broker call that fails leaves the broker as it was, so the world is not touched. -/
theorem require {c : Broker.Call} {fault : Broker.Error → Failure} {ok : c.Answer → World → Prop}
    (hok : ∀ a b, w.broker.respond c = (.ok a, b) → ok a (w.withBroker b))
    (hfailed : ∀ e, w.broker.respond c = (.error e, w.broker) → failed (fault e) w) :
    w.Ends (Procedure.require c fault) ok failed := by
  refine .bind (.broker fun a b h => ?_)
  cases a with
  | ok a => exact hok a b h
  | error e =>
    obtain rfl : w.broker = b := by
      have hb := Broker.respond_of_error (congrArg Prod.fst h)
      rw [h] at hb
      exact hb.symm
    exact hfailed e h

/-- A registry call that fails leaves the registry as it was. -/
theorem requireRow {c : Registry.Call} {fault : Registry.Error → Failure}
    {ok : c.Answer → World → Prop}
    (hok : ∀ a r, w.registry.respond c = (.ok a, r) → ok a (w.withRegistry r))
    (hfailed : ∀ e, w.registry.respond c = (.error e, w.registry) → failed (fault e) w) :
    w.Ends (Procedure.requireRow c fault) ok failed := by
  refine .bind (.registry fun a r h => ?_)
  cases a with
  | ok a => exact hok a r h
  | error e =>
    obtain rfl : w.registry = r := by
      have hr := Registry.respond_of_error _ (congrArg Prod.fst h)
      rw [h] at hr
      exact hr.symm
    exact hfailed e h

/-! ### Failures that are handled -/

theorem attempt {p : Procedure Unit} {ok : Unit → World → Prop}
    (h : w.Ends p ok fun _ w' => ok () w') : w.Ends (Procedure.attempt p) ok failed := by
  have hrun : w.exec (Procedure.attempt p) = (.ok (), (w.exec p).2) := by
    change w.runPlan (p.run >>= _) = _
    rw [runPlan_bind]
    simp only [exec]
    rcases w.runPlan p.run with ⟨e | a, w'⟩ <;> rfl
  unfold Ends at h ⊢
  rw [hrun]
  revert h
  rcases w.exec p with ⟨e | a, w'⟩ <;> exact id

/-- A step under a saga ends like the step itself, but after a failure the saga is undone. -/
theorem guarded {s : Saga Creation} {p : Procedure α}
    (h : w.Ends p ok fun f w' => failed f (w'.runPlan (s.abort f)).2) :
    w.Ends (s.guarded p) ok failed := by
  have hrun : w.exec (s.guarded p) =
      match w.exec p with
      | (.ok a, w') => (.ok a, w')
      | (.error e, w') => (.error e, (w'.runPlan (s.abort e)).2) := by
    rw [Saga.guarded, exec_lift_bind, Saga.guard, runPlan_bind]
    simp only [exec]
    rcases w.runPlan p.run with ⟨e | a, w'⟩
    · simp only [runPlan_bind, runPlan_abort]
      rfl
    · rfl
  unfold Ends at h ⊢
  rw [hrun]
  revert h
  rcases w.exec p with ⟨e | a, w'⟩ <;> exact id

theorem complete {s : Saga Creation} {ok : Unit → World → Prop}
    (h : ok () (w.withEvent (.completed s.name))) :
    w.Ends (liftM (s.complete : Plan Unit)) ok failed := h

end Ends

/-! ## What is heard -/

/-- The effects of a plan with their answers, in order. -/
def heard (w : World) : Plan α → List (Σ e : Effect, e.Answer)
  | .done _ => []
  | .step e next => ⟨e, (handle e w).1⟩ :: heard (handle e w).2 (next (handle e w).1)

theorem heard_bind (w : World) (p : Plan α) (f : α → Plan β) :
    w.heard (p >>= f) = w.heard p ++ (w.runPlan p).2.heard (f (w.runPlan p).1) := by
  induction p generalizing w with
  | done a => rfl
  | step e next ih => exact congrArg (List.cons _) (ih (handle e w).1 (handle e w).2)

/-- Everything that is heard while a procedure is carried out is as in `P`. -/
def Hears (w : World) (P : (e : Effect) → e.Answer → Prop) (p : Procedure α) : Prop :=
  ∀ x ∈ w.heard p.run, P x.1 x.2

instance (w : World) (P : (e : Effect) → e.Answer → Prop) [∀ e a, Decidable (P e a)]
    (p : Procedure α) : Decidable (w.Hears P p) :=
  inferInstanceAs (Decidable (∀ x ∈ w.heard p.run, P x.1 x.2))

section Hears

variable {w : World} {P : (e : Effect) → e.Answer → Prop}

theorem Hears.of_bind {p : Procedure α} {f : α → Procedure β} (h : w.Hears P (p >>= f)) :
    w.Hears P p ∧ ∀ a w', w.exec p = (.ok a, w') → w'.Hears P (f a) := by
  have hall : ∀ x ∈ w.heard p.run ++ (w.exec p).2.heard (ExceptT.bindCont f (w.exec p).1),
      P x.1 x.2 := by
    rw [exec, ← heard_bind]
    exact h
  refine ⟨fun x hx => hall x (List.mem_append_left _ hx), fun a w' hrun x hx => ?_⟩
  rw [hrun] at hall
  exact hall x (List.mem_append_right _ hx)

/-- What follows a step may rely on what is heard after it. -/
theorem Ends.bind_hearing {ok : β → World → Prop} {failed : Failure → World → Prop}
    {p : Procedure α} {f : α → Procedure β} (hhears : w.Hears P (p >>= f))
    (h : w.Ends p (fun a w' => w'.Hears P (f a) → w'.Ends (f a) ok failed) failed) :
    w.Ends (p >>= f) ok failed := by
  refine .bind ?_
  have hrest := hhears.of_bind.2
  unfold Ends at h ⊢
  split at h
  · next a w' hrun => exact h (hrest a w' hrun)
  · exact h

theorem Hears.broker {c : Broker.Call} (h : w.Hears P (liftM (Procedure.broker c))) :
    P (.broker c) (w.broker.respond c).1 := h _ List.mem_cons_self

theorem Hears.require {c : Broker.Call} {fault : Broker.Error → Failure}
    (h : w.Hears P (Procedure.require c fault)) : P (.broker c) (w.broker.respond c).1 :=
  h.of_bind.1.broker

theorem Hears.of_attempt {p : Procedure Unit} (h : w.Hears P (Procedure.attempt p)) :
    w.Hears P p := by
  intro x hx
  refine h x ?_
  change x ∈ w.heard (p.run >>= _)
  rw [heard_bind]
  exact List.mem_append_left _ hx

end Hears

/-! ## What undoing does -/

theorem broker_abort (w : World) (name : String) (k : Creation) {f : Failure} :
    (w.runPlan (((Saga.begin name).onFailure k).abort f : Plan _)).2.broker =
      (w.runPlan k.takeBack).2.broker := by
  change _ = (w.runPlan (Undoes.undo (m := Plan) k)).2.broker
  simp only [Saga.abort, Saga.begin, Saga.onFailure, Saga.unwind, runPlan_bind]
  rcases w.runPlan (Undoes.undo (m := Plan) k) with ⟨_ | _, w'⟩ <;> rfl

theorem registry_abort (w : World) (name : String) (k : Creation) {f : Failure} :
    (w.runPlan (((Saga.begin name).onFailure k).abort f : Plan _)).2.registry =
      (w.runPlan k.takeBack).2.registry := by
  change _ = (w.runPlan (Undoes.undo (m := Plan) k)).2.registry
  simp only [Saga.abort, Saga.begin, Saga.onFailure, Saga.unwind, runPlan_bind]
  rcases w.runPlan (Undoes.undo (m := Plan) k) with ⟨_ | _, w'⟩ <;> rfl

theorem broker_abort_exchange {w : World} {f : Failure} (name : String) {vhost exchange : String}
    (hpresent : w.broker.exchanges.contains ⟨vhost, exchange⟩ = true)
    (hworks : w.broker.faults.deleteExchange = false) :
    (w.runPlan (((Saga.begin name).onFailure (Creation.exchange vhost exchange)).abort f :
      Plan _)).2.broker = w.broker.withoutExchange ⟨vhost, exchange⟩ := by
  rw [broker_abort]
  change (w.broker.respond (.deleteExchange vhost exchange)).2 = _
  rw [Broker.respond_deleteExchange, hworks, if_neg Bool.false_ne_true, if_pos hpresent]

theorem broker_abort_queue {w : World} {f : Failure} (name : String) {vhost queue : String}
    (hpresent : w.broker.queues.contains ⟨vhost, queue⟩ = true)
    (hworks : w.broker.faults.deleteQueue = false) :
    (w.runPlan (((Saga.begin name).onFailure (Creation.queue vhost queue)).abort f :
      Plan _)).2.broker = w.broker.withoutQueue ⟨vhost, queue⟩ := by
  rw [broker_abort]
  change (w.broker.respond (.deleteQueue vhost queue)).2 = _
  rw [Broker.respond_deleteQueue, hworks, if_neg Bool.false_ne_true, if_pos hpresent]

/-! ## Invariants -/

/-- What every effect preserves is preserved by every plan. -/
theorem runPlan_of_handle {P : World → Prop} (hhandle : ∀ e w, P w → P (handle e w).2)
    (p : Plan α) {w : World} (h : P w) : P (w.runPlan p).2 := by
  induction p generalizing w with
  | done a => exact h
  | step e next ih => exact ih (handle e w).1 (hhandle e w h)

/-- What every call preserves is preserved by every plan. -/
theorem runPlan_preserves {P : Broker → Prop} (hcall : ∀ b c, P b → P (b.respond c).2)
    (p : Plan α) {w : World} (h : P w.broker) : P (w.runPlan p).2.broker := by
  refine runPlan_of_handle (P := fun w => P w.broker) (fun e w hw => ?_) p h
  cases e with
  | broker c => exact hcall w.broker c hw
  | registry c => exact hw
  | drawPassword => exact hw
  | readClock => exact hw
  | count event => exact hw

theorem reachable_run {w : World} (h : w.broker.Reachable) (s : Settings) (op : Operation) :
    (w.run s op).2.broker.Reachable :=
  runPlan_preserves (fun _ c hb => hb.call c) _ h

theorem wellFormed_run {w : World} (h : w.broker.WellFormed) (s : Settings) (op : Operation) :
    (w.run s op).2.broker.WellFormed :=
  runPlan_preserves (fun _ c hb => hb.respond c) _ h

theorem faults_run (w : World) (s : Settings) (op : Operation) :
    (w.run s op).2.broker.faults = w.broker.faults :=
  runPlan_preserves (P := fun b => b.faults = w.broker.faults)
    (fun b c hb => (b.faults_respond c).trans hb) _ rfl

theorem Ends.and_preserved {P : Broker → Prop} (hcall : ∀ b c, P b → P (b.respond c).2)
    {w : World} {p : Procedure α} {ok : α → World → Prop} {failed : Failure → World → Prop}
    (h : w.Ends p ok failed) (hP : P w.broker) :
    w.Ends p (fun a w' => ok a w' ∧ P w'.broker) fun f w' => failed f w' ∧ P w'.broker :=
  h.and (.of_exec (P := fun w' => P w'.broker) (runPlan_preserves hcall p.run hP))

theorem Ends.and_wellFormed {w : World} {p : Procedure α} {ok : α → World → Prop}
    {failed : Failure → World → Prop} (h : w.Ends p ok failed) (hw : w.broker.WellFormed) :
    w.Ends p (fun a w' => ok a w' ∧ w'.broker.WellFormed)
      fun f w' => failed f w' ∧ w'.broker.WellFormed :=
  h.and_preserved (fun _ c hb => hb.respond c) hw

theorem Ends.and_faults {w : World} {p : Procedure α} {ok : α → World → Prop}
    {failed : Failure → World → Prop} (h : w.Ends p ok failed) :
    w.Ends p (fun a w' => ok a w' ∧ w'.broker.faults = w.broker.faults)
      fun f w' => failed f w' ∧ w'.broker.faults = w.broker.faults :=
  h.and_preserved (P := fun b => b.faults = w.broker.faults)
    (fun b c hb => (b.faults_respond c).trans hb) rfl

end World

end BrokerControl.Control
