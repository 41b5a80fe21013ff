import BrokerControl.Control.Rehearsal
import BrokerControl.Proofs.Control.Runs
import BrokerControl.Proofs.Control.Topology

/-! # The bootstrap, once and again

A bootstrap reports each resource as created exactly if it was missing when its turn came. What an
interrupted bootstrap leaves behind is part of what a whole one makes, so that the next whole one
ends as the first would have. -/

namespace BrokerControl.Control

open Broker (Call)

variable {α β : Type}

/-! ## The world before an effect -/

namespace World

/-- The world in which a plan performs the effect of a given number, counted from zero. -/
def before (w : World) : Nat → Plan α → World
  | i + 1, .step e next => (handle e w).2.before i (next (handle e w).1)
  | _, _ => w

theorem before_zero (w : World) (p : Plan α) : w.before 0 p = w := by
  cases p <;> rfl

theorem before_bind (w : World) (p : Plan α) (f : α → Plan β) (i : Nat) :
    w.before ((w.heard p).length + i) (p >>= f) =
      (w.runPlan p).2.before i (f (w.runPlan p).1) := by
  induction p generalizing w with
  | done a =>
    rw [heard, List.length_nil, Nat.zero_add]
    rfl
  | step e next ih =>
    rw [heard, List.length_cons, Nat.add_right_comm]
    exact ih (handle e w).1 (handle e w).2

/-- What performs no effects comes after all of them. -/
theorem before_bind_done (w : World) (p : Plan α) {f : α → Plan β} (hf : ∀ a, ∃ b, f a = .done b)
    (i : Nat) : w.before i (p >>= f) = w.before i p := by
  induction p generalizing w i with
  | done a =>
    obtain ⟨b, hb⟩ := hf a
    rw [Plan.done_bind, hb]
    cases i <;> rfl
  | step e next ih =>
    cases i with
    | zero => rfl
    | succ i => exact ih (handle e w).1 (handle e w).2 i

theorem before_bind_of_ok {w w' : World} {p : Procedure α} {a : α} (h : w.exec p = (.ok a, w'))
    (f : α → Procedure β) (i : Nat) :
    w.before ((w.heard p.run).length + i) (p >>= f).run = w'.before i (f a).run := by
  have hbind := w.before_bind p.run (ExceptT.bindCont f) i
  rw [show w.runPlan p.run = _ from h] at hbind
  exact hbind

theorem before_map (w : World) (p : Procedure α) (f : α → β) (i : Nat) :
    w.before i (p >>= fun a => pure (f a) : Procedure β).run = w.before i p.run :=
  w.before_bind_done p.run (fun | .ok a => ⟨.ok (f a), rfl⟩ | .error e => ⟨.error e, rfl⟩) i

theorem heard_bind_of_ok {w w' : World} {p : Procedure α} {a : α} (h : w.exec p = (.ok a, w'))
    (f : α → Procedure β) :
    w.heard (p >>= f).run = w.heard p.run ++ w'.heard (f a).run := by
  have hbind := w.heard_bind p.run (ExceptT.bindCont f)
  rw [show w.runPlan p.run = _ from h] at hbind
  exact hbind

theorem heard_bind_done (w : World) (p : Plan α) {f : α → Plan β} (hf : ∀ a, ∃ b, f a = .done b) :
    w.heard (p >>= f) = w.heard p := by
  obtain ⟨b, hb⟩ := hf (w.runPlan p).1
  rw [heard_bind, hb, heard, List.append_nil]

theorem heard_map (w : World) (p : Procedure α) (f : α → β) :
    w.heard (p >>= fun a => pure (f a) : Procedure β).run = w.heard p.run :=
  w.heard_bind_done p.run fun | .ok a => ⟨.ok (f a), rfl⟩ | .error e => ⟨.error e, rfl⟩

end World

/-! ## Declarations in their turn -/

theorem heard_declared (w : World) (call : Plan (Except Broker.Error Unit)) (context : String) :
    w.heard (declared call context).run = w.heard call := by
  have hlift : w.heard (liftM call : Procedure _).run = w.heard call :=
    w.heard_bind_done call fun a => ⟨.ok a, rfl⟩
  refine (w.heard_bind_done _ fun answer => ?_).trans hlift
  rcases answer with e | ⟨e | a⟩
  · exact ⟨_, rfl⟩
  · cases e <;> exact ⟨_, rfl⟩
  · exact ⟨_, rfl⟩

/-- A declaration is one call. -/
theorem Declaration.heard_declare (w : World) (d : Declaration) :
    w.heard d.declare.run = [⟨.broker d.call, (w.broker.respond d.call).1⟩] := by
  cases d with
  | vhost name | queue a | exchange a => exact (w.heard_map _ _).trans (heard_declared w _ _)

theorem calls_declarations (w : World) (ds : List Declaration) :
    (w.heard (ds.mapM Declaration.declare).run).map (·.1) = ds.map fun d => .broker d.call := by
  induction ds generalizing w with
  | nil => rfl
  | cons d ds ih =>
    rw [List.mapM_cons, World.heard_bind_of_ok (d.exec_declare w), World.heard_map,
      List.map_append, ih, d.heard_declare]
    rfl

/-- A resource is reported as created if it was missing when its turn came. -/
theorem report_eq_mapIdx (w : World) (ds : List Declaration) :
    report w.broker ds = ds.mapIdx fun i d =>
      d.entry (!d.isIn (w.before i (ds.mapM Declaration.declare).run).broker) := by
  induction ds generalizing w with
  | nil => rfl
  | cons d ds ih =>
    have hnext (i : Nat) : w.before (i + 1) ((d :: ds).mapM Declaration.declare).run =
        (w.withBroker (w.broker.respond d.call).2).before i (ds.mapM Declaration.declare).run := by
      have hturn := World.before_bind_of_ok (d.exec_declare w)
        (fun entry => ds.mapM Declaration.declare >>= fun entries => pure (entry :: entries)) i
      rw [d.heard_declare, World.before_map] at hturn
      rw [List.mapM_cons, Nat.add_comm]
      exact hturn
    have hrest := ih (w.withBroker (w.broker.respond d.call).2)
    simp only [World.withBroker_broker] at hrest
    simp only [report, List.mapIdx_cons, World.before_zero, hnext, hrest]

/-! ## Failures on the way -/

namespace Rehearsal

/-- A failure that is injected leaves the world as it is. -/
theorem world_answerBroker (r : Rehearsal) (c : Call) :
    (r.answerBroker c).2.world = r.world ∨
      (r.answerBroker c).2.world = (World.handle (.broker c) r.world).2 := by
  unfold answerBroker
  split
  · exact .inl rfl
  · exact .inr rfl

theorem world_answerRegistry (r : Rehearsal) (c : Registry.Call) :
    (r.answerRegistry c).2.world = r.world ∨
      (r.answerRegistry c).2.world = (World.handle (.registry c) r.world).2 := by
  unfold answerRegistry
  split
  · exact .inl rfl
  · exact .inr rfl

theorem world_handle (e : Effect) (r : Rehearsal) :
    (handle e r).2.world = r.world ∨ (handle e r).2.world = (World.handle e r.world).2 := by
  cases e with
  | broker c =>
    have hworld := r.world_answerBroker c
    unfold handle
    dsimp only
    generalize r.answerBroker c = a at hworld ⊢
    rcases a with ⟨_ | _, r'⟩ <;> exact hworld
  | registry c =>
    have hworld := r.world_answerRegistry c
    unfold handle
    dsimp only
    generalize r.answerRegistry c = a at hworld ⊢
    rcases a with ⟨_ | _, r'⟩ <;> exact hworld
  | drawPassword | readClock | count event => exact .inr rfl

variable {P : Broker → Prop}

theorem perform_preserves {c : Call} (h : ∀ b, P b → P (b.respond c).2) (r : Rehearsal)
    (hr : P r.world.broker) :
    P ((Plan.perform (.broker c)).interpret handle r).2.world.broker := by
  change P (handle (.broker c) r).2.world.broker
  rcases world_handle (.broker c) r with hworld | hworld
  · exact hworld ▸ hr
  · exact hworld ▸ h r.world.broker hr

/-- What the calls of a plan preserve of the broker is preserved whatever failures are injected. -/
theorem closed_preserves : Plan.Closed fun _ p =>
    ∀ r : Rehearsal, P r.world.broker → P (p.interpret handle r).2.world.broker where
  done _ _ hr := hr
  andThen {_ _ p f} hp hf r hr := by
    rw [Plan.interpret_bind]
    exact hf _ _ (hp r hr)
  passive {e} h r hr := by
    change P (handle e r).2.world.broker
    rcases world_handle e r with hworld | hworld
    · exact hworld ▸ hr
    · rw [hworld, (World.handle_of_isPassive h r.world).1]
      exact hr

end Rehearsal

namespace World

/-- The world after an operation in which broker calls were made to fail. -/
def afterRehearsal (w : World) (s : Settings) (op : Operation)
    (injections : List (Injection Broker.Error)) : World :=
  (({ world := w, brokerInjections := injections } : Rehearsal).run s op).2.world

/-- The world after an operation was tried again and again, with failures of its own each time. -/
def afterRehearsals (w : World) (s : Settings) (op : Operation)
    (attempts : List (List (Injection Broker.Error))) : World :=
  attempts.foldl (fun w injections => w.afterRehearsal s op injections) w

end World

theorem Declaration.declare_closed {C : (α : Type) → Plan α → Prop} (d : Declaration)
    (hC : Plan.Closed C) (h : C _ (Plan.perform (.broker d.call))) : C _ d.declare.run := by
  cases d with
  | vhost name | queue a | exchange a =>
    exact hC.bind (declared_closed hC h _) fun _ => hC.pure _

/-! ## What is left behind -/

/-- Some of what is to be declared was declared, and nothing else was done. -/
def Underway (ds : List Declaration) (b b' : Broker) : Prop := ∃ es ⊆ ds, Supplied es b b'

namespace Underway

variable {ds : List Declaration} {b b' b'' : Broker}

theorem refl (ds : List Declaration) (b : Broker) : Underway ds b b :=
  ⟨[], List.nil_subset _, .nil b⟩

theorem declare (h : Underway ds b b') {d : Declaration} (hd : d ∈ ds) :
    Underway ds b (b'.respond d.call).2 := by
  obtain ⟨es, hes, hsupplied⟩ := h
  refine ⟨es ++ [d], fun e he => ?_, hsupplied.trans (d.supplied b')⟩
  rcases List.mem_append.1 he with he | he
  · exact hes he
  · exact List.mem_singleton.1 he ▸ hd

/-- What was declared before makes no difference in the end. -/
theorem supplied (h : Underway ds b b') (h' : Supplied ds b' b'') : Supplied ds b b'' := by
  obtain ⟨es, hes, hsupplied⟩ := h
  refine (hsupplied.trans h').congr fun d => ?_
  rw [List.mem_append]
  exact ⟨fun hd => hd.elim (fun hd => hes hd) id, .inr⟩

variable {w : World} {s : Settings}

theorem rehearsal (h : Underway s.declarations b w.broker)
    (injections : List (Injection Broker.Error)) :
    Underway s.declarations b (w.afterRehearsal s .bootstrap injections).broker := by
  have hC := Rehearsal.closed_preserves (P := Underway s.declarations b)
  have hrun := hC.mapM fun (d : Declaration) (hd : d ∈ s.declarations) =>
    d.declare_closed hC (Rehearsal.perform_preserves fun _ hb => hb.declare hd)
  rw [← bootstrap_eq] at hrun
  exact hrun ⟨w, injections, [], []⟩ h

theorem rehearsals (h : Underway s.declarations b w.broker)
    (attempts : List (List (Injection Broker.Error))) :
    Underway s.declarations b (w.afterRehearsals s .bootstrap attempts).broker := by
  induction attempts generalizing w with
  | nil => exact h
  | cons injections attempts ih => exact ih (h.rehearsal injections)

end Underway

/-! ## Convergence -/

/-- The bootstrap makes one call for each resource, reports it as created exactly if it was missing
then, and adds what was missing and nothing else. Done once more it changes nothing. Whatever calls
of earlier attempts failed, the first attempt in which none does leads to the same broker. -/
theorem bootstrap_converges (w : World) (s : Settings)
    (attempts : List (List (Injection Broker.Error))) :
    (w.heard (bootstrap s).run).map (·.1) = s.declarations.map (fun d => .broker d.call) ∧
    ∃ b, Supplied s.declarations w.broker b ∧ (∀ d ∈ s.declarations, d.isIn b = true) ∧
      w.run s .bootstrap = (.ok (s.declarations.mapIdx fun i d =>
        d.entry (!d.isIn (w.before i (bootstrap s).run).broker)), w.withBroker b) ∧
      (w.withBroker b).run s .bootstrap =
        (.ok (s.declarations.map fun d => d.entry false), w.withBroker b) ∧
      ((w.afterRehearsals s .bootstrap attempts).run s .bootstrap).2.broker = b := by
  have hfirst := exec_bootstrap w s
  have hsupplied := supplied_afterDeclaring s.declarations w.broker
  generalize afterDeclaring w.broker s.declarations = b at hfirst hsupplied
  have hall : ∀ d ∈ s.declarations, d.isIn b = true := fun d hd => hsupplied.isIn hd
  refine ⟨?_, b, hsupplied, hall, ?_, ?_, ?_⟩
  · rw [bootstrap_eq]
    exact calls_declarations w s.declarations
  · rw [report_eq_mapIdx, ← bootstrap_eq] at hfirst
    exact hfirst
  · obtain ⟨hreport, hafter⟩ := report_of_isIn hall
    have hsecond := exec_bootstrap (w.withBroker b) s
    rw [World.withBroker_broker, hreport, hafter] at hsecond
    exact hsecond
  · generalize hw' : w.afterRehearsals s .bootstrap attempts = w'
    have hleft : Underway s.declarations w.broker w'.broker :=
      hw' ▸ (Underway.refl _ _).rehearsals attempts
    have hlast := exec_bootstrap w' s
    have hrest := supplied_afterDeclaring s.declarations w'.broker
    generalize afterDeclaring w'.broker s.declarations = b' at hlast hrest
    obtain rfl : b' = b := (hleft.supplied hrest).unique hsupplied
    exact congrArg (fun x => x.2.broker) hlast

/-- The third call that makes a queue fails, after two virtual hosts and two queues. -/
example :
    let w := World.new (fun _ => "secret") ⟨⟨2024, 1, 1, by decide⟩, 0, 0, 0, by decide⟩
    let injections := [⟨"create_queue", .transport, 2, 1⟩]
    let r := ({ world := w, brokerInjections := injections } : Rehearsal).run {} .bootstrap
    r.1 = .error (.remote "Queue creation failed" .transport) ∧ r.2.log.length = 5 := by
  decide +kernel

end BrokerControl.Control
