import BrokerControl.Proofs.Control.Deletions
import BrokerControl.Proofs.Control.Frame
import BrokerControl.Proofs.Control.Runs
import BrokerControl.Proofs.Control.Streaming
import BrokerControl.Proofs.Control.Topology

/-! # The resources of the system

The bootstrap declares the queues and the exchange that the control plane works with. Requests name
what they delete, and two kinds of them can name one of these. -/

namespace BrokerControl.Control

open Broker (Address)

variable {w : World} {s : Settings} {op : Operation}

/-- The system queues and the notification exchange exist. -/
structure Equipped (s : Settings) (b : Broker) : Prop where
  queues : ∀ name ∈ s.systemQueues, b.queues.contains ⟨s.dataVhost, name⟩ = true
  exchange : b.exchanges.contains ⟨s.internalVhost, s.notificationExchange⟩ = true

instance (s : Settings) (b : Broker) : Decidable (Equipped s b) :=
  decidable_of_iff _ ⟨fun h => ⟨h.1, h.2⟩, fun h => And.intro h.queues h.exchange⟩

/-- The operation is asked to delete a system queue or the notification exchange. -/
def Operation.Dismantles (s : Settings) : Operation → Prop
  | .deleteStreaming r => r.subscriptionId ∈ s.systemQueues
  | .deleteAdaptor r => (⟨s.vhostOr r.vhost, r.adaptorId⟩ : Address) =
      ⟨s.internalVhost, s.notificationExchange⟩ ∧ Text.isBlank r.owner = false
  | _ => False

/-! ## The bootstrap -/

/-- In memory the bootstrap cannot fail. -/
theorem bootstrap_equips (w : World) (s : Settings) :
    w.Ends (bootstrap s) (fun _ w' => Equipped s w'.broker) fun _ _ => False := by
  have hsupplied := supplied_afterDeclaring s.declarations w.broker
  refine .of_exec_ok (exec_bootstrap w s) ?_
  rw [World.withBroker_broker]
  refine ⟨fun name hname => ?_, ?_⟩
  · have hqueue : Declaration.queue ⟨s.dataVhost, name⟩ ∈ s.declarations := by
      simp [Settings.declarations, hname]
    exact (hsupplied.queues _).2 (.inr hqueue)
  · have hexchange : Declaration.exchange ⟨s.internalVhost, s.notificationExchange⟩ ∈
        s.declarations := by simp [Settings.declarations]
    have hmade := hsupplied.isIn hexchange
    exact hmade

/-! ## Operations that leave the system as it is -/

/-- The names of the system are not those of subscriptions. -/
private theorem not_alters_queue (hop : ¬op.Dismantles {}) {name : String}
    (hname : name ∈ Settings.systemQueues {}) :
    ¬op.Alters {} (.queue ⟨Settings.dataVhost {}, name⟩) := by
  have hplain : ∀ q ∈ Settings.systemQueues {}, '/' ∉ q.toList := by decide
  intro h
  cases op with
  | registerStreaming r | updateStreaming r =>
    exact hplain name hname (segmented_of_subscriptionId h.2)
  | deleteStreaming r =>
    obtain rfl : name = r.subscriptionId := congrArg Address.name h
    exact hop hname
  | _ => exact h

/-- An exchange that exists is not made again, so there is nothing to take back. -/
private theorem registerAdaptor_keeps_exchange (hwell : w.broker.WellFormed) (r : RegisterAdaptor)
    {a : Address} (h : w.broker.exchanges.contains a = true) :
    (w.run s (.registerAdaptor r)).2.broker.exchanges.contains a = true := by
  by_cases ha : a = ⟨s.vhostOr r.vhost, r.adaptorId⟩
  · subst ha
    refine World.Ends.of_both (P := fun _ w' => w'.broker.exchanges.contains _ = true)
      ((registerAdaptor_of_exists hwell h).mono (fun _ _ => False.elim) fun _ w' ht => ?_)
    have hexchanges : w'.broker.exchanges = _ := congrArg Broker.Topology.exchanges ht
    exact hexchanges ▸ h
  · exact (w.keeps_run s (.registerAdaptor r)).broker.exchanges a ha h

/-- A request without an owner is turned down. -/
private theorem deleteAdaptor_of_blank {r : DeleteAdaptor} (h : Text.isBlank r.owner = true) :
    w.Ends (deleteAdaptor s r) (fun _ _ => False) fun _ w' => w' = w := by
  refine Deletion.ends_of_not_removes (d := .adaptor r) fun k p hremoves => ?_
  cases hremoves with
  | adaptor hid howner => cases howner.symm.trans h

private theorem run_keeps_exchange (hwell : w.broker.WellFormed) (hop : ¬op.Dismantles s)
    (h : w.broker.exchanges.contains ⟨s.internalVhost, s.notificationExchange⟩ = true) :
    (w.run s op).2.broker.exchanges.contains ⟨s.internalVhost, s.notificationExchange⟩ = true := by
  cases op with
  | registerAdaptor r => exact registerAdaptor_keeps_exchange hwell r h
  | deleteAdaptor r =>
    by_cases howner : Text.isBlank r.owner = false
    · refine (w.keeps_run s (.deleteAdaptor r)).broker.exchanges _ (fun ha => hop ?_) h
      exact ⟨ha.symm, howner⟩
    · refine World.Ends.of_both (P := fun _ w' => w'.broker.exchanges.contains _ = true)
        ((deleteAdaptor_of_blank (by simpa using howner)).mono (fun _ _ => False.elim)
          fun _ w' hw' => ?_)
      rwa [hw']
  | _ => exact (w.keeps_run s _).broker.exchanges _ (fun h => h) h

theorem Equipped.run (h : Equipped {} w.broker) (hwell : w.broker.WellFormed)
    (hop : ¬op.Dismantles {}) : Equipped {} (w.run {} op).2.broker where
  queues _ hname :=
    (w.keeps_run {} op).broker.queues _ (not_alters_queue hop hname) (h.queues _ hname)
  exchange := run_keeps_exchange hwell hop h.exchange

/-! ## Operations that take the system apart -/

theorem Equipped.dismantled (h : Equipped {} w.broker)
    (hqueue : w.broker.faults.deleteQueue = false)
    (hexchange : w.broker.faults.deleteExchange = false) (hop : op.Dismantles {}) :
    ¬Equipped {} (w.run {} op).2.broker := by
  cases op with
  | deleteStreaming r =>
    have hname : Text.isBlank r.subscriptionId = false :=
      (by decide : ∀ q ∈ Settings.systemQueues {}, Text.isBlank q = false) _ hop
    have hends := (Deletion.Removes.streaming hname).succeeds (h.queues _ hop) hqueue
    refine (hends.mono (fun _ w' hlacks h' => ?_) fun _ _ => False.elim).of_both
      (P := fun _ w' => ¬Equipped {} w'.broker)
    cases hlacks.gone.symm.trans (h'.queues _ hop)
  | deleteAdaptor r =>
    obtain ⟨ha, howner⟩ := hop
    have hid : Access.isAdaptorId r.adaptorId := by
      rw [show r.adaptorId = _ from congrArg Address.name ha]
      decide
    have hread := Access.AdaptorId.ofString?_text ⟨r.adaptorId, hid⟩
    have hpresent : w.broker.exchanges.contains ⟨Settings.vhostOr {} r.vhost, r.adaptorId⟩ = true :=
      ha ▸ h.exchange
    have hends := (Deletion.Removes.adaptor (s := {}) hread howner).succeeds hpresent hexchange
    refine (hends.mono (fun _ w' hlacks h' => ?_) fun _ _ => False.elim).of_both
      (P := fun _ w' => ¬Equipped {} w'.broker)
    have hgone := hlacks.gone
    rw [World.has, ha] at hgone
    cases hgone.symm.trans h'.exchange
  | _ => exact hop.elim

/-! ## Runs -/

/-- Once the system is equipped it stays so throughout a run exactly if no operation of the run
takes it apart. -/
theorem equipped_throughout_iff (h : Equipped {} w.broker) (hwell : w.broker.WellFormed)
    (hqueue : w.broker.faults.deleteQueue = false)
    (hexchange : w.broker.faults.deleteExchange = false) (ops : List Operation) :
    (∀ done, done <+: ops → Equipped {} (w.after {} (done.map .perform)).broker) ↔
      ∀ op ∈ ops, ¬op.Dismantles {} := by
  induction ops generalizing w with
  | nil =>
    simp only [List.prefix_nil, forall_eq, List.not_mem_nil, false_imp_iff, implies_true, iff_true]
    exact h
  | cons op ops ih =>
    have hfaults := w.faults_run {} op
    have hsplit :
        (∀ done, done <+: op :: ops → Equipped {} (w.after {} (done.map .perform)).broker) ↔
          ∀ done, done <+: ops →
            Equipped {} ((w.run {} op).2.after {} (done.map .perform)).broker := by
      constructor
      · intro hall done hdone
        exact hall (op :: done) (by simpa using hdone)
      · intro hall done hdone
        rcases List.prefix_cons_iff.1 hdone with rfl | ⟨rest, rfl, hrest⟩
        · exact h
        · exact hall rest hrest
    rw [hsplit, List.forall_mem_cons]
    by_cases hop : op.Dismantles {}
    · -- the first operation that takes the system apart is noticed at once
      refine iff_of_false (fun hall => ?_) fun hno => hno.1 hop
      exact h.dismantled hqueue hexchange hop (hall [] (List.nil_prefix))
    · rw [ih (h.run hwell hop) (World.wellFormed_run hwell {} op) (by rw [hfaults, hqueue])
        (by rw [hfaults, hexchange])]
      exact (and_iff_right hop).symm

/-- The bootstrap succeeds. From then on the system queues and the notification exchange exist in
every state exactly if no queue among them is deleted as a subscription, nor the exchange as an
adaptor. -/
theorem bootstrapped_resources_survive_iff (hb : w.broker.Reachable)
    (hqueue : w.broker.faults.deleteQueue = false)
    (hexchange : w.broker.faults.deleteExchange = false) (ops : List Operation) :
    let run := w.run {} .bootstrap
    run.1.isOk = true ∧
      ((∀ done, done <+: ops → Equipped {} (run.2.after {} (done.map .perform)).broker) ↔
        ∀ op ∈ ops, ¬op.Dismantles {}) := by
  intro run
  have hend : run.1.isOk = true ∧ Equipped {} run.2.broker :=
    World.Ends.of_both (P := fun x w' => x.isOk = true ∧ Equipped {} w'.broker)
      ((bootstrap_equips w {}).mono (fun _ _ h => ⟨rfl, h⟩) fun _ _ => False.elim)
  have hfaults : run.2.broker.faults = w.broker.faults := w.faults_run {} .bootstrap
  refine ⟨hend.1, equipped_throughout_iff hend.2 ?_ ?_ ?_ ops⟩
  · exact World.wellFormed_run hb.wellFormed {} .bootstrap
  · rw [hfaults, hqueue]
  · rw [hfaults, hexchange]

/-- An adaptor and a subscription come and go without harm. -/
theorem bootstrapped_resources_survive_deletions :
    let now : Timestamp := ⟨⟨2024, 1, 1, by decide⟩, 0, 0, 0, by decide⟩
    let w := World.new (fun _ => "secret") now
    let ops : List Operation := [.registerAdaptor ⟨"a/b/c/d", "alice", none⟩,
      .registerStreaming ⟨"user@org", "feed", ["a/b/c/d/e"]⟩,
      .deleteStreaming ⟨"org/a7c5b64320c4f78b8a233c0dcc6d38505b70a53c/feed", "user@org"⟩,
      .deleteAdaptor ⟨"a/b/c/d", "alice", none⟩]
    w.broker.Reachable ∧ w.broker.faults = {} ∧ (∀ op ∈ ops, ¬op.Dismantles {}) ∧
      ∀ done, done <+: ops →
        Equipped {} ((w.run {} .bootstrap).2.after {} (done.map .perform)).broker := by
  intro now w ops
  have hops : ∀ op ∈ ops, ¬op.Dismantles {} := by
    simp [ops, Operation.Dismantles, Settings.systemQueues]
  exact ⟨.new, rfl, hops, (bootstrapped_resources_survive_iff .new rfl rfl ops).2.2 hops⟩

/-- Whoever deletes a subscription can name a queue of the system, and whoever deletes an adaptor
the notification exchange. -/
theorem system_resources_deleted :
    let now : Timestamp := ⟨⟨2024, 1, 1, by decide⟩, 0, 0, 0, by decide⟩
    let w := (World.new (fun _ => "secret") now).after {} [.perform .bootstrap]
    let run := w.run {} (.deleteStreaming ⟨"database", "user@org"⟩)
    let run' := w.run {} (.deleteAdaptor ⟨"callback.notification", "alice", some "IUDX-INTERNAL"⟩)
    w.broker.faults = {} ∧ Equipped {} w.broker ∧ run.1 = .ok () ∧ run'.1 = .ok () ∧
      run.2.broker.queues.contains ⟨"IUDX", "database"⟩ = false ∧
      run'.2.broker.exchanges.contains ⟨"IUDX-INTERNAL", "callback.notification"⟩ = false := by
  decide +kernel

end BrokerControl.Control
