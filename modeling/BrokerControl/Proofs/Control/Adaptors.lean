import BrokerControl.Control.Operation
import BrokerControl.Proofs.Access.Grant
import BrokerControl.Proofs.Control.Users

/-! # Registering an adaptor

Registering makes an exchange, edits a grant and binds the exchange to the system queues. When a
step fails the exchange is deleted, which takes back the exchange and its bindings but not the
edit of the grant. -/

namespace BrokerControl.Control

open Access (AdaptorId)
open Access.AdaptorId (text_of_ofString?)
open Broker (Address Binding)

variable {w : World} {s : Settings}

/-- The bindings of an exchange to queues with keys. -/
def bindingsFrom (a : Address) (pairs : List (String × String)) : List Binding :=
  pairs.map fun (queue, key) => ⟨a.vhost, a.name, queue, key⟩

theorem source_of_mem_bindingsFrom {a : Address} {pairs : List (String × String)} {x : Binding}
    (h : x ∈ bindingsFrom a pairs) : x.source = a := by
  obtain ⟨⟨queue, key⟩, -, rfl⟩ := List.mem_map.1 h
  rfl

/-! ## Binding to the system queues -/

/-- Binding ends with all the bindings or with none, the exchange being gone in that case. -/
theorem bindFanOut_ends {name : String} {a : Address} (pairs : List (String × String))
    (hpresent : w.broker.exchanges.contains a = true)
    (hworks : w.broker.faults.deleteExchange = false) :
    w.Ends (bindFanOut ((Saga.begin name).onFailure (.exchange a.vhost a.name)) a.vhost a.name
        pairs)
      (fun _ w' => w'.broker.topology = w.broker.topology.withBindings (bindingsFrom a pairs) ∧
        w'.broker.grants = w.broker.grants)
      fun f w' => w'.broker.topology = w.broker.topology.withoutExchange a ∧
        w'.broker.grants = w.broker.grants ∧ f.IsUnbound := by
  induction pairs generalizing w with
  | nil => exact .pure ⟨rfl, rfl⟩
  | cons pair pairs ih =>
    obtain ⟨queue, key⟩ := pair
    refine .bind (.guarded (.require (fun _ b hb => ?_) fun e hb => ?_))
    · obtain ⟨-, rfl⟩ := Broker.of_bindQueue_ok hb
      have hrest := ih (w := w.withBroker (w.broker.withBinding ⟨a.vhost, a.name, queue, key⟩))
        hpresent hworks
      refine hrest.mono ?_ ?_
      · intro _ w' hend
        obtain ⟨ht, hg⟩ := hend
        exact ⟨by rw [ht]; rfl, hg⟩
      · intro f w' hend
        obtain ⟨ht, hg, hf⟩ := hend
        refine ⟨?_, hg, hf⟩
        rw [ht, World.withBroker_broker, Broker.topology_withBinding,
          Broker.Topology.withoutExchange_withBindings]
        simp [Binding.source]
    · rw [World.broker_abort_exchange name hpresent hworks]
      exact ⟨rfl, rfl, rfl⟩

/-! ## Steps under the saga -/

/-- What a failed registration leaves behind: nothing, or the edit of the owner's grant when it was
a binding that failed. -/
structure Undone (b b' : Broker) (owner : Address) (adaptorId : String) (f : Failure) : Prop where
  topology : b'.topology = b.topology
  kept : ¬f.IsUnbound → ∀ a, b'.grantAt a = b.grantAt a
  edited : f.IsUnbound → b.Edited b' owner .addWrite adaptorId

theorem Undone.of_alike {b₀ b b' : Broker} {owner : Address} {adaptorId : String} {f : Failure}
    (h : Undone b b' owner adaptorId f) (hlike : b₀.Alike b) :
    Undone b₀ b' owner adaptorId f := by
  refine ⟨h.topology.trans hlike.topology, fun hn a => ?_, fun hu a => ?_⟩
  · exact (h.kept hn a).trans (hlike.access a)
  · rw [← hlike.access a]
    exact h.edited hu a

theorem Undone.of_same {b b' : Broker} {owner : Address} {adaptorId : String} {f : Failure}
    (h : b.Alike b') (hf : ¬f.IsUnbound) : Undone b b' owner adaptorId f :=
  ⟨h.topology, fun _ => h.access, fun hu => absurd hu hf⟩

/-- Once its exchange is there, an adaptor is set up entirely or the exchange is gone again. -/
private theorem setUp_ends {α : Type} {name owner : String} {a : Address} (x : α)
    (pairs : List (String × String)) (hpresent : w.broker.exchanges.contains a = true)
    (hworks : w.broker.faults.deleteExchange = false) :
    let saga := (Saga.begin name).onFailure (Creation.exchange a.vhost a.name)
    w.Ends
      (do
        saga.guarded (updatePermissions a.vhost owner .addWrite a.name)
        bindFanOut saga a.vhost a.name pairs
        saga.complete (m := Plan)
        return x)
      (fun _ w' => w'.broker.topology = w.broker.topology.withBindings (bindingsFrom a pairs))
      fun f w' => Undone (w.broker.withoutExchange a) w'.broker ⟨a.vhost, owner⟩ a.name f := by
  intro saga
  refine .bind (.guarded ((updatePermissions_ends ..).mono ?_ ?_))
  · intro _ w₁ h₁
    have hpresent₁ : w₁.broker.exchanges.contains a = true := by rw [h₁]; exact hpresent
    have hworks₁ : w₁.broker.faults.deleteExchange = false := by rw [h₁]; exact hworks
    refine .bind ((bindFanOut_ends pairs hpresent₁ hworks₁).mono ?_ ?_)
    · intro _ w₂ hend
      refine .bind (.complete (.pure ?_))
      rw [World.withEvent_broker, hend.1, h₁]
      rfl
    · intro f w₂ hend
      obtain ⟨ht, hg, hf⟩ := hend
      refine ⟨by rw [ht, h₁]; rfl, fun hn => absurd hf hn, fun _ a' => ?_⟩
      rw [Broker.grantAt, hg, h₁]
      refine (w.broker.grantAt_insert _ a' _).trans ?_
      split
      · next ha => rw [← ha]; rfl
      · rfl
  · intro f w₁ hend
    obtain ⟨h₁, hf⟩ := hend
    rw [World.broker_abort_exchange name (by rw [h₁]; exact hpresent) (by rw [h₁]; exact hworks),
      h₁]
    exact .of_same (.refl _) hf

/-- An exchange that was not there before is taken back without a trace. -/
private theorem undone_of_withoutExchange {b b' : Broker} (hwell : b.WellFormed) {a owner : Address}
    {f : Failure} (hnew : b.exchanges.contains a = false)
    (h : Undone (Broker.withoutExchange { b with
      exchanges := b.exchanges.insert a (.topic a.vhost a.name) } a) b' owner a.name f) :
    Undone b b' owner a.name f := by
  refine h.of_alike ⟨?_, fun _ => rfl⟩
  exact b.topology.withoutExchange_withExchange hnew (hwell.source_ne hnew)

/-! ## Registration -/

theorem ends_readAdaptorId {text : String} {ok : AdaptorId → World → Prop}
    {failed : Failure → World → Prop} (hok : ∀ id, AdaptorId.ofString? text = .ok id → ok id w)
    (hfailed : ∀ message, failed (.validation message) w) :
    w.Ends (readAdaptorId text) ok failed := by
  unfold readAdaptorId
  cases h : AdaptorId.ofString? text with
  | ok id => exact .pure (hok id h)
  | error m => exact .throw (hfailed m.message)

/-- Both ways a registration can end. The failure tells whether the owner's grant was edited. -/
theorem registerAdaptor_ends (hwell : w.broker.WellFormed)
    (hworks : w.broker.faults.deleteExchange = false) (r : RegisterAdaptor) :
    w.Ends (registerAdaptor s r)
      (fun _ w' => ∃ id : AdaptorId, AdaptorId.ofString? r.adaptorId = .ok id ∧
        let a : Address := ⟨s.vhostOr r.vhost, id.text⟩
        w.broker.exchanges.contains a = false ∧
          w'.broker.topology =
            (w.broker.topology.withExchange a).withBindings (bindingsFrom a (fanOut s id)))
      fun f w' => Undone w.broker w'.broker ⟨s.vhostOr r.vhost, r.owner⟩ r.adaptorId f ∧
        (f.IsUnbound → ∃ id : AdaptorId, AdaptorId.ofString? r.adaptorId = .ok id) := by
  unfold registerAdaptor
  have huntouched (message : String) : Undone w.broker w.broker
        ⟨s.vhostOr r.vhost, r.owner⟩ r.adaptorId (.validation message) ∧
      ((Failure.validation message).IsUnbound → ∃ id, AdaptorId.ofString? r.adaptorId = .ok id) :=
    ⟨.of_same (.refl _) not_false, False.elim⟩
  refine .bind (ends_readAdaptorId (fun id hid => ?_) huntouched)
  refine .bind (.demand (fun _ => ?_) fun _ => huntouched _)
  rw [← text_of_ofString? hid]
  have huser := ensureUser_ends hwell r.owner (s.vhostOr r.vhost)
  refine .bind ((huser.and_wellFormed hwell).and_faults.mono ?_ ?_)
  · intro credentials w₁ hend
    obtain ⟨⟨hlike, hwell₁⟩, hfaults⟩ := hend
    refine .bind (.broker fun a b hb => ?_)
    rw [Broker.respond_createExchange] at hb
    split at hb
    · cases hb
      exact .throw ⟨.of_same hlike not_false, False.elim⟩
    · next hnew =>
      cases hb
      simp only [Bool.not_eq_true] at hnew
      have hnew₀ : w.broker.exchanges.contains ⟨s.vhostOr r.vhost, id.text⟩ = false := by
        change w.broker.topology.exchanges.contains _ = false
        rw [← hlike.topology]
        exact hnew
      refine (setUp_ends (a := ⟨s.vhostOr r.vhost, id.text⟩) _ (fanOut s id) ?_ ?_).mono ?_ ?_
      · simp [Directory.contains_insert]
      · rw [World.withBroker_broker, hfaults, hworks]
      · intro _ w₂ ht
        refine ⟨id, id.ofString?_text, hnew₀, ?_⟩
        rw [ht, ← hlike.topology]
        rfl
      · intro f w₂ hundone
        have hback := undone_of_withoutExchange (a := ⟨s.vhostOr r.vhost, id.text⟩) hwell₁ hnew
          hundone
        exact ⟨hback.of_alike hlike, fun _ => ⟨id, id.ofString?_text⟩⟩
  · intro f w₁ hend
    obtain ⟨⟨⟨hlike, hf⟩, -⟩, -⟩ := hend
    exact ⟨.of_same hlike hf, fun hu => absurd hu hf⟩

/-- Where the exchange exists already, a registration fails and the topology stays. -/
theorem registerAdaptor_of_exists (hwell : w.broker.WellFormed) {r : RegisterAdaptor}
    (h : w.broker.exchanges.contains ⟨s.vhostOr r.vhost, r.adaptorId⟩ = true) :
    w.Ends (registerAdaptor s r) (fun _ _ => False)
      fun _ w' => w'.broker.topology = w.broker.topology := by
  unfold registerAdaptor
  refine .bind (ends_readAdaptorId (fun id hid => ?_) fun _ => rfl)
  refine .bind (.demand (fun _ => ?_) fun _ => rfl)
  refine .bind ((ensureUser_ends hwell r.owner (s.vhostOr r.vhost)).mono ?_ ?_)
  · intro credentials w₁ hlike
    have hexists : w₁.broker.exchanges.contains ⟨s.vhostOr r.vhost, id.text⟩ = true := by
      change w₁.broker.topology.exchanges.contains _ = true
      rw [hlike.topology, text_of_ofString? hid]
      exact h
    refine .bind (.broker fun a b hb => ?_)
    rw [Broker.respond_createExchange, if_pos hexists] at hb
    cases hb
    exact .throw hlike.topology
  · intro f w₁ hend
    exact hend.1.topology

/-! ## Deletion -/

/-- Deleting an adaptor takes its exchange out and nothing else. -/
theorem deleteAdaptor_ends (r : DeleteAdaptor) :
    w.Ends (deleteAdaptor s r)
      (fun _ w' => w'.broker.topology =
        w.broker.topology.withoutExchange ⟨s.vhostOr r.vhost, r.adaptorId⟩)
      fun _ w' => w'.broker.topology = w.broker.topology := by
  unfold deleteAdaptor
  refine .bind (ends_readAdaptorId (fun id hid => ?_) fun _ => rfl)
  refine .bind (.demand (fun _ => ?_) fun _ => rfl)
  refine .bind (.require (fun _ b hb => ?_) fun _ _ => rfl)
  obtain rfl : w.broker = b := by
    rw [Broker.respond_getExchange] at hb
    split at hb
    · cases hb
      rfl
    · cases hb
  refine .bind (.require (fun _ b hb => ?_) fun _ _ => rfl)
  obtain rfl := Broker.of_deleteExchange_ok hb
  rw [← text_of_ofString? hid]
  exact attempt_updatePermissions_ends ..

/-! ## The topology after a registration -/

/-- New bindings of an exchange that had none are all that it has, without repetitions. -/
private theorem routes_of_bindings {b : Broker} {a : Address} {xs : List Binding}
    {pairs : List (String × String)} (hb : b.bindings = addAll xs (bindingsFrom a pairs))
    (hfree : ∀ x ∈ xs, x.source ≠ a) : b.routes a = pairs.eraseDups := by
  have hmap : (bindingsFrom a pairs).map (fun x => (x.queue, x.routingKey)) = pairs := by
    simp [bindingsFrom, Function.comp_def]
  rw [Broker.routes, hb, map_filter_addAll]
  · rw [Broker.filter_eq_eq_nil hfree, hmap, List.map_nil, addAll_nil_eq]
    congr!
  · intro y hy
    simp [source_of_mem_bindingsFrom hy]
  · -- the exchange, the queue and the key are all there is to a binding
    intro x _ y hy hx hxy
    have hsource : x.source = y.source :=
      (of_decide_eq_true hx).trans (source_of_mem_bindingsFrom hy).symm
    cases x
    cases y
    simp_all [Binding.source]

/-- A registration that fails leaves the topology as it was. One that succeeds makes an exchange
that was not there, binds it as planned and touches nothing else. -/
theorem registerAdaptor_all_or_nothing (hb : w.broker.Reachable)
    (hworks : w.broker.faults.deleteExchange = false) (s : Settings) (r : RegisterAdaptor) :
    match w.run s (.registerAdaptor r) with
    | (.error _, w') => w'.broker.topology = w.broker.topology
    | (.ok _, w') => ∃ id : AdaptorId, AdaptorId.ofString? r.adaptorId = .ok id ∧
        let a : Address := ⟨s.vhostOr r.vhost, id.text⟩
        w.broker.exchanges.contains a = false ∧
          w'.broker.exchanges = w.broker.exchanges.insert a (.topic a.vhost a.name) ∧
          w'.broker.routes a = (fanOut s id).eraseDups ∧
          w'.broker.bindings.filter (fun x => x.source ≠ a) = w.broker.bindings ∧
          w'.broker.queues = w.broker.queues ∧ w'.broker.vhosts = w.broker.vhosts ∧
          w'.broker.published = w.broker.published := by
  have hends := registerAdaptor_ends (s := s) hb.wellFormed hworks r
  rw [World.run_eq_exec]
  split
  · next f w' hrun => exact (hends.of_error hrun).1.topology
  · next x w' hrun =>
    obtain ⟨id, hid, hnew, ht⟩ := hends.of_ok hrun
    have hfree := hb.wellFormed.source_ne hnew
    have hbindings : w'.broker.bindings = addAll w.broker.bindings
        (bindingsFrom ⟨s.vhostOr r.vhost, id.text⟩ (fanOut s id)) :=
      congrArg Broker.Topology.bindings ht
    refine ⟨id, hid, hnew, congrArg Broker.Topology.exchanges ht,
      routes_of_bindings hbindings hfree, ?_, congrArg Broker.Topology.queues ht,
      congrArg Broker.Topology.vhosts ht, congrArg Broker.Topology.published ht⟩
    rw [hbindings, filter_addAll_of_not fun x hx => by simp [source_of_mem_bindingsFrom hx]]
    exact Broker.filter_ne_eq_self hfree

/-- After the bootstrap a registration succeeds, with six bindings. -/
theorem registerAdaptor_all_or_nothing_bootstrapped :
    let w := ((World.new (fun _ => "secret") ⟨⟨2024, 1, 1, by decide⟩, 0, 0, 0, by decide⟩).run {}
      .bootstrap).2
    let r : RegisterAdaptor := ⟨"org/group/server/item", "alice", none⟩
    w.broker.Reachable ∧ w.broker.faults.deleteExchange = false ∧
      (w.run {} (.registerAdaptor r)).2.broker.routes ⟨"IUDX", "org/group/server/item"⟩ =
        [("database", "org/group/server/item/.*"), ("redis-latest", "org/group/server/item/.*"),
          ("adaptorLogs", "org/group/server/item.heartbeat"),
          ("adaptorLogs", "org/group/server/item.dataIssue"),
          ("adaptorLogs", "org/group/server/item.downstreamIssue"),
          ("subscriptions-monitoring", "org/group/server/item/.*")] := by
  intro w r
  have hb : w.broker.Reachable := World.reachable_run .new {} .bootstrap
  have hworks : w.broker.faults.deleteExchange = false := by decide +kernel
  have hok : (w.run {} (.registerAdaptor r)).1.isOk = true := by decide +kernel
  clear_value w
  refine ⟨hb, hworks, ?_⟩
  have h := registerAdaptor_all_or_nothing hb hworks {} r
  revert h hok
  rcases w.run {} (.registerAdaptor r) with ⟨f | x, w'⟩
  · intro hok
    cases hok
  · rintro - ⟨id, hid, -, -, hroutes, -⟩
    obtain rfl : id = ⟨"org/group/server/item", by decide⟩ :=
      AdaptorId.ext_text (text_of_ofString? hid)
    exact hroutes

/-! ## Access after a registration that failed -/

/-- How often a user's right to write lists an adaptor. -/
def writes (b : Broker) (a : Address) (adaptorId : String) : Nat :=
  (b.grantAt a).write.entries.count adaptorId

private theorem lt_writes_of_edited {b b' : Broker} {a : Address} {id : AdaptorId}
    (h : b.Edited b' a .addWrite id.text) : writes b a id.text < writes b' a id.text := by
  rw [writes, writes, h a, if_pos rfl]
  exact (b.grantAt a).write.count_lt_count_add id

/-- The owner keeps the right to write to an exchange that was deleted again exactly when it was
a binding that failed. -/
theorem registerAdaptor_failed_access (hb : w.broker.Reachable)
    (hworks : w.broker.faults.deleteExchange = false) {r : RegisterAdaptor} {f : Failure}
    {w' : World} (hrun : w.run s (.registerAdaptor r) = (.error f, w')) :
    ((∀ a, writes w'.broker a r.adaptorId = writes w.broker a r.adaptorId) ↔ ¬f.IsUnbound) ∧
      (f.IsUnbound →
        w.broker.Edited w'.broker ⟨s.vhostOr r.vhost, r.owner⟩ .addWrite r.adaptorId) := by
  obtain ⟨hundone, hvalid⟩ := (registerAdaptor_ends hb.wellFormed hworks r).of_error hrun
  refine ⟨⟨fun hcount hf => ?_, fun hf a => ?_⟩, hundone.edited⟩
  · obtain ⟨id, hid⟩ := hvalid hf
    have hedited := hundone.edited hf
    rw [← text_of_ofString? hid] at hedited hcount
    have hlt := lt_writes_of_edited hedited
    rw [hcount] at hlt
    exact Nat.lt_irrefl _ hlt
  · rw [writes, writes, hundone.kept hf]

/-- A new broker has no system queue to bind to: the exchange goes and the right stays. -/
theorem registerAdaptor_keeps_write :
    let w := World.new (fun _ => "secret") ⟨⟨2024, 1, 1, by decide⟩, 0, 0, 0, by decide⟩
    let run := w.run {} (.registerAdaptor ⟨"a/b/c/d", "alice", none⟩)
    w.broker.Reachable ∧ w.broker.faults.deleteExchange = false ∧
      run.1 = .error (.remote "Queue binding failed" (.notFound "queue database")) ∧
      run.2.broker.exchanges.contains ⟨"IUDX", "a/b/c/d"⟩ = false ∧
      writes w.broker ⟨"IUDX", "alice"⟩ "a/b/c/d" = 0 ∧
      writes run.2.broker ⟨"IUDX", "alice"⟩ "a/b/c/d" = 1 := by
  refine ⟨.new, ?_⟩
  decide +kernel

/-- With the system queues in place it is the last of the bindings that fails. -/
theorem registerAdaptor_failed_access_last :
    let w := ((World.new (fun _ => "secret") ⟨⟨2024, 1, 1, by decide⟩, 0, 0, 0, by decide⟩).run {}
      .bootstrap).2
    let b : Broker := { w.broker with faults := { bindToQueues := ["subscriptions-monitoring"] } }
    let r : RegisterAdaptor := ⟨"a/b/c/d", "alice", none⟩
    ∃ f w', (w.withBroker b).run {} (.registerAdaptor r) = (.error f, w') ∧ f.IsUnbound ∧
      b.Edited w'.broker ⟨"IUDX", "alice"⟩ .addWrite "a/b/c/d" := by
  intro w b r
  have hw : w.broker.Reachable := World.reachable_run .new {} .bootstrap
  have hb : b.Reachable := hw.faults _
  have hrun : ((w.withBroker b).run {} (.registerAdaptor r)).1 =
      .error (.remote "Queue binding failed"
        (Broker.injected "/api/bindings/IUDX/e/a/b/c/d/q/subscriptions-monitoring")) := by
    decide +kernel
  clear_value w
  rcases hpair : (w.withBroker b).run {} (.registerAdaptor r) with ⟨x, w'⟩
  rw [hpair] at hrun
  obtain rfl : x = _ := hrun
  exact ⟨_, w', rfl, rfl, (registerAdaptor_failed_access hb rfl hpair).2 rfl⟩

end BrokerControl.Control
