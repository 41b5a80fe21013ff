import BrokerControl.Proofs.Control.Adaptors
import BrokerControl.Proofs.Control.Runs
import BrokerControl.Proofs.Control.Streaming
import BrokerControl.Proofs.Control.Topology

/-! # Runs of streaming subscriptions

To its callers the control plane keeps one list of keys for each subscription. How an operation
changes such a list can be told from the operation and its result, and that is what listing a
subscription shows after any run, whatever calls were made to fail on the way. -/

namespace BrokerControl.Control

open Broker (Address Topology)

/-! ## Lists of keys -/

/-- The keys of each subscription, in order; none for a subscription that is not there. -/
abbrev Streams := String → Option (List String)

namespace Streams

def empty : Streams := fun _ => none

/-- How an operation that ended with a result changes the keys of one subscription. Only an append
that fails halfway depends on the broker. -/
def changed (s : Settings) (b : Broker) (id : String) :
    (op : Operation) → Except Failure op.Result → Option (List String) → Option (List String)
  | .registerStreaming r, .ok _, old =>
    if subscriptionId r.consumer r.name = .ok id then some r.entities.eraseDups else old
  | .updateStreaming r, .ok _, old =>
    if subscriptionId r.consumer r.name = .ok id then some r.entities.eraseDups else old
  | .updateStreaming r, .error _, old =>
    if r.entities ≠ [] ∧ subscriptionId r.consumer r.name = .ok id then none else old
  | .appendStreaming r, .ok _, old =>
    if r.subscriptionId = id then
      old.map fun keys => keys ++ (r.entities.removeAll keys).eraseDups
    else old
  | .appendStreaming r, .error _, old =>
    if r.subscriptionId = id then
      old.map fun keys =>
        keys ++ ((r.entities.takeWhile (b.takes ⟨s.dataVhost, id⟩)).removeAll keys).eraseDups
    else old
  | .deleteStreaming r, .ok _, old => if r.subscriptionId = id then none else old
  | .deleteAdaptor r, .ok _, old =>
    if s.vhostOr r.vhost = s.dataVhost then
      old.map fun keys => keys.filter fun key => exchangeOf key ≠ r.adaptorId
    else old
  | _, _, old => old

def move (m : Streams) (s : Settings) (w : World) : Move → Streams
  | .perform op => fun id => changed s w.broker id op (w.run s op).1 (m id)
  | .setFaults _ | .rejectWrites _ => m

def after (m : Streams) (s : Settings) : World → List Move → Streams
  | _, [] => m
  | w, mv :: moves => (m.move s w mv).after s (w.move s mv) moves

end Streams

/-! ## One operation -/

/-- What holds between operations. Undoing relies on calls that delete. -/
structure Sound (w : World) : Prop where
  wellFormed : w.broker.WellFormed
  keyed : w.broker.topology.Keyed
  deletesQueues : w.broker.faults.deleteQueue = false
  deletesExchanges : w.broker.faults.deleteExchange = false

/-- A topology is keyed, and its queues have the keys that the operation leaves. -/
def Follows (s : Settings) (w : World) (op : Operation) (r : Except Failure op.Result)
    (t : Topology) : Prop :=
  t.Keyed ∧ ∀ id, Segmented id → t.keysAt ⟨s.dataVhost, id⟩ =
    Streams.changed s w.broker id op r (w.broker.topology.keysAt ⟨s.dataVhost, id⟩)

variable {s : Settings} {w : World}

/-- Both ways the operation can end follow it. -/
def StepFollows (s : Settings) (w : World) (op : Operation) : Prop :=
  w.Ends (op.procedure s) (fun x w' => Follows s w op (.ok x) w'.broker.topology)
    fun f w' => Follows s w op (.error f) w'.broker.topology

private theorem queue_mem_of_mem_fanOut {id : Access.AdaptorId} {queue key : String}
    (h : (queue, key) ∈ fanOut s id) : queue ∈ s.systemQueues := by
  simp only [fanOut, statusSuffixes, List.map_cons, List.map_nil, List.cons_append,
    List.nil_append, List.mem_cons, List.not_mem_nil, Prod.mk.injEq, or_false] at h
  simp only [Settings.systemQueues, List.mem_cons]
  tauto

section Steps

variable (h : Sound w)

include h

/-- Where the topology stays and no list is to change, the operation is followed. -/
private theorem follows_of_unchanged {op : Operation} {r : Except Failure op.Result}
    {t : Topology} (ht : t = w.broker.topology)
    (hkept : ∀ id old, Streams.changed s w.broker id op r old = old) : Follows s w op r t := by
  rw [ht]
  exact ⟨h.keyed, fun id _ => (hkept id _).symm⟩

private theorem registerStreaming_follows (r : StreamingRequest) :
    StepFollows s w (.registerStreaming r) := by
  refine (registerStreaming_ends h.wellFormed h.deletesQueues r).mono ?_ ?_
  · intro _ w' hend
    obtain ⟨id, hid, hnew, ht⟩ := hend
    rw [ht]
    refine ⟨(h.keyed.withQueue _).withKeys _ _, fun id' hsegmented => ?_⟩
    simp only [Streams.changed, hid, Except.ok.injEq]
    split
    · next he =>
      subst he
      exact Topology.keysAt_withSubscription_self hsegmented h.keyed
        (h.wellFormed.target_ne hnew)
    · next hne => exact Topology.keysAt_withSubscription_of_ne (by simp [hne])
  · exact fun _ _ ht => follows_of_unchanged h ht fun _ _ => rfl

private theorem updateStreaming_follows (r : StreamingRequest) :
    StepFollows s w (.updateStreaming r) := by
  by_cases hvalid : r.entities ≠ [] ∧ ∃ id, subscriptionId r.consumer r.name = .ok id
  · obtain ⟨hne, id, hid⟩ := hvalid
    have hkeyed := h.keyed.withoutQueue ⟨s.dataVhost, id⟩
    have hfree : ∀ x ∈ (w.broker.topology.withoutQueue ⟨s.dataVhost, id⟩).bindings,
        x.target ≠ ⟨s.dataVhost, id⟩ := fun x hx => by simpa using (List.mem_filter.1 hx).2
    refine (updateStreaming_ends h.wellFormed h.deletesQueues hne hid).mono ?_ ?_
    · intro _ w' ht
      rw [ht]
      refine ⟨(hkeyed.withQueue _).withKeys _ _, fun id' hsegmented => ?_⟩
      simp only [Streams.changed, hid, Except.ok.injEq]
      split
      · next he =>
        subst he
        exact Topology.keysAt_withSubscription_self hsegmented hkeyed hfree
      · next hne =>
        rw [Topology.keysAt_withSubscription_of_ne (by simp [hne]),
          Topology.keysAt_withoutQueue_of_ne (by simp [hne])]
    · intro f w' ht
      rw [ht]
      refine ⟨hkeyed, fun id' _ => ?_⟩
      simp only [Streams.changed, hid, Except.ok.injEq]
      split
      · next he =>
        obtain ⟨-, rfl⟩ := he
        exact Topology.keysAt_withoutQueue_self
      · next hno =>
        have hother : id ≠ id' := fun he => hno ⟨hne, he⟩
        exact Topology.keysAt_withoutQueue_of_ne (by simp [hother])
  · refine (updateStreaming_invalid ?_).mono ?_ ?_
    · by_cases hne : r.entities = []
      · exact .inl hne
      · exact .inr fun id hid => hvalid ⟨hne, id, hid⟩
    · exact fun _ _ => False.elim
    · intro f w' hend
      refine follows_of_unchanged h (by rw [hend]) fun id' old => ?_
      exact if_neg fun hno => hvalid ⟨hno.1, id', hno.2⟩

private theorem appendStreaming_follows (r : AppendStreaming) :
    StepFollows s w (.appendStreaming r) := by
  -- the keys that come to be bound differ, not what binding them does
  have hkeys : ∀ (keys : List String) (id : String), Segmented id →
      (w.broker.topology.withKeys ⟨s.dataVhost, r.subscriptionId⟩ keys).keysAt ⟨s.dataVhost, id⟩ =
        if r.subscriptionId = id then
          (w.broker.topology.keysAt ⟨s.dataVhost, id⟩).map fun old =>
            old ++ (keys.removeAll old).eraseDups
        else w.broker.topology.keysAt ⟨s.dataVhost, id⟩ := by
    intro keys id hsegmented
    split
    · next he =>
      rw [he, Topology.keysAt_withKeys_self hsegmented h.keyed]
      simp only [addAll_eq_append]
    · next hne => exact Topology.keysAt_withKeys_of_ne (by simp [hne])
  refine (appendStreaming_ends r).mono ?_ ?_
  · intro _ w' ht
    rw [ht]
    exact ⟨h.keyed.withKeys _ _, hkeys _⟩
  · intro _ w' ht
    rw [ht]
    refine ⟨h.keyed.withKeys _ _, fun id hsegmented => (hkeys _ id hsegmented).trans ?_⟩
    simp only [Streams.changed]
    split
    · next he => rw [he]
    · rfl

private theorem deleteStreaming_follows (r : DeleteStreaming) :
    StepFollows s w (.deleteStreaming r) := by
  refine (deleteStreaming_ends r).mono ?_ ?_
  · intro _ w' ht
    rw [ht]
    refine ⟨h.keyed.withoutQueue _, fun id _ => ?_⟩
    simp only [Streams.changed]
    split
    · next he => rw [he, Topology.keysAt_withoutQueue_self]
    · next hne => exact Topology.keysAt_withoutQueue_of_ne (by simp [hne])
  · exact fun _ _ ht => follows_of_unchanged h ht fun _ _ => rfl

private theorem deleteAdaptor_follows (r : DeleteAdaptor) : StepFollows s w (.deleteAdaptor r) := by
  refine (deleteAdaptor_ends r).mono ?_ ?_
  · intro _ w' ht
    rw [ht]
    refine ⟨h.keyed.withoutExchange _, fun id hsegmented => ?_⟩
    rw [Topology.keysAt_withoutExchange hsegmented h.keyed]
    simp only [Streams.changed]
    split <;> simp
  · exact fun _ _ ht => follows_of_unchanged h ht fun _ _ => rfl

variable (hs : ∀ q ∈ s.systemQueues, ¬Segmented q)

include hs

private theorem registerAdaptor_follows (r : RegisterAdaptor) :
    StepFollows s w (.registerAdaptor r) := by
  refine (registerAdaptor_ends h.wellFormed h.deletesExchanges r).mono ?_ ?_
  · intro _ w' hend
    obtain ⟨id, -, -, ht⟩ := hend
    have hplain : ∀ x ∈ bindingsFrom ⟨s.vhostOr r.vhost, id.text⟩ (fanOut s id),
        ¬Segmented x.queue := by
      intro x hx
      obtain ⟨⟨queue, key⟩, hmem, rfl⟩ := List.mem_map.1 hx
      exact hs queue (queue_mem_of_mem_fanOut hmem)
    rw [ht]
    refine ⟨(h.keyed.withExchange _).withBindings fun x hx hsegmented =>
      absurd hsegmented (hplain x hx), fun id' hsegmented => ?_⟩
    refine Topology.keysAt_withBindings_of_ne fun x hx htarget => ?_
    have hqueue : x.queue = id' := congrArg Address.name htarget
    exact hplain x hx (hqueue ▸ hsegmented)
  · exact fun _ _ hend => follows_of_unchanged h hend.1.topology fun _ _ => rfl

private theorem bootstrap_follows : StepFollows s w .bootstrap := by
  have hkept : ∀ w' : World, KeepsQueues s.systemQueues w.broker w'.broker →
      w'.broker.topology.Keyed ∧ ∀ id, Segmented id →
        w'.broker.topology.keysAt ⟨s.dataVhost, id⟩ =
          w.broker.topology.keysAt ⟨s.dataVhost, id⟩ := by
    intro w' hend
    obtain ⟨hbindings, hqueues⟩ := hend
    have hbindings : w'.broker.topology.bindings = w.broker.topology.bindings := hbindings
    refine ⟨fun x hx => h.keyed x (hbindings ▸ hx), fun id hsegmented => ?_⟩
    have hcontains : w'.broker.topology.queues.contains ⟨s.dataVhost, id⟩ =
        w.broker.topology.queues.contains ⟨s.dataVhost, id⟩ :=
      hqueues ⟨s.dataVhost, id⟩ fun hid => hs id hid hsegmented
    rw [Topology.keysAt, Topology.keysAt, hbindings, hcontains]
  exact (bootstrap_ends s).mono (fun _ => hkept) fun _ => hkept

end Steps

/-! ## Whole runs -/

/-- The operations on adaptors and on streaming subscriptions, and the bootstrap. -/
def Operation.ManagesStreams : Operation → Prop
  | .bootstrap | .registerAdaptor _ | .deleteAdaptor _ | .registerStreaming _
  | .updateStreaming _ | .appendStreaming _ | .deleteStreaming _ => True
  | _ => False

/-- Everything may be made to fail but the calls that undoing needs. -/
def Move.Allowed : Move → Prop
  | .perform op => op.ManagesStreams
  | .setFaults f => f.deleteQueue = false ∧ f.deleteExchange = false
  | .rejectWrites _ => True

/-- The queues of a world have the keys that are listed. -/
def Shows (s : Settings) (w : World) (m : Streams) : Prop :=
  ∀ id, Segmented id → w.broker.topology.keysAt ⟨s.dataVhost, id⟩ = m id

variable (hs : ∀ q ∈ s.systemQueues, ¬Segmented q)

include hs

theorem step_follows (h : Sound w) {op : Operation} (hop : op.ManagesStreams) :
    Follows s w op (w.run s op).1 (w.run s op).2.broker.topology := by
  have hstep : StepFollows s w op := by
    cases op with
    | bootstrap => exact bootstrap_follows h hs
    | registerAdaptor r => exact registerAdaptor_follows h hs r
    | deleteAdaptor r => exact deleteAdaptor_follows h r
    | registerStreaming r => exact registerStreaming_follows h r
    | updateStreaming r => exact updateStreaming_follows h r
    | appendStreaming r => exact appendStreaming_follows h r
    | deleteStreaming r => exact deleteStreaming_follows h r
    | _ => exact hop.elim
  exact World.Ends.of_both (P := fun x w' => Follows s w op x w'.broker.topology) hstep

theorem sound_move (h : Sound w) {mv : Move} (hmv : mv.Allowed) : Sound (w.move s mv) := by
  cases mv with
  | perform op =>
    have hfaults := World.faults_run w s op
    refine ⟨?_, (step_follows hs h hmv).1, ?_, ?_⟩
    · exact World.wellFormed_run h.wellFormed s op
    · exact (congrArg Broker.Faults.deleteQueue hfaults).trans h.deletesQueues
    · exact (congrArg Broker.Faults.deleteExchange hfaults).trans h.deletesExchanges
  | setFaults f => exact ⟨h.wellFormed.withFaults f, h.keyed, hmv.1, hmv.2⟩
  | rejectWrites reject =>
    exact ⟨h.wellFormed, h.keyed, h.deletesQueues, h.deletesExchanges⟩

theorem shows_move (h : Sound w) {m : Streams} (hm : Shows s w m) {mv : Move}
    (hmv : mv.Allowed) : Shows s (w.move s mv) (m.move s w mv) := by
  cases mv with
  | perform op =>
    intro id hsegmented
    refine ((step_follows hs h hmv).2 id hsegmented).trans ?_
    rw [hm id hsegmented]
    rfl
  | setFaults f => exact hm
  | rejectWrites reject => exact hm

theorem shows_after (h : Sound w) {m : Streams} (hm : Shows s w m) {moves : List Move}
    (hmoves : ∀ mv ∈ moves, mv.Allowed) :
    Sound (w.after s moves) ∧ Shows s (w.after s moves) (m.after s w moves) := by
  induction moves generalizing w m with
  | nil => exact ⟨h, hm⟩
  | cons mv moves ih =>
    have hmv := hmoves mv (by simp)
    exact ih (sound_move hs h hmv) (shows_move hs h hm hmv) fun mv' h' => hmoves mv' (by simp [h'])

/-- After any run from an empty broker and registry, listing a subscription shows the list that
the operations so far add up to. The list has no repetitions, and only an id without a list can be
registered. -/
theorem listStreaming_after (passwords : Nat → String) (now : Timestamp) {moves : List Move}
    (hmoves : ∀ mv ∈ moves, mv.Allowed) {consumer name id : String}
    (hid : subscriptionId consumer name = .ok id) :
    let w := (World.new passwords now).after s moves
    let m := Streams.empty.after s (World.new passwords now) moves
    (w.run s (.listStreaming id)).1 =
        (match m id with
          | some keys => .ok ⟨id, keys⟩
          | none => .error (.notFound s!"queue {id} not found")) ∧
      (∀ keys, m id = some keys → keys.Nodup) ∧
      ∀ r x, subscriptionId r.consumer r.name = .ok id →
        (w.run s (.registerStreaming r)).1 = .ok x → m id = none := by
  intro w m
  have hsound : Sound (World.new passwords now) :=
    ⟨.new, fun x hx => absurd hx (by simp [World.new, Broker.topology]), rfl, rfl⟩
  have hempty : Shows s (World.new passwords now) Streams.empty := fun _ _ => rfl
  obtain ⟨h, hm⟩ := shows_after hs hsound hempty hmoves
  have hsegmented := segmented_of_subscriptionId hid
  have hkeys : w.broker.topology.keysAt ⟨s.dataVhost, id⟩ = m id := hm id hsegmented
  refine ⟨?_, fun keys hk => ?_, fun r x hr hx => ?_⟩
  · refine ((listStreaming_ends id).mono ?_ ?_).of_both (P := fun x _ => x =
      match m id with
      | some keys => .ok ⟨id, keys⟩
      | none => .error (.notFound s!"queue {id} not found"))
    · intro x _ hend
      obtain ⟨-, keys, hk, rfl⟩ := hend
      rw [← hkeys, hk]
    · intro f _ hend
      obtain ⟨-, hnone, rfl⟩ := hend
      rw [← hkeys, hnone]
  · exact Topology.nodup_of_keysAt hsegmented h.keyed h.wellFormed.nodup (hkeys.trans hk)
  · rcases hrun : w.run s (.registerStreaming r) with ⟨y, w'⟩
    rw [hrun] at hx
    obtain rfl : y = .ok x := hx
    obtain ⟨id', hid', hnew, -⟩ :=
      (registerStreaming_ends h.wellFormed h.deletesQueues r).of_ok hrun
    obtain rfl : id' = id := by
      rw [hr] at hid'
      exact (Except.ok.inj hid').symm
    rw [← hkeys]
    exact if_neg (Bool.eq_false_iff.1 hnew)

omit hs in
/-- A repeated key is bound once, and an append stops at a key that is malformed. -/
theorem listStreaming_after_append :
    let now : Timestamp := ⟨⟨2024, 1, 1, by decide⟩, 0, 0, 0, by decide⟩
    let id := "org.com/87f1341caf0852005b8353bdf3bc661feb11b513/feed"
    let moves : List Move := [.perform .bootstrap,
      .perform (.registerAdaptor ⟨"org/group/server/item", "alice", none⟩),
      .perform (.registerStreaming ⟨"user@org.com", "feed",
        ["org/group/server/item/a", "org/group/server/item/a"]⟩),
      .rejectWrites true,
      .perform (.appendStreaming ⟨id,
        ["org/group/server/item/b", "item", "org/group/server/item/c"]⟩)]
    (((World.new (fun _ => "secret") now).after {} moves).run {} (.listStreaming id)).1 =
      .ok ⟨id, ["org/group/server/item/a", "org/group/server/item/b"]⟩ := by
  intro now id moves
  have hplain : ∀ q ∈ ({} : Settings).systemQueues, ¬Segmented q := by decide
  have hmoves : ∀ mv ∈ moves, mv.Allowed := by
    simp [moves, Move.Allowed, Operation.ManagesStreams]
  have hid : subscriptionId "user@org.com" "feed" = .ok id := by decide +kernel
  have hkeys : Streams.empty.after {} (World.new (fun _ => "secret") now) moves id =
      some ["org/group/server/item/a", "org/group/server/item/b"] := by decide +kernel
  have hlist := (listStreaming_after hplain (fun _ => "secret") now hmoves hid).1
  rw [hkeys] at hlist
  exact hlist

end BrokerControl.Control
