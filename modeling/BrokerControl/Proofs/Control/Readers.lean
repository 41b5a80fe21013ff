import BrokerControl.Proofs.Control.Rights
import BrokerControl.Proofs.Control.StreamingRuns
import Mathlib.Logic.Function.Basic

/-! # Readers of streaming subscriptions

All subscriptions of a consumer are in one right, and adding another takes away what looks like a
wildcard in front. That is an id itself if the domain of the consumer begins like one. So a consumer
can read every subscription that is there, but with such a domain only the last one is certain. -/

namespace BrokerControl.Control

open Access (ResourceSet withoutWildcard?)
open Broker (Address)

variable {w : World} {s : Settings}

/-! ## Subscriptions that are there -/

structure Readers where
  /-- For whom the queue of a subscription was made, if it was not deleted since. -/
  consumer : String → Option String
  /-- The subscription that a consumer was granted last. -/
  latest : String → Option String

namespace Readers

def empty : Readers := ⟨fun _ => none, fun _ => none⟩

def grant (m : Readers) (id consumer : String) : Readers :=
  ⟨Function.update m.consumer id (some consumer), Function.update m.latest consumer (some id)⟩

def withdraw (m : Readers) (id : String) : Readers :=
  { m with consumer := Function.update m.consumer id none }

/-- Enters an operation that ended with a result. An update that fails has deleted the queue, unless
the request was no good. -/
def enter : (op : Operation) → Except Failure op.Result → Readers → Readers
  | .registerStreaming r, .ok x, m => m.grant x.subscriptionId r.consumer
  | .updateStreaming r, .ok x, m => m.grant x.subscriptionId r.consumer
  | .updateStreaming r, .error _, m =>
    if r.entities = [] then m
    else match subscriptionId r.consumer r.name with
      | .ok id => m.withdraw id
      | .error _ => m
  | .deleteStreaming r, .ok _, m => m.withdraw r.subscriptionId
  | _, _, m => m

end Readers

/-- The queues of the subscriptions are there, and their consumers can read them. The last clause is
about what may precede an id in a right. -/
structure Readable (s : Settings) (b : Broker) (m : Readers) : Prop where
  present : ∀ id c, m.consumer id = some c → b.queues.contains ⟨s.dataVhost, id⟩ = true
  listed : ∀ id c, m.consumer id = some c →
    withoutWildcard? (domainOf c) = none ∨ m.latest c = some id →
      (b.grantAt ⟨s.dataVhost, c⟩).read.contains id = true
  plain : ∀ c, withoutWildcard? (domainOf c) = none → (b.grantAt ⟨s.dataVhost, c⟩).read.IsPlain

namespace Readable

variable {b b' : Broker} {m : Readers} {id c : String}

theorem of_same (h : Readable s b m) (hsame : b.SameRight .read b')
    (hkept : ∀ a, b.queues.contains a = true → b'.queues.contains a = true) : Readable s b' m := by
  have hread (a : Address) : (b'.grantAt a).read = (b.grantAt a).read := hsame a
  refine ⟨fun id c hc => hkept _ (h.present id c hc), fun id c hc hsafe => ?_, fun c hc => ?_⟩
  · rw [hread]
    exact h.listed id c hc hsafe
  · rw [hread]
    exact h.plain c hc

theorem of_granted (h : Readable s b m) {name : String} (hid : subscriptionId c name = .ok id)
    (hqueues : ∀ a, b'.queues.contains a =
      (decide (⟨s.dataVhost, id⟩ = a) || b.queues.contains a))
    (hedited : b.Edited b' ⟨s.dataVhost, c⟩ .addRead id) : Readable s b' (m.grant id c) := by
  have hself : (b'.grantAt ⟨s.dataVhost, c⟩).read = (b.grantAt ⟨s.dataVhost, c⟩).read.add id := by
    rw [hedited, if_pos rfl]
    rfl
  have hother {c' : String} (hc' : c' ≠ c) :
      b'.grantAt ⟨s.dataVhost, c'⟩ = b.grantAt ⟨s.dataVhost, c'⟩ := by
    rw [hedited, if_neg (by simpa using Ne.symm hc')]
  refine ⟨fun id' c' hm => ?_, fun id' c' hm hsafe => ?_, fun c' hplain => ?_⟩
  · rw [hqueues]
    by_cases hid' : id' = id
    · simp [hid']
    · simp only [Readers.grant, Function.update_of_ne hid'] at hm
      simp [h.present id' c' hm]
  · by_cases hid' : id' = id
    · subst hid'
      obtain rfl : c = c' := by simpa [Readers.grant] using hm
      rw [hself]
      exact ResourceSet.contains_add_self _ _
    · simp only [Readers.grant, Function.update_of_ne hid'] at hm
      by_cases hc' : c' = c
      · subst hc'
        -- the id was granted before this one, so it is not the latest
        have hplain : withoutWildcard? (domainOf c') = none := by
          simpa [Readers.grant, Ne.symm hid'] using hsafe
        rw [hself]
        exact ResourceSet.contains_add_of_plain (h.plain c' hplain)
          (h.listed id' c' hm (.inl hplain))
      · simp only [Readers.grant, Function.update_of_ne hc'] at hsafe
        rw [hother hc']
        exact h.listed id' c' hm hsafe
  · by_cases hc' : c' = c
    · subst hc'
      rw [hself]
      refine (h.plain c' hplain).add ?_ ((withoutWildcard?_subscriptionId hid).2 hplain)
      rintro rfl
      exact absurd (segmented_of_subscriptionId hid) (by decide)
    · rw [hother hc']
      exact h.plain c' hplain

/-- A queue is deleted, and the right of whoever is named may be taken back. -/
theorem of_withdrawn (h : Readable s b m)
    (hqueues : ∀ a, b'.queues.contains a =
      (decide (⟨s.dataVhost, id⟩ ≠ a) && b.queues.contains a))
    (hread : ∀ c, (b'.grantAt ⟨s.dataVhost, c⟩).read = (b.grantAt ⟨s.dataVhost, c⟩).read ∨
      (b'.grantAt ⟨s.dataVhost, c⟩).read = (b.grantAt ⟨s.dataVhost, c⟩).read.remove id) :
    Readable s b' (m.withdraw id) := by
  have hkept {id' c' : String} (hm : (m.withdraw id).consumer id' = some c') :
      id' ≠ id ∧ m.consumer id' = some c' := by
    by_cases hid' : id' = id
    · simp [Readers.withdraw, hid'] at hm
    · simp only [Readers.withdraw, Function.update_of_ne hid'] at hm
      exact ⟨hid', hm⟩
  refine ⟨fun id' c' hm => ?_, fun id' c' hm hsafe => ?_, fun c' hplain => ?_⟩
  · obtain ⟨hne, hm⟩ := hkept hm
    rw [hqueues]
    simp [h.present id' c' hm, Ne.symm hne]
  · obtain ⟨hne, hm⟩ := hkept hm
    have hlisted := h.listed id' c' hm hsafe
    rcases hread c' with hsame | hremoved
    · rwa [hsame]
    · rw [hremoved]
      exact ResourceSet.contains_remove_of_ne hne hlisted
  · rcases hread c' with hsame | hremoved
    · rw [hsame]
      exact h.plain c' hplain
    · rw [hremoved]
      exact (h.plain c' hplain).remove id

end Readable

/-! ## One operation -/

section Steps

variable {m : Readers} (hwell : w.broker.WellFormed) (hfaults : w.broker.faults = {})
  (h : Readable s w.broker m)

include hwell hfaults

/-- The edit that a registration leaves behind when it is undone is about the right to write. -/
private theorem registerAdaptor_sameRead (r : RegisterAdaptor) :
    w.broker.SameRight .read (w.run s (.registerAdaptor r)).2.broker := by
  have hends := (registerAdaptor_ends (s := s) hwell (by rw [hfaults]) r).and
    (registerAdaptor_access hwell r)
  refine (hends.mono ?_ ?_).of_both (P := fun _ w' => w.broker.SameRight .read w'.broker)
  · exact fun _ _ hend => Broker.Edited.sameRight hend.2 nofun
  · intro f w' hend
    obtain ⟨⟨hundone, -⟩, -⟩ := hend
    by_cases hf : f.IsUnbound
    · exact (hundone.edited hf).sameRight nofun
    · exact Broker.SameAccess.sameRight (hundone.kept hf) _

private theorem deleteAdaptor_sameRead (r : DeleteAdaptor) :
    w.broker.SameRight .read (w.run s (.deleteAdaptor r)).2.broker := by
  refine ((deleteAdaptor_access (s := s) hwell (by rw [hfaults]) r).mono ?_ ?_).of_both
    (P := fun _ w' => w.broker.SameRight .read w'.broker)
  · exact fun _ _ hend => Broker.Edited.sameRight hend nofun
  · exact fun _ _ hend => Broker.SameAccess.sameRight hend _

include h

private theorem registerStreaming_readable (r : StreamingRequest) :
    Readable s (w.run s (.registerStreaming r)).2.broker
      (m.enter (.registerStreaming r) (w.run s (.registerStreaming r)).1) := by
  have hends := (registerStreaming_ends (s := s) hwell (by rw [hfaults]) r).and
    (registerStreaming_access hwell r)
  refine (hends.mono ?_ ?_).of_both
    (P := fun x w' => Readable s w'.broker (m.enter (.registerStreaming r) x))
  · intro x w' hend
    obtain ⟨⟨id, hid, -, ht⟩, hid', hedited⟩ := hend
    obtain rfl : id = x.subscriptionId := Except.ok.inj (hid.symm.trans hid')
    refine h.of_granted hid' (fun a => ?_) hedited
    have hqueues : w'.broker.queues = w.broker.queues.insert ⟨s.dataVhost, x.subscriptionId⟩ () :=
      congrArg Broker.Topology.queues ht
    rw [hqueues, Directory.contains_insert]
  · intro f w' hend
    obtain ⟨ht, hsame⟩ := hend
    have hqueues : w'.broker.queues = w.broker.queues := congrArg Broker.Topology.queues ht
    exact h.of_same (Broker.SameAccess.sameRight hsame _) fun a ha => by rw [hqueues, ha]

private theorem updateStreaming_readable (r : StreamingRequest) :
    Readable s (w.run s (.updateStreaming r)).2.broker
      (m.enter (.updateStreaming r) (w.run s (.updateStreaming r)).1) := by
  by_cases hvalid : r.entities ≠ [] ∧ ∃ id, subscriptionId r.consumer r.name = .ok id
  · obtain ⟨hne, id, hid⟩ := hvalid
    have hends := (updateStreaming_ends (s := s) hwell (by rw [hfaults]) hne hid).and
      (updateStreaming_access hwell r)
    refine (hends.mono ?_ ?_).of_both
      (P := fun x w' => Readable s w'.broker (m.enter (.updateStreaming r) x))
    · intro x w' hend
      obtain ⟨ht, hid', hedited⟩ := hend
      obtain rfl : id = x.subscriptionId := Except.ok.inj (hid.symm.trans hid')
      refine h.of_granted hid (fun a => ?_) hedited
      have hqueues : w'.broker.queues = (w.broker.queues.erase
          ⟨s.dataVhost, x.subscriptionId⟩).insert ⟨s.dataVhost, x.subscriptionId⟩ () :=
        congrArg Broker.Topology.queues ht
      rw [hqueues, Directory.contains_insert, Directory.contains_erase]
      by_cases ha : (⟨s.dataVhost, x.subscriptionId⟩ : Address) = a <;> simp [ha]
    · intro f w' hend
      obtain ⟨ht, hsame⟩ := hend
      have hqueues : w'.broker.queues = w.broker.queues.erase ⟨s.dataVhost, id⟩ :=
        congrArg Broker.Topology.queues ht
      simp only [Readers.enter, if_neg hne, hid]
      refine h.of_withdrawn (fun a => ?_) fun c => .inl (congrArg _ (hsame _))
      rw [hqueues, Directory.contains_erase]
  · refine ((updateStreaming_invalid ?_).mono ?_ ?_).of_both
      (P := fun x w' => Readable s w'.broker (m.enter (.updateStreaming r) x))
    · by_cases hne : r.entities = []
      · exact .inl hne
      · exact .inr fun id hid => hvalid ⟨hne, id, hid⟩
    · exact fun _ _ => False.elim
    · rintro f w' rfl
      simp only [Readers.enter]
      split <;> [skip; split]
      · exact h
      · next hne _ id hid => exact absurd ⟨hne, id, hid⟩ hvalid
      · exact h

private theorem deleteStreaming_readable (r : DeleteStreaming) :
    Readable s (w.run s (.deleteStreaming r)).2.broker
      (m.enter (.deleteStreaming r) (w.run s (.deleteStreaming r)).1) := by
  have hends := (deleteStreaming_ends (s := s) r).and
    (deleteStreaming_access hwell (by rw [hfaults]) r)
  refine (hends.mono ?_ ?_).of_both
    (P := fun x w' => Readable s w'.broker (m.enter (.deleteStreaming r) x))
  · intro _ w' hend
    obtain ⟨ht, hedited⟩ := hend
    have hqueues : w'.broker.queues = w.broker.queues.erase ⟨s.dataVhost, r.subscriptionId⟩ :=
      congrArg Broker.Topology.queues ht
    refine h.of_withdrawn (fun a => ?_) fun c => ?_
    · rw [hqueues, Directory.contains_erase]
    · rw [hedited]
      split
      · exact .inr rfl
      · exact .inl rfl
  · intro f w' hend
    obtain ⟨ht, hsame⟩ := hend
    have hqueues : w'.broker.queues = w.broker.queues := congrArg Broker.Topology.queues ht
    exact h.of_same (Broker.SameAccess.sameRight hsame _) fun a ha => by rw [hqueues, ha]

theorem readable_run {op : Operation} (hop : op.ManagesStreams) :
    Readable s (w.run s op).2.broker (m.enter op (w.run s op).1) := by
  have hkeeps := (w.keeps_run s op).broker
  cases op with
  | registerStreaming r => exact registerStreaming_readable hwell hfaults h r
  | updateStreaming r => exact updateStreaming_readable hwell hfaults h r
  | deleteStreaming r => exact deleteStreaming_readable hwell hfaults h r
  | registerAdaptor r =>
    exact h.of_same (registerAdaptor_sameRead hwell hfaults r) fun a => hkeeps.queues a nofun
  | deleteAdaptor r =>
    exact h.of_same (deleteAdaptor_sameRead hwell hfaults r) fun a => hkeeps.queues a nofun
  | bootstrap | appendStreaming r =>
    refine h.of_same (fun a => ?_) fun a => hkeeps.queues a not_false
    rw [Broker.grantAt, Broker.grantAt, hkeeps.grants a not_false]
  | _ => exact hop.elim

end Steps

/-! ## Whole runs -/

/-- Only what manages streams is asked for, and nothing is made to fail. -/
def Move.ManagesStreams : Move → Prop
  | .perform op => op.ManagesStreams
  | _ => False

/-- What holds between such moves. -/
structure Recorded.Readable (s : Settings) (x : Recorded Readers) : Prop where
  wellFormed : x.world.broker.WellFormed
  faultless : x.world.broker.faults = {}
  readable : Control.Readable s x.world.broker x.book

theorem Recorded.Readable.move {x : Recorded Readers} (h : x.Readable s) {mv : Move}
    (hmv : mv.ManagesStreams) : (x.move Readers.enter s mv).Readable s := by
  cases mv with
  | perform op =>
    refine ⟨World.wellFormed_run h.wellFormed s op, ?_, ?_⟩
    · exact (World.faults_run x.world s op).trans h.faultless
    · exact readable_run h.wellFormed h.faultless h.readable hmv
  | setFaults f => exact hmv.elim
  | rejectWrites reject => exact hmv.elim

/-- After any run from an empty broker that manages streams while nothing is made to fail, the queue
of a subscription that was registered or updated, and not deleted since, is there. Its consumer can
read it, unless the domain of the consumer begins like a wildcard and another subscription came
after. -/
theorem readable_after (passwords : Nat → String) (now : Timestamp) {moves : List Move}
    (hmoves : ∀ mv ∈ moves, mv.ManagesStreams) :
    let w := (World.new passwords now).after s moves
    let m := (Recorded.after Readers.enter s ⟨World.new passwords now, .empty⟩ moves).book
    ∀ id c, m.consumer id = some c →
      w.broker.queues.contains ⟨s.dataVhost, id⟩ = true ∧
        (withoutWildcard? (domainOf c) = none ∨ m.latest c = some id →
          (w.broker.grantAt ⟨s.dataVhost, c⟩).read.contains id = true) := by
  intro w m id c hc
  have hnew : Recorded.Readable s ⟨World.new passwords now, .empty⟩ :=
    ⟨.new, rfl, nofun, nofun, fun _ _ => nofun⟩
  have hallowed : Throughout (Recorded.move Readers.enter s) (fun _ mv => mv.ManagesStreams)
      ⟨World.new passwords now, .empty⟩ moves := .of_forall (fun mv hmv _ => hmoves mv hmv) _
  have hafter : Readable s (Recorded.after Readers.enter s _ moves).world.broker m :=
    (hallowed.foldl (fun _ _ h hmv => h.move hmv) hnew).readable
  rw [Recorded.world_after] at hafter
  exact ⟨hafter.present id c hc, hafter.listed id c hc⟩

/-- A second subscription takes nothing away from a consumer with an ordinary domain. -/
theorem readable_after_second :
    let now : Timestamp := ⟨⟨2024, 1, 1, by decide⟩, 0, 0, 0, by decide⟩
    let id := "org.com/87f1341caf0852005b8353bdf3bc661feb11b513/feed"
    let moves : List Move := [.perform .bootstrap,
      .perform (.registerAdaptor ⟨"org/group/server/item", "alice", none⟩),
      .perform (.registerStreaming ⟨"user@org.com", "feed", ["org/group/server/item/a"]⟩),
      .perform (.registerStreaming ⟨"user@org.com", "alarm", ["org/group/server/item/b"]⟩)]
    let w := (World.new (fun _ => "secret") now).after {} moves
    w.broker.queues.contains ⟨"IUDX", id⟩ = true ∧
      (w.broker.grantAt ⟨"IUDX", "user@org.com"⟩).read.contains id = true := by
  intro now id moves
  have hmoves : ∀ mv ∈ moves, mv.ManagesStreams := by
    simp [moves, Move.ManagesStreams, Operation.ManagesStreams]
  have hconsumer : (Recorded.after Readers.enter {} ⟨World.new (fun _ => "secret") now, .empty⟩
      moves).book.consumer id = some "user@org.com" := by decide +kernel
  have hreads := readable_after (fun _ => "secret") now hmoves id "user@org.com" hconsumer
  exact ⟨hreads.1, hreads.2 (.inl (by decide))⟩

/-- The domain begins like a wildcard: the queue of the first subscription is there after the second,
and its consumer cannot read it. -/
theorem unreadable_after_second :
    let now : Timestamp := ⟨⟨2024, 1, 1, by decide⟩, 0, 0, 0, by decide⟩
    let c := "user@.*.org"
    let id := ".*.org/1ee9037493e69e6b8767976f2efd93ca8ac282f5/a"
    let moves : List Move := [.perform .bootstrap,
      .perform (.registerAdaptor ⟨"a/b/c/d", "alice", none⟩),
      .perform (.registerStreaming ⟨c, "a", ["a/b/c/d/e"]⟩),
      .perform (.registerStreaming ⟨c, "b", ["a/b/c/d/e"]⟩)]
    let x := Recorded.after Readers.enter {} ⟨World.new (fun _ => "secret") now, .empty⟩ moves
    x.book.consumer id = some c ∧ x.world.broker.queues.contains ⟨"IUDX", id⟩ = true ∧
      (x.world.broker.grantAt ⟨"IUDX", c⟩).read.contains id = false := by
  decide +kernel

end BrokerControl.Control
