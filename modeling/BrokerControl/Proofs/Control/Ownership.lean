import BrokerControl.Proofs.Control.Rights
import BrokerControl.Proofs.Control.Runs
import Mathlib.Logic.Function.Basic

/-! # Owners of adaptors

Who may write to the exchange of an adaptor is known twice: from the registrations and deletions
that succeeded, and from the grants, which every edit rewrites as a whole. Both agree on every
adaptor as long as registrations are not undone and deletions name the owner. -/

namespace BrokerControl.Control

open Access (AdaptorId Edit ResourceSet Right isAdaptorId)
open Broker (Address)

variable {w : World} {s : Settings}

/-! ## Edits and listings -/

section Listings

variable {b b' : Broker} {a : Address} {id : String}

theorem writes_of_addWrite (h : b.Edited b' a .addWrite id)
    (hplain : (b.grantAt a).write.IsPlain) (a' : Address) (id' : String) :
    writes b' a' id' = writes b a' id' + if a = a' ∧ id = id' then 1 else 0 := by
  rw [writes, writes, h a']
  by_cases ha : a = a'
  · subst ha
    have hentries : ((b.grantAt a).apply .addWrite id).write.entries =
        (b.grantAt a).write.entries ++ [id] := ResourceSet.entries_add_of_plain hplain id
    rw [if_pos rfl, hentries, List.count_append, List.count_singleton]
    simp
  · rw [if_neg ha, if_neg fun hboth => ha hboth.1, Nat.add_zero]

theorem writes_of_deleteWrite (h : b.Edited b' a .deleteWrite id) (a' : Address) (id' : String) :
    writes b' a' id' = if a = a' ∧ id = id' then 0 else writes b a' id' := by
  rw [writes, writes, h a']
  by_cases ha : a = a'
  · subst ha
    have hentries : ((b.grantAt a).apply .deleteWrite id).write.entries =
        (b.grantAt a).write.entries.filter (· != id) := rfl
    rw [if_pos rfl, hentries]
    by_cases hid : id = id'
    · subst hid
      rw [if_pos ⟨rfl, rfl⟩]
      exact List.count_eq_zero.2 fun hmem => by simp at hmem
    · rw [if_neg fun hboth => hid hboth.2]
      exact List.count_filter (by simp [Ne.symm hid])
  · rw [if_neg ha, if_neg fun hboth => ha hboth.1]

end Listings

/-! ## Owners -/

/-- Who registered the adaptor of an exchange, if it was registered and not deleted since. -/
abbrev Owners := Address → Option String

namespace Owners

def empty : Owners := fun _ => none

/-- Enters an operation that ended with a result. -/
def enter (s : Settings) : (op : Operation) → Except Failure op.Result → Owners → Owners
  | .registerAdaptor r, .ok _, m =>
    Function.update m ⟨s.vhostOr r.vhost, r.adaptorId⟩ (some r.owner)
  | .deleteAdaptor r, .ok _, m => Function.update m ⟨s.vhostOr r.vhost, r.adaptorId⟩ none
  | _, _, m => m

end Owners

/-- A move that leaves the grants to registrations and deletions: grants are not edited directly,
no registration is undone, and a deletion that succeeds names the owner. -/
def Move.RespectsOwners (s : Settings) (x : Recorded Owners) : Move → Prop
  | .perform (.updatePermissions ..) => False
  | .perform (.registerAdaptor r) =>
    .compensated "register_adaptor" ∉ (x.world.run s (.registerAdaptor r)).2.events
  | .perform (.deleteAdaptor r) =>
    (x.world.run s (.deleteAdaptor r)).1.isOk = true →
      x.book ⟨s.vhostOr r.vhost, r.adaptorId⟩ = some r.owner
  | .perform _ => True
  | .setFaults f => f.setPermissions = false ∧ f.deleteExchange = false
  | .rejectWrites _ => True

/-- The grants and the exchanges of a broker agree with a book of owners. -/
structure Owned (b : Broker) (m : Owners) : Prop where
  present : ∀ a u, m a = some u → b.exchanges.contains a = true ∧ isAdaptorId a.name = true
  listed : ∀ v u id, writes b ⟨v, u⟩ id = if m ⟨v, id⟩ = some u then 1 else 0
  configure : ∀ a, (b.grantAt a).configure = ∅

namespace Owned

variable {b b' : Broker} {m : Owners}

theorem isAdaptorId_of_mem (h : Owned b m) {a : Address} {id : String}
    (hid : id ∈ (b.grantAt a).write.entries) : isAdaptorId id = true := by
  have hcount : 0 < writes b a id := List.count_pos_iff.2 hid
  rw [h.listed a.vhost a.name] at hcount
  split at hcount
  · next hm => exact (h.present _ _ hm).2
  · exact absurd hcount (Nat.lt_irrefl 0)

theorem write_isPlain (h : Owned b m) (a : Address) : (b.grantAt a).write.IsPlain := by
  intro id hid
  let x : AdaptorId := ⟨id, h.isAdaptorId_of_mem hid⟩
  exact ⟨x.text_ne_empty, x.withoutWildcard?_text⟩

theorem of_same (h : Owned b m) (hsame : ∀ r, .read ≠ r → b.SameRight r b')
    (hkept : ∀ a, b.exchanges.contains a = true → b'.exchanges.contains a = true) :
    Owned b' m where
  present a u hm := ⟨hkept a (h.present a u hm).1, (h.present a u hm).2⟩
  listed v u id := by
    have hwrite : (b'.grantAt ⟨v, u⟩).write = (b.grantAt ⟨v, u⟩).write := hsame .write nofun _
    rw [writes, hwrite]
    exact h.listed v u id
  configure a := (hsame .configure nofun a).trans (h.configure a)

/-- An exchange that is new has no owner, so nobody has the right to write to it. -/
theorem of_registered (h : Owned b m) {v u id : String} (hid : isAdaptorId id = true)
    (hnew : b.exchanges.contains ⟨v, id⟩ = false)
    (hexchanges : ∀ a, b'.exchanges.contains a = (decide (⟨v, id⟩ = a) || b.exchanges.contains a))
    (hedited : b.Edited b' ⟨v, u⟩ .addWrite id) :
    Owned b' (Function.update m ⟨v, id⟩ (some u)) := by
  have hfree : m ⟨v, id⟩ = none := by
    cases hm : m ⟨v, id⟩ with
    | none => rfl
    | some u' =>
      rw [(h.present _ _ hm).1] at hnew
      cases hnew
  refine ⟨fun a u' hm => ?_, fun v' u' id' => ?_, fun a => ?_⟩
  · rw [hexchanges]
    by_cases ha : a = ⟨v, id⟩
    · subst ha
      simp [hid]
    · rw [Function.update_of_ne ha] at hm
      obtain ⟨hpresent, hvalid⟩ := h.present a u' hm
      simp [hpresent, hvalid]
  · rw [writes_of_addWrite hedited (h.write_isPlain _), h.listed]
    by_cases ha : (⟨v', id'⟩ : Address) = ⟨v, id⟩
    · obtain ⟨rfl, rfl⟩ : v' = v ∧ id' = id := by simpa using ha
      simp [hfree]
    · have hother : ¬((⟨v, u⟩ : Address) = ⟨v', u'⟩ ∧ id = id') := by
        rintro ⟨hv, rfl⟩
        cases hv
        exact ha rfl
      rw [Function.update_of_ne ha, if_neg hother, Nat.add_zero]
  · exact (hedited.sameRight (Edit.right_ne_configure _) a).trans (h.configure a)

/-- The owner of an exchange is the only one who could write to it. -/
theorem of_deleted (h : Owned b m) {v u id : String} (howner : m ⟨v, id⟩ = some u)
    (hexchanges : ∀ a, b'.exchanges.contains a = (decide (⟨v, id⟩ ≠ a) && b.exchanges.contains a))
    (hedited : b.Edited b' ⟨v, u⟩ .deleteWrite id) : Owned b' (Function.update m ⟨v, id⟩ none) := by
  refine ⟨fun a u' hm => ?_, fun v' u' id' => ?_, fun a => ?_⟩
  · rw [hexchanges]
    by_cases ha : a = ⟨v, id⟩
    · subst ha
      simp at hm
    · rw [Function.update_of_ne ha] at hm
      obtain ⟨hpresent, hvalid⟩ := h.present a u' hm
      simp [hpresent, hvalid, Ne.symm ha]
  · rw [writes_of_deleteWrite hedited, h.listed]
    by_cases ha : (⟨v', id'⟩ : Address) = ⟨v, id⟩
    · obtain ⟨rfl, rfl⟩ : v' = v ∧ id' = id := by simpa using ha
      by_cases hu : u = u' <;> simp [howner, hu]
    · have hother : ¬((⟨v, u⟩ : Address) = ⟨v', u'⟩ ∧ id = id') := by
        rintro ⟨hv, rfl⟩
        cases hv
        exact ha rfl
      rw [Function.update_of_ne ha, if_neg hother]
  · exact (hedited.sameRight (Edit.right_ne_configure _) a).trans (h.configure a)

end Owned

/-! ## Whole runs -/

/-- What holds between moves that respect the owners. -/
structure Recorded.Owned (x : Recorded Owners) : Prop where
  wellFormed : x.world.broker.WellFormed
  setsPermissions : x.world.broker.faults.setPermissions = false
  deletesExchanges : x.world.broker.faults.deleteExchange = false
  owned : Control.Owned x.world.broker x.book

private theorem registerAdaptor_owned {x : Recorded Owners} (h : x.Owned) {r : RegisterAdaptor}
    (hmv : (Move.perform (.registerAdaptor r)).RespectsOwners s x) :
    Owned (x.world.run s (.registerAdaptor r)).2.broker
      (Owners.enter s (.registerAdaptor r) (x.world.run s (.registerAdaptor r)).1 x.book) := by
  have hends := (registerAdaptor_ends (s := s) h.wellFormed h.deletesExchanges r).and
    (registerAdaptor_access h.wellFormed r)
  rcases hrun : x.world.run s (.registerAdaptor r) with ⟨f | y, w'⟩
  · obtain ⟨⟨hundone, -⟩, hsame | hundone'⟩ := hends.of_error hrun
    · have hexchanges : w'.broker.exchanges = x.world.broker.exchanges :=
        congrArg Broker.Topology.exchanges hundone.topology
      exact h.owned.of_same (fun r _ => hsame.sameRight r) fun a ha => by rw [hexchanges, ha]
    · rw [Move.RespectsOwners, hrun] at hmv
      exact absurd hundone' hmv
  · obtain ⟨⟨id, hid, hnew, ht⟩, hedited⟩ := hends.of_ok hrun
    have htext := Access.AdaptorId.text_of_ofString? hid
    have hexchanges : w'.broker.exchanges = x.world.broker.exchanges.insert
        ⟨s.vhostOr r.vhost, id.text⟩ _ := congrArg Broker.Topology.exchanges ht
    rw [htext] at hexchanges hnew
    refine h.owned.of_registered (htext ▸ id.valid) hnew (fun a => ?_) hedited
    rw [hexchanges, Directory.contains_insert]

private theorem deleteAdaptor_owned {x : Recorded Owners} (h : x.Owned) {r : DeleteAdaptor}
    (hmv : (Move.perform (.deleteAdaptor r)).RespectsOwners s x) :
    Owned (x.world.run s (.deleteAdaptor r)).2.broker
      (Owners.enter s (.deleteAdaptor r) (x.world.run s (.deleteAdaptor r)).1 x.book) := by
  have hends := (deleteAdaptor_ends (s := s) r).and
    (deleteAdaptor_access h.wellFormed h.setsPermissions r)
  rcases hrun : x.world.run s (.deleteAdaptor r) with ⟨f | y, w'⟩
  · obtain ⟨ht, hsame⟩ := hends.of_error hrun
    have hexchanges : w'.broker.exchanges = x.world.broker.exchanges :=
      congrArg Broker.Topology.exchanges ht
    exact h.owned.of_same (fun r _ => hsame.sameRight r) fun a ha => by rw [hexchanges, ha]
  · obtain ⟨ht, hedited⟩ := hends.of_ok hrun
    rw [Move.RespectsOwners, hrun] at hmv
    have hexchanges : w'.broker.exchanges = x.world.broker.exchanges.erase
        ⟨s.vhostOr r.vhost, r.adaptorId⟩ := congrArg Broker.Topology.exchanges ht
    refine h.owned.of_deleted (hmv rfl) (fun a => ?_) hedited
    rw [hexchanges, Directory.contains_erase]

theorem Recorded.Owned.move {x : Recorded Owners} (h : x.Owned) {mv : Move}
    (hmv : mv.RespectsOwners s x) : (x.move (Owners.enter s) s mv).Owned := by
  cases mv with
  | perform op =>
    have hfaults := World.faults_run x.world s op
    refine ⟨World.wellFormed_run h.wellFormed s op, ?_, ?_, ?_⟩
    · exact (congrArg Broker.Faults.setPermissions hfaults).trans h.setsPermissions
    · exact (congrArg Broker.Faults.deleteExchange hfaults).trans h.deletesExchanges
    · have hkeeps := (x.world.keeps_run s op).broker.exchanges
      cases op with
      | registerAdaptor r => exact registerAdaptor_owned h hmv
      | deleteAdaptor r => exact deleteAdaptor_owned h hmv
      | updatePermissions v u e id => exact hmv.elim
      | _ =>
        exact h.owned.of_same (fun _ => sameRight_run h.wellFormed
          (fun _ => False.elim) (by simp)) fun a ha => hkeeps a not_false ha
  | setFaults f =>
    exact ⟨h.wellFormed.withFaults f, hmv.1, hmv.2,
      h.owned.of_same (fun _ _ _ => rfl) fun _ ha => ha⟩
  | rejectWrites reject => exact ⟨h.wellFormed, h.setsPermissions, h.deletesExchanges, h.owned⟩

/-- After any run from an empty broker and registry whose moves respect the owners, someone's right
to write lists an adaptor once if it was they who registered it and its exchange is there, and
otherwise not at all. No right to configure is ever given, and each right to write is one that adding
to takes nothing away from and that its pattern is read as. -/
theorem writes_after (passwords : Nat → String) (now : Timestamp) {moves : List Move}
    (hmoves : Throughout (Recorded.move (Owners.enter s) s) (fun x mv => mv.RespectsOwners s x)
      ⟨World.new passwords now, Owners.empty⟩ moves) :
    let w := (World.new passwords now).after s moves
    let owners := (Recorded.after (Owners.enter s) s ⟨World.new passwords now, .empty⟩ moves).book
    (∀ u v id, writes w.broker ⟨v, u⟩ id =
        if owners ⟨v, id⟩ = some u ∧ w.broker.exchanges.contains ⟨v, id⟩ = true then 1 else 0) ∧
      ∀ a, (w.broker.grantAt a).configure = ∅ ∧
        (w.broker.grantAt a).write.isWildcard = false ∧
        ResourceSet.ofPattern (w.broker.grantAt a).write.toPattern =
          (w.broker.grantAt a).write := by
  intro w owners
  have hnew : Recorded.Owned ⟨World.new passwords now, Owners.empty⟩ :=
    ⟨.new, rfl, rfl, nofun, fun _ _ _ => rfl, fun _ => rfl⟩
  have h : Owned w.broker owners := by
    have hworld : (Recorded.after (Owners.enter s) s ⟨World.new passwords now, Owners.empty⟩
        moves).world = w := Recorded.world_after _ _ _ _
    rw [← hworld]
    exact (hmoves.foldl (fun _ _ h hmv => h.move hmv) hnew).owned
  clear_value w owners
  refine ⟨fun u v id => ?_, fun a => ⟨h.configure a, ?_, ?_⟩⟩
  · rw [h.listed]
    by_cases hm : owners ⟨v, id⟩ = some u
    · rw [if_pos hm, if_pos ⟨hm, (h.present _ _ hm).1⟩]
    · rw [if_neg hm, if_neg fun hboth => hm hboth.1]
  · exact ResourceSet.isWildcard_of_plain (h.write_isPlain a)
  · refine ResourceSet.ofPattern_toPattern (fun id hid => ?_) fun hempty => ?_
    · exact AdaptorId.notMem_text ⟨id, h.isAdaptorId_of_mem hid⟩ (by decide)
    · exact (h.write_isPlain a "" (by simp [hempty])).1 rfl

/-- One of two adaptors is deleted again, while messages cannot be published. -/
theorem writes_after_deletion :
    let now : Timestamp := ⟨⟨2024, 1, 1, by decide⟩, 0, 0, 0, by decide⟩
    let moves : List Move := [.perform .bootstrap, .setFaults { publish := true },
      .perform (.registerAdaptor ⟨"org/group/server/item", "alice", none⟩),
      .perform (.registerAdaptor ⟨"org/group/server/other", "alice", none⟩),
      .perform (.deleteAdaptor ⟨"org/group/server/item", "alice", none⟩)]
    let w := (World.new (fun _ => "secret") now).after {} moves
    writes w.broker ⟨"IUDX", "alice"⟩ "org/group/server/item" = 0 ∧
      writes w.broker ⟨"IUDX", "alice"⟩ "org/group/server/other" = 1 := by
  intro now moves
  have hmoves : Throughout (Recorded.move (Owners.enter {}) {})
      (fun x mv => mv.RespectsOwners {} x) ⟨World.new (fun _ => "secret") now, Owners.empty⟩
      moves := by
    simp only [moves, Throughout, Move.RespectsOwners, and_true, true_and]
    decide +kernel
  have hlisted := (writes_after (fun _ => "secret") now hmoves).1 "alice" "IUDX"
  refine ⟨(hlisted _).trans (if_neg ?_), (hlisted _).trans (if_pos ?_)⟩ <;> decide +kernel

end BrokerControl.Control
