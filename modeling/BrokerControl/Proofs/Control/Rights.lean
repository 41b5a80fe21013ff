import BrokerControl.Proofs.Control.Adaptors
import BrokerControl.Proofs.Control.Frame
import BrokerControl.Proofs.Control.Streaming

/-! # What workflows do to rights

A workflow edits one grant at most, and only when it succeeds. The exception is the registration of
an adaptor, which is undone without taking back its edit; that it was undone is counted. -/

namespace BrokerControl

open Access (Edit Grant Right)
open Broker (Address)

/-! ## Grants of brokers -/

namespace Broker

/-- Everyone may do the same. -/
def SameAccess (b b' : Broker) : Prop := ∀ a, b'.grantAt a = b.grantAt a

/-- Everyone has the same of one right. -/
def SameRight (b : Broker) (r : Right) (b' : Broker) : Prop :=
  ∀ a, (b'.grantAt a).right r = (b.grantAt a).right r

variable {b b' b'' : Broker} {a : Address} {edit : Edit} {resource : String}

theorem SameAccess.refl (b : Broker) : b.SameAccess b := fun _ => rfl

theorem SameAccess.of_grants (h : b'.grants = b.grants) : b.SameAccess b' :=
  fun a => by rw [grantAt, grantAt, h]

theorem SameAccess.trans (h : b.SameAccess b') (h' : b'.SameAccess b'') : b.SameAccess b'' :=
  fun a => (h' a).trans (h a)

theorem SameAccess.edited (h : b.SameAccess b') (h' : b'.Edited b'' a edit resource) :
    b.Edited b'' a edit resource := fun a' => by rw [← h a', h' a']

theorem Edited.sameAccess (h : b.Edited b' a edit resource) (h' : b'.SameAccess b'') :
    b.Edited b'' a edit resource := fun a' => (h' a').trans (h a')

theorem SameAccess.sameRight (h : b.SameAccess b') (r : Right) : b.SameRight r b' :=
  fun a => by rw [h a]

theorem Edited.sameRight (h : b.Edited b' a edit resource) {r : Right} (hr : edit.right ≠ r) :
    b.SameRight r b' := by
  intro a'
  rw [h a']
  split
  · exact Grant.right_apply_of_ne _ hr resource
  · rfl

/-- Writing back an edited grant edits it. -/
theorem edited_insert (b : Broker) (a : Address) (edit : Edit) (resource : String) :
    b.Edited { b with grants := b.grants.insert a ((b.grantAt a).apply edit resource) } a edit
      resource := by
  intro a'
  rw [grantAt_insert]
  split
  · next ha => rw [ha]
  · rfl

end Broker

namespace Control

variable {w : World} {s : Settings}

/-! ## Steps -/

theorem ends_sameAccess {α : Type} {p : Procedure α} (hp : p.Alters fun _ => False) :
    w.Ends p (fun _ w' => w.broker.SameAccess w'.broker)
      fun _ w' => w.broker.SameAccess w'.broker := by
  refine .of_exec (P := fun w' => w.broker.SameAccess w'.broker) fun a => ?_
  rw [Broker.grantAt, Broker.grantAt, (World.keeps_exec hp w).broker.grants a id]

/-- Undoing leaves all grants as they are. -/
theorem abort_access (w : World) (name : String) (k : Creation) {f : Failure} :
    w.broker.SameAccess
      (w.runPlan (((Saga.begin name).onFailure k).abort f : Plan _)).2.broker := by
  rw [World.broker_abort]
  cases k with
  | exchange vhost name =>
    change w.broker.SameAccess (w.broker.respond (.deleteExchange vhost name)).2
    rw [Broker.respond_deleteExchange]
    split <;> [skip; split] <;> exact .of_grants rfl
  | queue vhost name =>
    change w.broker.SameAccess (w.broker.respond (.deleteQueue vhost name)).2
    rw [Broker.respond_deleteQueue]
    split <;> [skip; split] <;> exact .of_grants rfl
  | callback id => exact .refl _

/-- Undoing is counted. -/
theorem compensated_mem_abort (w : World) (name : String) (k : Creation) {f : Failure} :
    .compensated name ∈
      (w.runPlan (((Saga.begin name).onFailure k).abort f : Plan _)).2.events := by
  rw [Saga.abort, World.runPlan_bind, World.runPlan_bind]
  exact List.mem_append_right _ (List.mem_singleton_self _)

/-! ## Streaming subscriptions -/

theorem provisionStream_access (id consumer : String) (keys : List String) :
    w.Ends (provisionStream s id consumer keys)
      (fun _ w' => w.broker.Edited w'.broker ⟨s.dataVhost, consumer⟩ .addRead id)
      fun _ w' => w.broker.SameAccess w'.broker := by
  unfold provisionStream
  refine .bind (.broker fun _ b hb => ?_)
  rw [Broker.respond_createQueue] at hb
  split at hb
  · cases hb
    exact .throw (.refl _)
  · cases hb
    refine .bind (.guarded ((ends_sameAccess (bindKeys_alters _ _ keys)).mono ?_ ?_))
    · intro _ w₁ h₁
      refine .bind (.guarded ((updatePermissions_ends ..).mono ?_ ?_))
      · intro _ w₂ h₂
        refine .complete ?_
        rw [World.withEvent_broker, h₂]
        exact Broker.SameAccess.edited h₁ (Broker.edited_insert _ _ _ _)
      · intro _ w₂ hend
        obtain ⟨h₂, -⟩ := hend
        rw [← h₂] at h₁
        exact Broker.SameAccess.trans h₁ (abort_access _ _ _)
    · intro _ w₁ h₁
      exact Broker.SameAccess.trans h₁ (abort_access _ _ _)

private theorem subscribe_access (hwell : w.broker.WellFormed) (id consumer : String)
    (keys : List String) :
    w.Ends
      (do
        let credentials ← ensureUser consumer s.internalVhost
        provisionStream s id consumer keys
        return streamingAccess s id credentials)
      (fun x w' => x.subscriptionId = id ∧
        w.broker.Edited w'.broker ⟨s.dataVhost, consumer⟩ .addRead id)
      fun _ w' => w.broker.SameAccess w'.broker := by
  refine .bind ((ensureUser_ends hwell consumer s.internalVhost).mono ?_ ?_)
  · intro credentials w₁ hlike
    refine .bind ((provisionStream_access id consumer keys).mono ?_ ?_)
    · intro _ w₂ h₂
      exact .pure ⟨rfl, Broker.SameAccess.edited hlike.access h₂⟩
    · intro _ w₂ h₂
      exact Broker.SameAccess.trans hlike.access h₂
  · intro _ w₁ hend
    exact hend.1.access

theorem registerStreaming_access (hwell : w.broker.WellFormed) (r : StreamingRequest) :
    w.Ends (registerStreaming s r)
      (fun x w' => subscriptionId r.consumer r.name = .ok x.subscriptionId ∧
        w.broker.Edited w'.broker ⟨s.dataVhost, r.consumer⟩ .addRead x.subscriptionId)
      fun _ w' => w.broker.SameAccess w'.broker := by
  unfold registerStreaming
  refine .bind (.demand (fun _ => ?_) fun _ => .refl _)
  refine .bind (.ofExcept (fun id hid => ?_) fun _ _ => .refl _)
  refine (subscribe_access hwell id r.consumer r.entities).mono (fun x w' hend => ?_)
    fun _ _ h => h
  obtain ⟨rfl, h⟩ := hend
  exact ⟨hid, h⟩

theorem updateStreaming_access (hwell : w.broker.WellFormed) (r : StreamingRequest) :
    w.Ends (updateStreaming s r)
      (fun x w' => subscriptionId r.consumer r.name = .ok x.subscriptionId ∧
        w.broker.Edited w'.broker ⟨s.dataVhost, r.consumer⟩ .addRead x.subscriptionId)
      fun _ w' => w.broker.SameAccess w'.broker := by
  unfold updateStreaming
  refine .bind (.demand (fun _ => ?_) fun _ => .refl _)
  refine .bind (.ofExcept (fun id hid => ?_) fun _ _ => .refl _)
  refine .bind (.broker fun a b hb => ?_)
  have hsame : w.broker.SameAccess b := by
    rw [Broker.respond_deleteQueue] at hb
    split at hb <;> [skip; split at hb] <;> cases hb <;> exact .of_grants rfl
  have hwell' : b.WellFormed := by
    have h := hwell.respond (.deleteQueue s.dataVhost id)
    rwa [hb] at h
  have hrest := subscribe_access (s := s) (w := w.withBroker b) hwell' id r.consumer r.entities
  have hdone (x : StreamingSubscription) (w' : World) (hend : x.subscriptionId = id ∧
      b.Edited w'.broker ⟨s.dataVhost, r.consumer⟩ .addRead id) :
      subscriptionId r.consumer r.name = .ok x.subscriptionId ∧
        w.broker.Edited w'.broker ⟨s.dataVhost, r.consumer⟩ .addRead x.subscriptionId := by
    obtain ⟨rfl, h⟩ := hend
    exact ⟨hid, hsame.edited h⟩
  split
  · exact hrest.mono hdone fun _ _ h => hsame.trans h
  · exact hrest.mono hdone fun _ _ h => hsame.trans h
  · exact .throw hsame

/-- Taking a right back from someone who is no user changes nothing, for there is none. -/
theorem revoke_access (hwell : w.broker.WellFormed)
    (hworks : w.broker.faults.setPermissions = false) {failed : Failure → World → Prop}
    (v u : String) {edit : Edit} (hedit : edit.isGrant = false) (resource : String) :
    w.Ends (Procedure.attempt (updatePermissions v u edit resource))
      (fun _ w' => w.broker.Edited w'.broker ⟨v, u⟩ edit resource) failed := by
  refine .attempt (((updatePermissions_ends ..).and (updatePermissions_fails ..)).mono ?_ ?_)
  · intro _ w₁ hend
    rw [hend.1]
    exact Broker.edited_insert _ _ _ _
  · intro _ w₁ hend
    obtain ⟨⟨h₁, -⟩, hfault | hu⟩ := hend
    · rw [hworks] at hfault
      cases hfault
    · intro a'
      rw [h₁]
      split
      · next ha =>
        rw [← ha, hwell.grantAt_of_not_user (a := ⟨v, u⟩) hu, Grant.apply_denyAll hedit]
      · rfl

theorem deleteStreaming_access (hwell : w.broker.WellFormed)
    (hworks : w.broker.faults.setPermissions = false) (r : DeleteStreaming) :
    w.Ends (deleteStreaming s r)
      (fun _ w' => w.broker.Edited w'.broker ⟨s.dataVhost, r.consumer⟩ .deleteRead
        r.subscriptionId)
      fun _ w' => w.broker.SameAccess w'.broker := by
  unfold deleteStreaming
  refine .bind (.demand (fun _ => ?_) fun _ => .refl _)
  refine .bind (.require (fun _ b hb => ?_) fun _ _ => .refl _)
  obtain rfl := Broker.of_deleteQueue_ok hb
  have hsame : w.broker.SameAccess (w.broker.withoutQueue ⟨s.dataVhost, r.subscriptionId⟩) :=
    .of_grants rfl
  refine (revoke_access (w := w.withBroker _) (hwell.withoutQueue _) hworks _ _ rfl _).mono
    (fun _ _ h => hsame.edited h) fun _ _ h => h

/-! ## Adaptors -/

theorem bindFanOut_access (name : String) (k : Creation) (vhost exchange : String)
    (pairs : List (String × String)) :
    w.Ends (bindFanOut ((Saga.begin name).onFailure k) vhost exchange pairs)
      (fun _ w' => w.broker.SameAccess w'.broker) fun _ w' => .compensated name ∈ w'.events := by
  induction pairs generalizing w with
  | nil => exact .pure (.refl _)
  | cons pair pairs ih =>
    refine .bind (.guarded (.require (fun _ b hb => ?_) fun _ _ => compensated_mem_abort _ _ _))
    obtain ⟨-, rfl⟩ := Broker.of_bindQueue_ok hb
    exact ih

/-- A registration lets its owner write, and does not if it fails, unless it is undone. -/
theorem registerAdaptor_access (hwell : w.broker.WellFormed) (r : RegisterAdaptor) :
    w.Ends (registerAdaptor s r)
      (fun _ w' =>
        w.broker.Edited w'.broker ⟨s.vhostOr r.vhost, r.owner⟩ .addWrite r.adaptorId)
      fun _ w' => w.broker.SameAccess w'.broker ∨ .compensated "register_adaptor" ∈ w'.events := by
  unfold registerAdaptor
  refine .bind (ends_readAdaptorId (fun id hid => ?_) fun _ => .inl (.refl _))
  refine .bind (.demand (fun _ => ?_) fun _ => .inl (.refl _))
  rw [← Access.AdaptorId.text_of_ofString? hid]
  refine .bind ((ensureUser_ends hwell r.owner (s.vhostOr r.vhost)).mono ?_ ?_)
  · intro credentials w₁ hlike
    refine .bind (.broker fun a b hb => ?_)
    rw [Broker.respond_createExchange] at hb
    split at hb
    · cases hb
      exact .throw (.inl hlike.access)
    · cases hb
      refine .bind (.guarded ((updatePermissions_ends ..).mono ?_ fun _ _ _ => ?_))
      · intro _ w₂ h₂
        refine .bind ((bindFanOut_access _ _ _ _ _).mono ?_ fun _ _ h => .inr h)
        intro _ w₃ h₃
        refine .bind (.complete (.pure ?_))
        rw [h₂] at h₃
        exact Broker.SameAccess.edited hlike.access ((Broker.edited_insert _ _ _ _).sameAccess h₃)
      · exact .inr (compensated_mem_abort _ _ _)
  · intro _ w₁ hend
    exact .inl hend.1.access

theorem deleteAdaptor_access (hwell : w.broker.WellFormed)
    (hworks : w.broker.faults.setPermissions = false) (r : DeleteAdaptor) :
    w.Ends (deleteAdaptor s r)
      (fun _ w' =>
        w.broker.Edited w'.broker ⟨s.vhostOr r.vhost, r.owner⟩ .deleteWrite r.adaptorId)
      fun _ w' => w.broker.SameAccess w'.broker := by
  unfold deleteAdaptor
  refine .bind (ends_readAdaptorId (fun id hid => ?_) fun _ => .refl _)
  refine .bind (.demand (fun _ => ?_) fun _ => .refl _)
  refine .bind (.require (fun _ b hb => ?_) fun _ _ => .refl _)
  obtain rfl : w.broker = b := by
    rw [Broker.respond_getExchange] at hb
    split at hb <;> cases hb
    rfl
  refine .bind (.require (fun _ b hb => ?_) fun _ _ => .refl _)
  obtain rfl := Broker.of_deleteExchange_ok hb
  rw [← Access.AdaptorId.text_of_ofString? hid]
  have hsame : w.broker.SameAccess (w.broker.withoutExchange ⟨s.vhostOr r.vhost, id.text⟩) :=
    .of_grants rfl
  exact (revoke_access (w := w.withBroker _) (hwell.withoutExchange _) hworks _ _ rfl _).mono
    (fun _ _ h => hsame.edited h) fun _ _ h => h

/-! ## Rights to write and to configure -/

variable {right : Right}

theorem attempt_updatePermissions_sameRight {failed : Failure → World → Prop} {edit : Edit}
    (hright : edit.right ≠ right) (v u resource : String) :
    w.Ends (Procedure.attempt (updatePermissions v u edit resource))
      (fun _ w' => w.broker.SameRight right w'.broker) failed := by
  refine .attempt ((updatePermissions_edits v u edit resource).mono ?_ ?_)
  · rintro - w' rfl
    exact (Broker.edited_insert _ _ _ _).sameRight hright
  · rintro f w' ⟨rfl, -⟩
    exact fun _ => rfl

theorem deleteStreaming_sameRight (hright : .read ≠ right) (r : DeleteStreaming) :
    w.Ends (deleteStreaming s r) (fun _ w' => w.broker.SameRight right w'.broker)
      fun _ w' => w.broker.SameRight right w'.broker := by
  unfold deleteStreaming
  refine .bind (.demand (fun _ => ?_) fun _ _ => rfl)
  refine .bind (.require (fun _ b hb => ?_) fun _ _ _ => rfl)
  obtain rfl := Broker.of_deleteQueue_ok hb
  have hedit : Edit.deleteRead.right ≠ right := hright
  exact attempt_updatePermissions_sameRight hedit ..

/-- An operation that is neither about adaptors nor a bare edit of a grant changes no right but the
right to read. -/
theorem sameRight_run (hwell : w.broker.WellFormed) {op : Operation}
    (hop : ∀ a, op.Alters s (.exchange a) → False)
    (hedit : ∀ v u e id, op ≠ .updatePermissions v u e id) (hright : .read ≠ right) :
    w.broker.SameRight right (w.run s op).2.broker := by
  have hkept := (w.keeps_run s op).broker.grants
  cases op with
  | registerAdaptor r => exact (hop _ rfl).elim
  | deleteAdaptor r => exact (hop _ rfl).elim
  | updatePermissions v u e id => exact absurd rfl (hedit v u e id)
  | registerStreaming r =>
    refine ((registerStreaming_access hwell r).mono ?_ ?_).of_both
      (P := fun _ w' => w.broker.SameRight right w'.broker)
    · exact fun _ _ ⟨_, h⟩ => h.sameRight hright
    · exact fun _ _ h => Broker.SameAccess.sameRight h right
  | updateStreaming r =>
    refine ((updateStreaming_access hwell r).mono ?_ ?_).of_both
      (P := fun _ w' => w.broker.SameRight right w'.broker)
    · exact fun _ _ ⟨_, h⟩ => h.sameRight hright
    · exact fun _ _ h => Broker.SameAccess.sameRight h right
  | deleteStreaming r =>
    exact (deleteStreaming_sameRight hright r).of_both
      (P := fun _ w' => w.broker.SameRight right w'.broker)
  | ensureUser u v =>
    refine ((ensureUser_ends hwell u v).mono ?_ ?_).of_both
      (P := fun _ w' => w.broker.SameRight right w'.broker)
    · exact fun _ _ h => Broker.SameAccess.sameRight h.access right
    · exact fun _ _ h => Broker.SameAccess.sameRight h.1.access right
  | _ =>
    intro a
    rw [Broker.grantAt, Broker.grantAt, hkept a not_false]

end Control

end BrokerControl
