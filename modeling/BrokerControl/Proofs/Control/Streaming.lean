import BrokerControl.Control.Operation
import BrokerControl.Proofs.Control.Subscription
import BrokerControl.Proofs.Control.Users

/-! # The workflows of streaming subscriptions

What each workflow does to the topology, for both ways it can end. -/

namespace BrokerControl.Control

open Broker (Address Binding Topology)

variable {w : World} {s : Settings}

/-! ## Making a queue -/

/-- What was made under the saga of a queue is taken back with the queue. -/
private theorem topology_abort {t : Topology} {name : String} {a : Address} {keys : List String}
    {f : Failure}
    (hnew : t.queues.contains a = false) (hfree : ∀ x ∈ t.bindings, x.target ≠ a)
    (ht : w.broker.topology = t.withSubscription a keys)
    (hworks : w.broker.faults.deleteQueue = false) :
    (w.runPlan (((Saga.begin name).onFailure (Creation.queue a.vhost a.name)).abort f :
      Plan _)).2.broker.topology = t := by
  have hpresent : w.broker.queues.contains a = true := by
    change w.broker.topology.queues.contains a = true
    rw [ht]
    simp [Topology.withSubscription, Topology.withKeys, Topology.withBindings, Topology.withQueue,
      Directory.contains_insert]
  rw [World.broker_abort_queue name hpresent hworks, Broker.topology_withoutQueue, ht,
    Topology.withSubscription, Topology.withKeys,
    Topology.withoutQueue_withBindings _ fun x hx => (Broker.mem_keyBindings hx).1,
    Topology.withoutQueue_withQueue _ hnew hfree]

/-- A queue is made that was not there and bound to every key, or nothing is. -/
theorem provisionStream_ends (hwell : w.broker.WellFormed)
    (hworks : w.broker.faults.deleteQueue = false) (id consumer : String) (keys : List String) :
    w.Ends (provisionStream s id consumer keys)
      (fun _ w' => w.broker.queues.contains ⟨s.dataVhost, id⟩ = false ∧
        w'.broker.topology = w.broker.topology.withSubscription ⟨s.dataVhost, id⟩ keys)
      fun _ w' => w'.broker.topology = w.broker.topology := by
  unfold provisionStream
  refine .bind (.broker fun _ b hb => ?_)
  rw [Broker.respond_createQueue] at hb
  split at hb
  · cases hb
    exact .throw rfl
  · next hnew =>
    cases hb
    simp only [Bool.not_eq_true] at hnew
    have hfree := hwell.target_ne hnew
    refine .bind (.guarded ((bindKeys_ends ⟨s.dataVhost, id⟩ keys).and_faults.mono ?_ ?_))
    · intro _ w₁ hend
      obtain ⟨ht, hfaults⟩ := hend
      refine .bind (.guarded ((updatePermissions_ends ..).mono ?_ ?_))
      · intro _ w₂ h₂
        refine .complete ⟨hnew, ?_⟩
        rw [World.withEvent_broker, h₂]
        exact ht
      · intro f w₂ hend
        obtain ⟨h₂, -⟩ := hend
        rw [← h₂] at ht hfaults
        exact topology_abort (t := w.broker.topology) (a := ⟨s.dataVhost, id⟩) hnew hfree
          ht (by rw [hfaults]; exact hworks)
    · intro f w₁ hend
      obtain ⟨ht, hfaults⟩ := hend
      exact topology_abort (t := w.broker.topology) (a := ⟨s.dataVhost, id⟩) hnew hfree
        ht (by rw [hfaults]; exact hworks)

/-! ## Registering and updating -/

private theorem subscribe_ends (hwell : w.broker.WellFormed)
    (hworks : w.broker.faults.deleteQueue = false) (id consumer : String) (keys : List String) :
    w.Ends
      (do
        let credentials ← ensureUser consumer s.internalVhost
        provisionStream s id consumer keys
        return streamingAccess s id credentials)
      (fun _ w' => w.broker.queues.contains ⟨s.dataVhost, id⟩ = false ∧
        w'.broker.topology = w.broker.topology.withSubscription ⟨s.dataVhost, id⟩ keys)
      fun _ w' => w'.broker.topology = w.broker.topology := by
  have huser := ensureUser_ends hwell consumer s.internalVhost
  refine .bind ((huser.and_wellFormed hwell).and_faults.mono ?_ ?_)
  · intro credentials w₁ hend
    obtain ⟨⟨hlike, hwell₁⟩, hfaults⟩ := hend
    refine .bind ((provisionStream_ends hwell₁ (by rw [hfaults, hworks]) id consumer keys).mono
      ?_ ?_)
    · intro _ w₂ hend
      obtain ⟨hnew, ht⟩ := hend
      rw [hlike.topology] at ht
      refine .pure ⟨?_, ht⟩
      change w.broker.topology.queues.contains _ = false
      rw [← hlike.topology]
      exact hnew
    · intro _ w₂ ht
      rw [ht, hlike.topology]
  · intro _ w₁ hend
    obtain ⟨⟨⟨hlike, -⟩, -⟩, -⟩ := hend
    exact hlike.topology

theorem registerStreaming_ends (hwell : w.broker.WellFormed)
    (hworks : w.broker.faults.deleteQueue = false) (r : StreamingRequest) :
    w.Ends (registerStreaming s r)
      (fun _ w' => ∃ id, subscriptionId r.consumer r.name = .ok id ∧
        w.broker.queues.contains ⟨s.dataVhost, id⟩ = false ∧
        w'.broker.topology = w.broker.topology.withSubscription ⟨s.dataVhost, id⟩ r.entities)
      fun _ w' => w'.broker.topology = w.broker.topology := by
  unfold registerStreaming
  refine .bind (.demand (fun _ => ?_) fun _ => rfl)
  refine .bind (.ofExcept (fun id hid => ?_) fun _ _ => rfl)
  exact (subscribe_ends hwell hworks id r.consumer r.entities).mono
    (fun _ _ h => ⟨id, hid, h⟩) fun _ _ h => h

/-- An update deletes the old queue before anything else can fail. -/
theorem updateStreaming_ends (hwell : w.broker.WellFormed)
    (hworks : w.broker.faults.deleteQueue = false) {r : StreamingRequest} {id : String}
    (hne : r.entities ≠ []) (hid : subscriptionId r.consumer r.name = .ok id) :
    w.Ends (updateStreaming s r)
      (fun _ w' => w'.broker.topology = (w.broker.topology.withoutQueue
        ⟨s.dataVhost, id⟩).withSubscription ⟨s.dataVhost, id⟩ r.entities)
      fun _ w' => w'.broker.topology = w.broker.topology.withoutQueue ⟨s.dataVhost, id⟩ := by
  unfold updateStreaming
  rw [hid]
  refine .bind (.demand (fun _ => ?_) fun he => absurd (by simpa using he) hne)
  refine .bind (.pure ?_)
  refine .bind (.broker fun _ b hb => ?_)
  rw [Broker.respond_deleteQueue, hworks, if_neg Bool.false_ne_true] at hb
  split at hb
  · cases hb
    exact (subscribe_ends (w := w.withBroker _) (hwell.withoutQueue _) hworks id r.consumer
      r.entities).mono (fun _ _ h => h.2) fun _ _ h => h
  · next hno =>
    cases hb
    simp only [Bool.not_eq_true] at hno
    rw [w.broker.topology.withoutQueue_of_not_contains hno (hwell.target_ne hno)]
    exact (subscribe_ends (w := w.withBroker _) hwell hworks id r.consumer
      r.entities).mono (fun _ _ h => h.2) fun _ _ h => h

theorem updateStreaming_invalid {r : StreamingRequest}
    (h : r.entities = [] ∨ ∀ id, subscriptionId r.consumer r.name ≠ .ok id) :
    w.Ends (updateStreaming s r) (fun _ _ => False) fun _ w' => w' = w := by
  unfold updateStreaming
  refine .bind (.demand (fun hne => ?_) fun _ => rfl)
  refine .bind (.ofExcept (fun id hid => ?_) fun _ _ => rfl)
  rcases h with h | h
  · simp [h] at hne
  · exact absurd hid (h id)

/-! ## Listing and appending -/

theorem listStreaming_ends (id : String) :
    w.Ends (listStreaming s id)
      (fun x w' => w' = w ∧ ∃ keys, w.broker.topology.keysAt ⟨s.dataVhost, id⟩ = some keys ∧
        x = ⟨id, keys⟩)
      fun f w' => w' = w ∧ w.broker.topology.keysAt ⟨s.dataVhost, id⟩ = none ∧
        f = .notFound s!"queue {id} not found" := by
  have hfilter : (w.broker.bindings.filter fun x => x.vhost == s.dataVhost && x.queue == id) =
      w.broker.bindings.filter fun x => x.target = ⟨s.dataVhost, id⟩ := by
    refine List.filter_congr fun x _ => ?_
    by_cases hv : x.vhost = s.dataVhost <;> by_cases hq : x.queue = id <;>
      simp [Binding.target, hv, hq]
  unfold listStreaming
  refine .bind (.require (fun keys b hb => ?_) fun e he => ?_)
  · rw [Broker.respond_listQueueBindings, hfilter] at hb
    split at hb
    · next hpresent =>
      cases hb
      exact .pure ⟨rfl, _, if_pos hpresent, rfl⟩
    · cases hb
  · rw [Broker.respond_listQueueBindings] at he
    split at he
    · cases he
    · next hno =>
      cases he
      exact ⟨rfl, if_neg hno, rfl⟩

/-- Keys that are appended stay bound up to the first that the queue does not take. -/
theorem appendStreaming_ends (r : AppendStreaming) :
    w.Ends (appendStreaming s r)
      (fun _ w' => w'.broker.topology =
        w.broker.topology.withKeys ⟨s.dataVhost, r.subscriptionId⟩ r.entities)
      fun _ w' => w'.broker.topology =
        w.broker.topology.withKeys ⟨s.dataVhost, r.subscriptionId⟩
          (r.entities.takeWhile (w.broker.takes ⟨s.dataVhost, r.subscriptionId⟩)) := by
  unfold appendStreaming
  refine .bind (.broker fun _ b hb => ?_)
  rw [Broker.respond_listQueueBindings] at hb
  split at hb
  · next hpresent =>
    cases hb
    refine .bind (.demand (fun _ => ?_) fun he => ?_)
    · refine .bind ((bindKeys_ends ⟨s.dataVhost, r.subscriptionId⟩ r.entities).mono ?_ ?_)
      · intro _ w₁ ht
        refine (listStreaming_ends r.subscriptionId).mono ?_ ?_
        · intro _ _ hend
          obtain ⟨rfl, -⟩ := hend
          exact ht
        · -- the queue was there before and binding does not delete it
          intro _ _ hend
          obtain ⟨-, hnone, -⟩ := hend
          rw [ht] at hnone
          cases hnone.symm.trans (if_pos hpresent)
      · intro _ w₁ ht
        exact ht
    · rw [show r.entities = [] by simpa using he]
      rfl
  · next hno =>
    cases hb
    have hnone : r.entities.takeWhile (w.broker.takes ⟨s.dataVhost, r.subscriptionId⟩) = [] := by
      cases r.entities with
      | nil => rfl
      | cons key keys =>
        refine List.takeWhile_cons_of_neg ?_
        simp [Broker.takes_of_no_queue (Bool.eq_false_iff.2 hno)]
    rw [hnone]
    exact .throw rfl

/-! ## Deleting -/

theorem deleteStreaming_ends (r : DeleteStreaming) :
    w.Ends (deleteStreaming s r)
      (fun _ w' => w'.broker.topology =
        w.broker.topology.withoutQueue ⟨s.dataVhost, r.subscriptionId⟩)
      fun _ w' => w'.broker.topology = w.broker.topology := by
  unfold deleteStreaming
  refine .bind (.demand (fun _ => ?_) fun _ => rfl)
  refine .bind (.require (fun _ b hb => ?_) fun _ _ => rfl)
  obtain rfl := Broker.of_deleteQueue_ok hb
  exact attempt_updatePermissions_ends ..

end BrokerControl.Control
