import BrokerControl.Proofs.Control.Adaptors
import BrokerControl.Proofs.Control.Callbacks
import BrokerControl.Proofs.Control.Creations

/-! # Deleting

To delete is to check the request, to take one thing out and to do something more, which may fail
without the request failing. Until the thing is taken out nothing changes; once it is, the request
has succeeded. -/

namespace BrokerControl.Control

open Access (AdaptorId)
open Broker (Binding)

variable {w : World} {s : Settings}

/-! ## What is deleted -/

/-- The binding starts from the exchange or leads to the queue. -/
def Creation.Touches : Creation → Binding → Prop
  | .exchange vhost name, x => x.source = ⟨vhost, name⟩
  | .queue vhost name, x => x.target = ⟨vhost, name⟩
  | .callback _, _ => False

namespace World

/-- Neither the thing is there nor a binding of it. -/
structure Lacks (w : World) (k : Creation) : Prop where
  gone : w.has k = false
  unbound : ∀ x ∈ w.broker.bindings, ¬k.Touches x

/-- Takes an exchange or a queue out with its bindings, or a row. -/
def without (w : World) : Creation → World
  | .exchange vhost name => w.withBroker (w.broker.withoutExchange ⟨vhost, name⟩)
  | .queue vhost name => w.withBroker (w.broker.withoutQueue ⟨vhost, name⟩)
  | .callback id =>
    w.withRegistry { w.registry with callbacks := w.registry.callbacks.erase id }

theorem lacks_without (w : World) (k : Creation) : (w.without k).Lacks k := by
  refine ⟨?_, fun x hx => ?_⟩
  · cases k <;>
      simp [without, has, Broker.withoutExchange, Broker.withoutQueue, withBroker, withRegistry,
        Directory.contains_erase]
  · cases k with
    | exchange vhost name =>
      have hne : x.source ≠ ⟨vhost, name⟩ := of_decide_eq_true (List.mem_filter.1 hx).2
      exact hne
    | queue vhost name =>
      have hne : x.target ≠ ⟨vhost, name⟩ := of_decide_eq_true (List.mem_filter.1 hx).2
      exact hne
    | callback id => exact not_false

theorem canRemove_without {k : Creation} : (w.without k).CanRemove k ↔ w.CanRemove k := by
  cases k <;> rfl

theorem canRemove_runPlan {α : Type} {k : Creation} (h : w.CanRemove k) (p : Plan α) :
    (w.runPlan p).2.CanRemove k :=
  runPlan_of_handle (P := fun w => w.CanRemove k) (fun _ _ hw => canRemove_handle.2 hw) p h

end World

/-! ## Taking out -/

/-- The procedure takes out what is there and goes on with what may fail, or it fails and changes
nothing. Unless taking out is made to fail, it fails only where there is nothing to be found. -/
def World.TakesOut {α : Type} (w : World) (k : Creation) (followUp : Procedure Unit)
    (p : Procedure α) : Prop :=
  w.Ends p
    (fun _ w' => w.has k = true ∧ w.CanRemove k ∧ w' = ((w.without k).exec followUp).2)
    fun f w' => w' = w ∧ (w.CanRemove k → w.has k = false ∧ ∃ what, f = .notFound what)

private theorem attempt_takesOut {k : Creation} {p : Procedure Unit}
    {failed : Failure → World → Prop} (hthere : w.has k = true) (hworks : w.CanRemove k) :
    (w.without k).Ends (Procedure.attempt p)
      (fun _ w' => w.has k = true ∧ w.CanRemove k ∧ w' = ((w.without k).exec p).2) failed :=
  .attempt (.of_exec (P := fun w' => _ ∧ _ ∧ w' = _) ⟨hthere, hworks, rfl⟩)

theorem deleteAdaptor_takesOut {r : DeleteAdaptor} {id : AdaptorId}
    (hid : AdaptorId.ofString? r.adaptorId = .ok id) (howner : Text.isBlank r.owner = false) :
    w.TakesOut (.exchange (s.vhostOr r.vhost) id.text)
      (updatePermissions (s.vhostOr r.vhost) r.owner .deleteWrite id.text)
      (deleteAdaptor s r) := by
  unfold World.TakesOut deleteAdaptor readAdaptorId
  rw [hid]
  refine .bind (.pure ?_)
  refine .bind (.demand (fun _ => ?_) fun hno => by simp [howner] at hno)
  refine .bind (.require (fun x b hb => ?_) fun e he => ?_)
  · rw [Broker.respond_getExchange] at hb
    split at hb <;> cases hb
    next hx =>
    have hthere : w.has (.exchange (s.vhostOr r.vhost) id.text) = true :=
      Directory.contains_iff.2 ⟨x, hx⟩
    refine .bind (.require (fun _ b hb => ?_) fun e he => ⟨rfl, fun hworks => ?_⟩)
    · change w.broker.respond _ = _ at hb
      rw [Broker.respond_deleteExchange] at hb
      split at hb <;> [skip; split at hb] <;> cases hb
      next hworks _ => exact attempt_takesOut hthere (Bool.eq_false_iff.2 hworks)
    · change w.broker.respond _ = _ at he
      rw [Broker.respond_deleteExchange, if_neg (Bool.eq_false_iff.1 hworks)] at he
      cases he.symm.trans (if_pos hthere)
  · rw [Broker.respond_getExchange] at he
    split at he <;> cases he
    next hx => exact ⟨rfl, fun _ => ⟨by simp [World.has, Directory.contains, hx], _, rfl⟩⟩

theorem deleteStreaming_takesOut {r : DeleteStreaming}
    (hid : Text.isBlank r.subscriptionId = false) :
    w.TakesOut (.queue s.dataVhost r.subscriptionId)
      (updatePermissions s.dataVhost r.consumer .deleteRead r.subscriptionId)
      (deleteStreaming s r) := by
  unfold World.TakesOut deleteStreaming
  refine .bind (.demand (fun _ => ?_) fun hno => by simp [hid] at hno)
  refine .bind (.require (fun _ b hb => ?_) fun e he => ⟨rfl, fun hworks => ?_⟩)
  · rw [Broker.respond_deleteQueue] at hb
    split at hb <;> [skip; split at hb] <;> cases hb
    next hworks hthere =>
    have hthere : w.has (.queue s.dataVhost r.subscriptionId) = true := hthere
    exact attempt_takesOut hthere (Bool.eq_false_iff.2 hworks)
  · rw [Broker.respond_deleteQueue, if_neg (Bool.eq_false_iff.1 hworks)] at he
    split at he <;> cases he
    next hgone => exact ⟨Bool.eq_false_iff.2 hgone, _, rfl⟩

theorem deleteCallback_takesOut {r : DeleteCallback} {id : String}
    (hid : subscriptionId r.consumer r.name = .ok id) :
    w.TakesOut (.callback id) (notify s ⟨id, .delete⟩) (deleteCallback s r) := by
  unfold World.TakesOut deleteCallback
  rw [hid]
  refine .bind (.pure ?_)
  refine .bind (.requireRow (fun row g hg => ?_) fun e he => ?_)
  · rw [Registry.respond_getCallback] at hg
    split at hg <;> cases hg
    next hrow =>
    have hthere : w.has (.callback id) = true := Directory.contains_iff.2 ⟨row, hrow⟩
    refine .bind (.requireRow (fun _ g hg => ?_) fun e he => ⟨rfl, fun hworks => ?_⟩)
    · change w.registry.respond _ = _ at hg
      rw [Registry.respond_deleteCallback] at hg
      split at hg <;> [skip; split at hg] <;> cases hg
      next hworks _ => exact attempt_takesOut hthere (Bool.eq_false_iff.2 hworks)
    · change w.registry.respond _ = _ at he
      rw [Registry.respond_deleteCallback, if_neg (Bool.eq_false_iff.1 hworks)] at he
      cases he.symm.trans (if_pos hthere)
  · rw [Registry.respond_getCallback] at he
    split at he <;> cases he
    next hrow => exact ⟨rfl, fun _ => ⟨by simp [World.has, Directory.contains, hrow], _, rfl⟩⟩

/-! ## Requests to delete -/

inductive Deletion where
  | adaptor (request : DeleteAdaptor)
  | streaming (request : DeleteStreaming)
  | callback (request : DeleteCallback)

namespace Deletion

def operation : Deletion → Operation
  | .adaptor r => .deleteAdaptor r
  | .streaming r => .deleteStreaming r
  | .callback r => .deleteCallback r

/-- What a request that passes its checks takes out, and what is done then. -/
inductive Removes (s : Settings) : Deletion → Creation → Procedure Unit → Prop
  | adaptor {r : DeleteAdaptor} {id : AdaptorId} (hid : AdaptorId.ofString? r.adaptorId = .ok id)
    (howner : Text.isBlank r.owner = false) :
    Removes s (.adaptor r) (.exchange (s.vhostOr r.vhost) id.text)
      (updatePermissions (s.vhostOr r.vhost) r.owner .deleteWrite id.text)
  | streaming {r : DeleteStreaming} (hid : Text.isBlank r.subscriptionId = false) :
    Removes s (.streaming r) (.queue s.dataVhost r.subscriptionId)
      (updatePermissions s.dataVhost r.consumer .deleteRead r.subscriptionId)
  | callback {r : DeleteCallback} {id : String} (hid : subscriptionId r.consumer r.name = .ok id) :
    Removes s (.callback r) (.callback id) (notify s ⟨id, .delete⟩)

variable {d : Deletion} {k : Creation} {p : Procedure Unit}

/-- What is done in the end brings nothing back, and where it fails it does nothing. -/
theorem Removes.followUp_ends (h : d.Removes s k p) :
    w.Ends p (fun _ w' => w.Lacks k → w'.Lacks k) fun _ w' => w' = w := by
  cases h with
  | adaptor hid howner | streaming hid =>
    refine (updatePermissions_edits ..).mono ?_ fun _ _ h => h.1
    rintro - w' rfl ⟨hgone, hunbound⟩
    exact ⟨hgone, hunbound⟩
  | callback hid =>
    refine (notify_publishes _).mono ?_ fun _ _ h => h.1
    rintro - w' rfl ⟨hgone, -⟩
    exact ⟨hgone, fun _ _ => id⟩

/-- What was taken out is still gone in the end. -/
theorem Removes.lacks (h : d.Removes s k p) (w : World) : ((w.without k).exec p).2.Lacks k := by
  refine (h.followUp_ends.mono ?_ ?_).of_both (P := fun _ w' => w'.Lacks k)
  · intro _ w' hkept
    exact hkept (w.lacks_without k)
  · rintro _ w' rfl
    exact w.lacks_without k

/-- A request that passes its checks takes out what it is about. -/
theorem Removes.takesOut (h : d.Removes s k p) : w.TakesOut k p (d.operation.procedure s) := by
  cases h with
  | adaptor hid howner => exact deleteAdaptor_takesOut hid howner
  | streaming hid => exact deleteStreaming_takesOut hid
  | callback hid => exact deleteCallback_takesOut hid

theorem Removes.succeeds (h : d.Removes s k p) (hthere : w.has k = true) (hworks : w.CanRemove k) :
    w.Ends (d.operation.procedure s) (fun _ w' => w'.Lacks k) fun _ _ => False := by
  refine h.takesOut.mono ?_ ?_
  · rintro _ w' ⟨-, -, rfl⟩
    exact h.lacks w
  · rintro f w' ⟨-, hmissing⟩
    cases (hmissing hworks).1.symm.trans hthere

/-- A request that does not pass its checks fails at once. -/
theorem ends_of_not_removes (h : ∀ k p, ¬d.Removes s k p) :
    w.Ends (d.operation.procedure s) (fun _ _ => False) fun _ w' => w' = w := by
  cases d with
  | adaptor r =>
    refine .bind (ends_readAdaptorId (fun id hid => ?_) fun _ => rfl)
    refine .bind (.demand (fun howner => ?_) fun _ => rfl)
    exact absurd (.adaptor hid (by simpa using howner)) (h _ _)
  | streaming r =>
    refine .bind (.demand (fun hid => ?_) fun _ => rfl)
    exact absurd (.streaming (by simpa using hid)) (h _ _)
  | callback r =>
    refine .bind (.ofExcept (fun id hid => ?_) fun _ _ => rfl)
    exact absurd (.callback hid) (h _ _)

end Deletion

/-- A deletion that fails has changed nothing. One that succeeds has taken out what it is about, and
the same deletion finds nothing any more. It succeeds also when what is done in the end fails, and
then it has done no more than that. -/
theorem deletions_atomic (w : World) (s : Settings) (d : Deletion) :
    match w.run s d.operation with
    | (.error _, w') => w' = w
    | (.ok _, w') => ∃ k p, d.Removes s k p ∧ w.has k = true ∧ w'.Lacks k ∧
        w' = ((w.without k).exec p).2 ∧
        (∀ f, ((w.without k).exec p).1 = .error f → w' = w.without k) ∧
        ∃ what, w'.run s d.operation = (.error (.notFound what), w') := by
  rw [World.run_eq_exec]
  by_cases hremoves : ∃ k p, d.Removes s k p
  · obtain ⟨k, p, hremoves⟩ := hremoves
    split
    · next f w' hrun => exact (hremoves.takesOut.of_error hrun).1
    · next a w' hrun =>
      obtain ⟨hthere, hworks, hw'⟩ := hremoves.takesOut.of_ok hrun
      have hlacks : w'.Lacks k := hw' ▸ hremoves.lacks w
      refine ⟨k, p, hremoves, hthere, hlacks, hw', fun f hf => ?_, ?_⟩
      · rw [hw']
        exact hremoves.followUp_ends.of_error (Prod.ext hf rfl)
      · have hworks' : w'.CanRemove k := by
          rw [hw']
          exact World.canRemove_runPlan (World.canRemove_without.2 hworks) p.run
        rw [World.run_eq_exec]
        cases hagain : w'.exec (d.operation.procedure s) with
        | mk x w'' =>
          cases x with
          | error f =>
            obtain ⟨rfl, hmissing⟩ := hremoves.takesOut.of_error hagain
            obtain ⟨-, what, rfl⟩ := hmissing hworks'
            exact ⟨what, rfl⟩
          | ok a =>
            obtain ⟨hstill, -⟩ := hremoves.takesOut.of_ok hagain
            cases hlacks.gone.symm.trans hstill
  · have hends : w.Ends (d.operation.procedure s) (fun _ _ => False) fun _ w' => w' = w :=
      Deletion.ends_of_not_removes fun k p h => hremoves ⟨k, p, h⟩
    split
    · next f w' hrun => exact hends.of_error hrun
    · next a w' hrun => exact (hends.of_ok hrun).elim

end BrokerControl.Control
