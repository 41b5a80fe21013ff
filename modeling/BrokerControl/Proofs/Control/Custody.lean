import BrokerControl.Proofs.Control.Creations

/-! # What a registration holds

A registration makes one thing, and takes it back if a later call fails. This is so whatever its
calls are answered, as long as those that take back succeed. -/

namespace BrokerControl.Control

namespace Deed

/-- What is held after the deed, where one thing is held at a time. -/
def held : Deed → Option Creation → Option Creation
  | .nothing, held => held
  | .make k, _ => some k
  | .remove _, _ => none

/-- Something is made while nothing is held, and only what is held is removed. -/
def Allowed : Deed → Option Creation → Prop
  | .nothing, _ => True
  | .make _, held => held = none
  | .remove k, held => held = some k

end Deed

/-- A call that fails does nothing. -/
theorem Effect.did_allowed {e : Effect} {held : Option Creation} (h : e.deed.Allowed held)
    (a : e.Answer) : (e.did a).Allowed held := by
  unfold did
  split
  · exact h
  · trivial

/-! ## Plans -/

variable {α β : Type} {held : Option Creation} {k : Creation}

/-- From what it holds on, the plan does what is allowed and ends as in `Q`. -/
def Plan.Custody (Q : α → Option Creation → Prop) : Plan α → Option Creation → Prop
  | .done a, held => Q a held
  | .step e next, held => e.deed.Allowed held ∧
      ∀ a, (∀ k, e.deed = .remove k → e.succeeded a = true) →
        (next a).Custody Q ((e.did a).held held)

/-- Whatever the plan holds it keeps, and it makes nothing. -/
def Plan.Neutral (p : Plan α) : Prop := ∀ held, p.Custody (fun _ held' => held' = held) held

namespace Plan

variable {Q : α → Option Creation → Prop}

theorem Custody.mono {Q' : α → Option Creation → Prop} {p : Plan α} (h : p.Custody Q held)
    (hQ : ∀ a held, Q a held → Q' a held) : p.Custody Q' held := by
  induction p generalizing held with
  | done a => exact hQ a held h
  | step e next ih => exact ⟨h.1, fun a ha => ih a (h.2 a ha)⟩

theorem Custody.bind {p : Plan β} {f : β → Plan α}
    (h : p.Custody (fun b held => (f b).Custody Q held) held) : (p >>= f).Custody Q held := by
  induction p generalizing held with
  | done b => exact h
  | step e next ih => exact ⟨h.1, fun b hb => ih b (h.2 b hb)⟩

theorem Neutral.custody {p : Plan α} (h : p.Neutral) (hQ : ∀ a, Q a held) : p.Custody Q held :=
  (h held).mono fun a _ heq => heq ▸ hQ a

theorem neutral_perform {e : Effect} (h : e.deed = .nothing) : (perform e).Neutral := by
  intro held
  refine ⟨by rw [h]; trivial, fun a _ => ?_⟩
  rw [Effect.did_of_nothing h]
  rfl

theorem neutral_closed : Closed fun _ p => p.Neutral where
  done _ _ := rfl
  andThen hp hf held := .bind (hp.custody fun b => hf b held)
  passive h := neutral_perform (Effect.deed_of_isPassive h)

end Plan

/-! ## Procedures -/

/-- A registration that has succeeded holds what it was asked to make, and one that has failed holds
nothing. -/
def Holds (k? : Option Creation) : Except Failure α → Option Creation → Prop
  | .ok _, held => held.isSome = true ∧ held = k?
  | .error _, held => held = none

section Procedures

open Plan

variable {k? : Option Creation} {p : Procedure α} {f : α → Procedure β}

/-- Until something is made there is nothing to take back. -/
private theorem before_making (hp : Neutral p.run) (hf : ∀ a, (f a).run.Custody (Holds k?) none) :
    (p >>= f).run.Custody (Holds k?) none :=
  .bind (hp.custody fun
    | .ok a => hf a
    | .error _ => rfl)

private theorem before_making_given {x : Except Failure α}
    (h : ∀ a, x = .ok a → (f a).run.Custody (Holds k?) none) :
    (ofExcept x >>= f : Procedure β).run.Custody (Holds k?) none := by
  cases x with
  | ok a => exact h a rfl
  | error _ => exact rfl

/-- A step that takes everything back when it fails may be followed by another. -/
private theorem after_making (hp : p.run.Custody (Holds (some k)) (some k))
    (hf : ∀ a, (f a).run.Custody (Holds (some k)) (some k)) :
    (p >>= f).run.Custody (Holds (some k)) (some k) :=
  .bind (hp.mono fun
    | .ok a, _, h => h.2 ▸ hf a
    | .error _, _, h => h)

private theorem takeBack_custody (k : Creation) :
    k.takeBack.Custody (fun done held => done = true ∧ held = none) (some k) := by
  cases k with
  | exchange vhost name | queue vhost name | callback id =>
    refine ⟨rfl, fun a ha => ?_⟩
    have hok := ha _ rfl
    rw [Effect.did_of_succeeded hok]
    exact ⟨hok, rfl⟩

private theorem guarded_custody {name : String} (hp : Neutral p.run) :
    (((Saga.begin name).onFailure k).guarded p).run.Custody (Holds (some k)) (some k) := by
  refine .bind (.bind (.bind (hp.custody fun x => ?_)))
  cases x with
  | ok a => exact ⟨rfl, rfl⟩
  | error e =>
    refine .bind (.bind (.bind ((takeBack_custody k).mono fun done held h => ?_)))
    obtain ⟨rfl, rfl⟩ := h
    exact ⟨trivial, fun _ _ => rfl⟩

private theorem complete_custody (saga : Saga Creation) :
    (liftM (saga.complete : Plan Unit) : Procedure Unit).run.Custody (Holds (some k)) (some k) :=
  ⟨trivial, fun _ _ => ⟨rfl, rfl⟩⟩

private theorem bindFanOut_custody {name : String} (vhost exchange : String)
    (pairs : List (String × String)) :
    (bindFanOut ((Saga.begin name).onFailure k) vhost exchange pairs).run.Custody
      (Holds (some k)) (some k) := by
  induction pairs with
  | nil => exact ⟨rfl, rfl⟩
  | cons pair pairs ih =>
    obtain ⟨queue, key⟩ := pair
    have hbind : Neutral (Procedure.require (.bindQueue vhost exchange queue key)
        (.remote "Queue binding failed")).run :=
      neutral_closed.require (neutral_perform rfl) _
    exact after_making (guarded_custody hbind) fun _ => ih

end Procedures

/-! ## Registrations -/

inductive Registration where
  | adaptor (request : RegisterAdaptor)
  | streaming (request : StreamingRequest)
  | callback (request : CallbackRequest)

namespace Registration

def operation : Registration → Operation
  | .adaptor r => .registerAdaptor r
  | .streaming r => .registerStreaming r
  | .callback r => .registerCallback r

/-- What is to be made; a subscription without an id is turned down. -/
def creation? (s : Settings) : Registration → Option Creation
  | .adaptor r => some (.exchange (s.vhostOr r.vhost) r.adaptorId)
  | .streaming r => (subscriptionId r.consumer r.name).toOption.map (.queue s.dataVhost)
  | .callback r => (subscriptionId r.consumer r.name).toOption.map .callback

end Registration

variable {s : Settings}

open Plan

private theorem ensureUser_neutral (u v : String) : Neutral (ensureUser u v).run :=
  ensureUser_closed neutral_closed fun _ he => neutral_perform (by cases he <;> rfl)

private theorem updatePermissions_neutral (v u : String) (edit : Access.Edit) (resource : String) :
    Neutral (updatePermissions v u edit resource).run :=
  updatePermissions_closed neutral_closed (fun _ => neutral_perform rfl) edit resource

private theorem bindKeys_neutral (vhost queue : String) (keys : List String) :
    Neutral (bindKeys vhost queue keys).run :=
  bindKeys_closed neutral_closed (fun _ _ => neutral_perform rfl) keys

private theorem demand_neutral (condition : Bool) (message : String) :
    Neutral (Procedure.demand condition message).run :=
  neutral_closed.demand condition message

theorem registerAdaptor_custody (r : RegisterAdaptor) :
    (registerAdaptor s r).run.Custody (Holds ((Registration.adaptor r).creation? s)) none := by
  unfold registerAdaptor
  refine before_making_given fun id hid => ?_
  rw [Registration.creation?, ← text_of_mapError_ofString? hid]
  refine before_making (demand_neutral _ _) fun _ => ?_
  refine before_making (ensureUser_neutral _ _) fun credentials => ⟨rfl, fun a _ => ?_⟩
  cases a with
  | error e => cases e <;> exact rfl
  | ok _ =>
    refine after_making (guarded_custody (updatePermissions_neutral _ _ _ _)) fun _ => ?_
    refine after_making (bindFanOut_custody _ _ _) fun _ => ?_
    exact after_making (complete_custody _) fun _ => ⟨rfl, rfl⟩

private theorem provisionStream_custody (id consumer : String) (entities : List String) :
    (provisionStream s id consumer entities).run.Custody
      (Holds (some (.queue s.dataVhost id))) none := by
  refine ⟨rfl, fun a _ => ?_⟩
  cases a with
  | error e => cases e <;> exact rfl
  | ok _ =>
    refine after_making (guarded_custody (bindKeys_neutral _ _ _)) fun _ => ?_
    refine after_making (guarded_custody (updatePermissions_neutral _ _ _ _)) fun _ => ?_
    exact complete_custody _

theorem registerStreaming_custody (r : StreamingRequest) :
    (registerStreaming s r).run.Custody (Holds ((Registration.streaming r).creation? s)) none := by
  unfold registerStreaming
  refine before_making (demand_neutral _ _) fun _ => before_making_given fun id hid => ?_
  rw [Registration.creation?, hid]
  refine before_making (ensureUser_neutral _ _) fun credentials => ?_
  refine .bind ((provisionStream_custody _ _ _).mono fun x held h => ?_)
  cases x with
  | ok _ => exact h
  | error f => exact h

theorem registerCallback_custody (r : CallbackRequest) :
    (registerCallback s r).run.Custody (Holds ((Registration.callback r).creation? s)) none := by
  unfold registerCallback
  refine before_making (demand_neutral _ _) fun _ => before_making (demand_neutral _ _) fun _ => ?_
  refine before_making_given fun id hid => ?_
  rw [Registration.creation?, hid]
  refine before_making (neutral_closed.registry (neutral_perform rfl)) fun found => ?_
  split
  · exact rfl
  · refine before_making (bindKeys_neutral _ _ _) fun _ => ?_
    refine before_making neutral_closed.readClock fun now => ⟨rfl, fun a _ => ?_⟩
    cases a with
    | error e => cases e <;> exact rfl
    | ok _ =>
      have hnotify : Neutral (notify s ⟨id, .create⟩).run :=
        notify_closed neutral_closed (fun _ _ => neutral_perform rfl) _
      refine after_making (guarded_custody hnotify) fun _ => ?_
      exact after_making (complete_custody _) fun _ => ⟨rfl, rfl⟩
  · exact rfl

/-- A registration begins with nothing, and in the end it holds what it was to make exactly if it
has succeeded. -/
theorem Registration.custody (r : Registration) :
    (r.operation.procedure s).run.Custody (Holds (r.creation? s)) none := by
  cases r with
  | adaptor r => exact registerAdaptor_custody r
  | streaming r => exact registerStreaming_custody r
  | callback r => exact registerCallback_custody r

end BrokerControl.Control
