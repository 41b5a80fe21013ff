import BrokerControl.Proofs.Control.Effects
import BrokerControl.Proofs.Control.Execution
import Mathlib.Logic.Function.Basic

/-! # Making and removing

Exchanges, queues and rows are made by one kind of call each and removed by one other. What a call
did to them can be told from its answer. -/

namespace BrokerControl.Control

/-- What a call does to the exchanges, queues and rows if it succeeds. -/
inductive Deed where
  | nothing
  | make (k : Creation)
  | remove (k : Creation)

/-- Enters a deed in a book: a value for what is made and another for what is removed. -/
def Deed.enter {β : Type} (made removed : β) : Deed → (Creation → β) → Creation → β
  | .nothing, book => book
  | .make k, book => Function.update book k made
  | .remove k, book => Function.update book k removed

namespace Effect

def deed : Effect → Deed
  | .broker (.createExchange vhost name) => .make (.exchange vhost name)
  | .broker (.createQueue vhost name) => .make (.queue vhost name)
  | .registry (.insertCallback row) => .make (.callback row.subscriptionId)
  | .broker (.deleteExchange vhost name) => .remove (.exchange vhost name)
  | .broker (.deleteQueue vhost name) => .remove (.queue vhost name)
  | .registry (.deleteCallback id) => .remove (.callback id)
  | _ => .nothing

def succeeded : (e : Effect) → e.Answer → Bool
  | .broker _, a => a.isOk
  | .registry _, a => a.isOk
  | .drawPassword, _ | .readClock, _ | .count _, _ => true

/-- What the effect did, going by its answer. -/
def did (e : Effect) (a : e.Answer) : Deed := if e.succeeded a then e.deed else .nothing

theorem did_of_succeeded {e : Effect} {a : e.Answer} (h : e.succeeded a = true) :
    e.did a = e.deed := if_pos h

theorem did_of_not_succeeded {e : Effect} {a : e.Answer} (h : e.succeeded a = false) :
    e.did a = .nothing := if_neg (by simp [h])

theorem did_of_nothing {e : Effect} (h : e.deed = .nothing) (a : e.Answer) :
    e.did a = .nothing := by
  rw [did, h, ite_self]

theorem of_did_make {e : Effect} {a : e.Answer} {k : Creation} (h : e.did a = .make k) :
    e.succeeded a = true ∧ e.deed = .make k := by
  unfold did at h
  split at h
  · next hok => exact ⟨hok, h⟩
  · cases h

theorem deed_of_isPassive {e : Effect} (h : e.IsPassive) : e.deed = .nothing := by
  cases e with
  | broker c => cases c <;> first | rfl | cases h
  | registry c => cases c <;> first | rfl | cases h
  | drawPassword | readClock | count event => rfl

end Effect

namespace World

/-- The exchange, queue or row exists. -/
def has (w : World) : Creation → Bool
  | .exchange vhost name => w.broker.exchanges.contains ⟨vhost, name⟩
  | .queue vhost name => w.broker.queues.contains ⟨vhost, name⟩
  | .callback id => w.registry.callbacks.contains id

/-- The call that removes it is not made to fail. -/
def CanRemove (w : World) : Creation → Prop
  | .exchange .. => w.broker.faults.deleteExchange = false
  | .queue .. => w.broker.faults.deleteQueue = false
  | .callback _ => w.registry.rejectsWrites = false

variable {w : World} {e : Effect} {k : Creation}

theorem canRemove_handle : (handle e w).2.CanRemove k ↔ w.CanRemove k := by
  cases e with
  | broker c => cases k <;> simp only [CanRemove, handle, w.broker.faults_respond c]
  | registry c => cases k <;> simp only [CanRemove, handle, w.registry.rejectsWrites_respond c]
  | drawPassword | readClock | count event => cases k <;> exact .rfl

/-! ## What becomes of it -/

private theorem has_eq_update {w' : World} {there : Bool} (hself : w'.has k = there)
    (hother : ∀ k', k ≠ k' → w'.has k' = w.has k') : w'.has = Function.update w.has k there := by
  funext k'
  by_cases hk : k = k'
  · rw [← hk, hself, Function.update_self]
  · rw [hother k' hk, Function.update_of_ne (Ne.symm hk)]

private theorem has_withBroker {b : Broker} (he : b.exchanges = w.broker.exchanges)
    (hq : b.queues = w.broker.queues) : (w.withBroker b).has = w.has := by
  funext k
  cases k <;> simp [has, withBroker, he, hq]

private theorem has_broker (w : World) (c : Broker.Call) :
    (w.withBroker (w.broker.respond c).2).has =
      (Effect.did (.broker c) (w.broker.respond c).1).enter true false w.has := by
  cases c with
  | createExchange vhost name =>
    rw [Broker.respond_createExchange]
    split
    · rfl
    · refine has_eq_update ?_ fun k hk => ?_
      · simp [has, withBroker, Directory.contains_insert]
      · cases k <;> simp_all [has, withBroker, Directory.contains_insert]
  | createQueue vhost name =>
    rw [Broker.respond_createQueue]
    split
    · rfl
    · refine has_eq_update ?_ fun k hk => ?_
      · simp [has, withBroker, Directory.contains_insert]
      · cases k <;> simp_all [has, withBroker, Directory.contains_insert]
  | deleteExchange vhost name =>
    rw [Broker.respond_deleteExchange]
    split <;> [skip; split]
    · rfl
    · refine has_eq_update ?_ fun k hk => ?_
      · simp [has, withBroker, Broker.withoutExchange, Directory.contains_erase]
      · cases k <;>
          simp_all [has, withBroker, Broker.withoutExchange, Directory.contains_erase]
    · rfl
  | deleteQueue vhost name =>
    rw [Broker.respond_deleteQueue]
    split <;> [skip; split]
    · rfl
    · refine has_eq_update ?_ fun k hk => ?_
      · simp [has, withBroker, Broker.withoutQueue, Directory.contains_erase]
      · cases k <;>
          simp_all [has, withBroker, Broker.withoutQueue, Directory.contains_erase]
    · rfl
  -- the other calls leave the exchanges and the queues alone
  | bindQueue vhost exchange queue key =>
    rw [Effect.did_of_nothing rfl, Broker.respond_bindQueue]
    split <;> [skip; split <;> [skip; split]] <;> exact has_withBroker rfl rfl
  | unbindQueue vhost exchange queue key =>
    rw [Effect.did_of_nothing rfl, Broker.respond_unbindQueue]
    split <;> exact has_withBroker rfl rfl
  | createUser name password =>
    rw [Effect.did_of_nothing rfl, Broker.respond_createUser]
    split <;> exact has_withBroker rfl rfl
  | updateUserPassword name password =>
    rw [Effect.did_of_nothing rfl, Broker.respond_updateUserPassword]
    split <;> exact has_withBroker rfl rfl
  | createVhost name =>
    rw [Effect.did_of_nothing rfl, Broker.respond_createVhost]
    split <;> exact has_withBroker rfl rfl
  | deleteVhost name =>
    rw [Effect.did_of_nothing rfl, Broker.respond_deleteVhost]
    split <;> exact has_withBroker rfl rfl
  | setUserPermissions vhost user g =>
    rw [Effect.did_of_nothing rfl, Broker.respond_setUserPermissions]
    split <;> [skip; split] <;> exact has_withBroker rfl rfl
  | publish vhost exchange key body =>
    rw [Effect.did_of_nothing rfl, Broker.respond_publish]
    split <;> [skip; split] <;> exact has_withBroker rfl rfl
  | getExchange | listExchangeBindings | listQueueBindings | getUser | listVhosts
  | getUserPermissions =>
    rw [Effect.did_of_nothing rfl, Broker.respond_of_isQuestion]
    · rfl
    · trivial

private theorem has_withRegistry {r : Registry}
    (h : ∀ id, r.callbacks.contains id = w.registry.callbacks.contains id) :
    (w.withRegistry r).has = w.has := by
  funext k
  cases k <;> simp [has, withRegistry, h]

private theorem has_registry (w : World) (c : Registry.Call) :
    (w.withRegistry (w.registry.respond c).2).has =
      (Effect.did (.registry c) (w.registry.respond c).1).enter true false w.has := by
  cases c with
  | insertCallback row =>
    rw [Registry.respond_insertCallback]
    split <;> [skip; split]
    · rfl
    · rfl
    · refine has_eq_update ?_ fun k hk => ?_
      · simp [has, withRegistry, Directory.contains_insert]
      · cases k <;> simp_all [has, withRegistry, Directory.contains_insert]
  | deleteCallback id =>
    rw [Registry.respond_deleteCallback]
    split <;> [skip; split]
    · rfl
    · refine has_eq_update ?_ fun k hk => ?_
      · simp [has, withRegistry, Directory.contains_erase]
      · cases k <;> simp_all [has, withRegistry, Directory.contains_erase]
    · rfl
  | updateEntities id entities =>
    rw [Effect.did_of_nothing rfl, Registry.respond_updateEntities]
    split <;> [skip; split]
    · rfl
    · next row hrow =>
      refine has_withRegistry fun id' => ?_
      by_cases hid : id = id'
      · subst hid
        simp [Directory.contains, hrow]
      · simp [Directory.contains_insert, hid]
    · rfl
  -- the other calls leave the rows of callbacks alone
  | insertCredential row =>
    rw [Effect.did_of_nothing rfl, Registry.respond_insertCredential]
    split <;> [skip; split] <;> exact has_withRegistry fun _ => rfl
  | updatePassword username hash =>
    rw [Effect.did_of_nothing rfl, Registry.respond_updatePassword]
    split <;> [skip; split] <;> exact has_withRegistry fun _ => rfl
  | getCredential username =>
    rw [Effect.did_of_nothing rfl, Registry.respond_getCredential]
    split <;> rfl
  | getCallback id =>
    rw [Effect.did_of_nothing rfl, Registry.respond_getCallback]
    split <;> rfl

/-- What exists after an effect can be told from its answer. -/
theorem has_handle (w : World) (e : Effect) :
    (handle e w).2.has = (e.did (handle e w).1).enter true false w.has := by
  cases e with
  | broker c => exact has_broker w c
  | registry c => exact has_registry w c
  | drawPassword | readClock | count event => rfl

/-! ## What a call can do -/

/-- What exists is not made again. -/
theorem absent_of_made (h : e.deed = .make k)
    (hok : e.succeeded (handle e w).1 = true) : w.has k = false := by
  cases e with
  | broker c =>
    cases c <;> cases h
    · change (w.broker.respond _).1.isOk = true at hok
      rw [Broker.respond_createExchange] at hok
      split at hok
      · cases hok
      · next hnew => exact Bool.eq_false_iff.2 hnew
    · change (w.broker.respond _).1.isOk = true at hok
      rw [Broker.respond_createQueue] at hok
      split at hok
      · cases hok
      · next hnew => exact Bool.eq_false_iff.2 hnew
  | registry c =>
    cases c <;> cases h
    change (w.registry.respond _).1.isOk = true at hok
    rw [Registry.respond_insertCallback] at hok
    split at hok <;> [skip; split at hok]
    · cases hok
    · cases hok
    · next hnew => exact Bool.eq_false_iff.2 hnew
  | drawPassword | readClock | count event => cases h

/-- Where rows can be made they can be removed. -/
theorem canRemove_of_made {id : String} (h : e.deed = .make (.callback id))
    (hok : e.succeeded (handle e w).1 = true) : w.CanRemove (.callback id) := by
  cases e with
  | registry c =>
    cases c <;> cases h
    change (w.registry.respond _).1.isOk = true at hok
    rw [Registry.respond_insertCallback] at hok
    split at hok
    · cases hok
    · next hwrites => exact Bool.eq_false_iff.2 hwrites
  | broker c => cases c <;> cases h
  | drawPassword | readClock | count event => cases h

theorem removes_of_has (h : e.deed = .remove k) (hhas : w.has k = true)
    (hcan : w.CanRemove k) : e.succeeded (handle e w).1 = true := by
  cases e with
  | broker c =>
    cases c <;> cases h
    · change (w.broker.respond _).1.isOk = true
      rw [Broker.respond_deleteExchange, if_neg (Bool.eq_false_iff.1 hcan), if_pos (by exact hhas)]
      rfl
    · change (w.broker.respond _).1.isOk = true
      rw [Broker.respond_deleteQueue, if_neg (Bool.eq_false_iff.1 hcan), if_pos (by exact hhas)]
      rfl
  | registry c =>
    cases c <;> cases h
    change (w.registry.respond _).1.isOk = true
    rw [Registry.respond_deleteCallback, if_neg (Bool.eq_false_iff.1 hcan), if_pos (by exact hhas)]
    rfl
  | drawPassword | readClock | count event => cases h

end World

end BrokerControl.Control
