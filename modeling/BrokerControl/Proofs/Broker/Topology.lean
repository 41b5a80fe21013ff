import BrokerControl.Proofs.Broker.WellFormed

/-! # Topology and access

The topology of a broker is all that messages can pass through, together with the messages that
did; access is what each user may do. Workflows are described by the topology and the access that
they leave. -/

namespace BrokerControl.Broker

open Access (Edit Grant)

structure Topology where
  vhosts : Directory String Unit
  exchanges : Directory Address Exchange
  queues : Directory Address Unit
  bindings : List Binding
  published : List Message

def topology (b : Broker) : Topology :=
  ⟨b.vhosts, b.exchanges, b.queues, b.bindings, b.published⟩

/-- What a user may do on a virtual host; without an entry that is nothing. -/
def grantAt (b : Broker) (a : Address) : Grant := (b.grants.get? a).getD .denyAll

/-- The queues and keys that an exchange is bound with, in order. -/
def routes (b : Broker) (a : Address) : List (String × String) :=
  (b.bindings.filter fun x => x.source = a).map fun x => (x.queue, x.routingKey)

/-- The two brokers pass the same messages and let everyone do the same. They may know different
users. -/
structure Alike (b b' : Broker) : Prop where
  topology : b'.topology = b.topology
  access : ∀ a, b'.grantAt a = b.grantAt a

/-- Exactly one user's grant on one virtual host was edited. -/
def Edited (b b' : Broker) (a : Address) (edit : Edit) (resource : String) : Prop :=
  ∀ a', b'.grantAt a' = if a = a' then (b.grantAt a').apply edit resource else b.grantAt a'

theorem Alike.refl (b : Broker) : b.Alike b := ⟨rfl, fun _ => rfl⟩

/-! ## Parts of the bindings -/

section Ends

variable {f : Binding → Address} {a : Address} {xs : List Binding}

theorem filter_ne_eq_self (h : ∀ x ∈ xs, f x ≠ a) : xs.filter (fun x => f x ≠ a) = xs :=
  List.filter_eq_self.2 fun x hx => by simp [h x hx]

theorem filter_eq_eq_nil (h : ∀ x ∈ xs, f x ≠ a) : xs.filter (fun x => f x = a) = [] :=
  List.filter_eq_nil_iff.2 fun x hx => by simp [h x hx]

end Ends

/-! ## Changes of the topology -/

namespace Topology

variable (t : Topology)

def withExchange (a : Address) : Topology :=
  { t with exchanges := t.exchanges.insert a (.topic a.vhost a.name) }

def withoutExchange (a : Address) : Topology :=
  { t with
    exchanges := t.exchanges.erase a
    bindings := t.bindings.filter fun x => x.source ≠ a }

def withQueue (a : Address) : Topology := { t with queues := t.queues.insert a () }

def withoutQueue (a : Address) : Topology :=
  { t with
    queues := t.queues.erase a
    bindings := t.bindings.filter fun x => x.target ≠ a }

def withBindings (xs : List Binding) : Topology := { t with bindings := addAll t.bindings xs }

/-! ## Taking back -/

/-- An exchange takes along all that is bound to it. -/
theorem withoutExchange_withBindings {a : Address} {xs : List Binding}
    (hxs : ∀ x ∈ xs, x.source = a) :
    (t.withBindings xs).withoutExchange a = t.withoutExchange a := by
  simp only [withoutExchange, withBindings]
  rw [filter_addAll_of_not (fun x hx => by simp [hxs x hx])]

/-- A queue takes along all that is bound to it. -/
theorem withoutQueue_withBindings {a : Address} {xs : List Binding}
    (hxs : ∀ x ∈ xs, x.target = a) :
    (t.withBindings xs).withoutQueue a = t.withoutQueue a := by
  simp only [withoutQueue, withBindings]
  rw [filter_addAll_of_not (fun x hx => by simp [hxs x hx])]

theorem withoutExchange_withExchange {a : Address} (hnew : t.exchanges.contains a = false)
    (hfree : ∀ x ∈ t.bindings, x.source ≠ a) : (t.withExchange a).withoutExchange a = t := by
  have hnone : t.exchanges.get? a = none := by simpa [Directory.contains] using hnew
  simp only [withoutExchange, withExchange]
  rw [filter_ne_eq_self hfree, Directory.erase_insert hnone]

theorem withoutQueue_withQueue {a : Address} (hnew : t.queues.contains a = false)
    (hfree : ∀ x ∈ t.bindings, x.target ≠ a) : (t.withQueue a).withoutQueue a = t := by
  have hnone : t.queues.get? a = none := by simpa [Directory.contains] using hnew
  simp only [withoutQueue, withQueue]
  rw [filter_ne_eq_self hfree, Directory.erase_insert hnone]

theorem withoutQueue_of_not_contains {a : Address} (hno : t.queues.contains a = false)
    (hfree : ∀ x ∈ t.bindings, x.target ≠ a) : t.withoutQueue a = t := by
  rw [withoutQueue, filter_ne_eq_self hfree, Directory.erase_of_not_contains hno]

end Topology

@[simp] theorem topology_withoutExchange (b : Broker) (a : Address) :
    (b.withoutExchange a).topology = b.topology.withoutExchange a := rfl

@[simp] theorem topology_withoutQueue (b : Broker) (a : Address) :
    (b.withoutQueue a).topology = b.topology.withoutQueue a := rfl

@[simp] theorem topology_withBinding (b : Broker) (x : Binding) :
    (b.withBinding x).topology = b.topology.withBindings [x] := rfl

/-! ## Binding and deleting -/

/-- Whether a queue can be bound to an exchange. -/
def bindable (b : Broker) (vhost exchange queue : String) : Bool :=
  !b.faults.bindToQueues.contains queue && b.exchanges.contains ⟨vhost, exchange⟩ &&
    b.queues.contains ⟨vhost, queue⟩

section Calls

variable {b b' : Broker} {vhost exchange queue key : String}

/-- Binding succeeds only where it can, and then the binding is there. -/
theorem of_bindQueue_ok {u : Unit}
    (h : b.respond (.bindQueue vhost exchange queue key) = (.ok u, b')) :
    b.bindable vhost exchange queue = true ∧
      b' = b.withBinding ⟨vhost, exchange, queue, key⟩ := by
  rw [respond_bindQueue] at h
  split at h
  · cases h
  · next hf =>
    split at h
    · cases h
    · next he =>
      split at h
      · cases h
      · next hq =>
        cases h
        simp only [Bool.not_eq_true, Bool.not_eq_true'] at hf he hq
        simp only [bindable, hf, he, hq, Bool.not_false, Bool.and_self, and_self]

/-- Binding fails only where it cannot succeed. -/
theorem not_bindable_of_error {e : Error}
    (h : b.respond (.bindQueue vhost exchange queue key) = (.error e, b')) :
    b.bindable vhost exchange queue = false := by
  rw [respond_bindQueue] at h
  unfold bindable
  split at h
  · next hf => rw [hf]; rfl
  · split at h
    · next he =>
      simp only [Bool.not_eq_true'] at he
      rw [he, Bool.and_false, Bool.false_and]
    · split at h
      · next hq =>
        simp only [Bool.not_eq_true'] at hq
        rw [hq, Bool.and_false]
      · cases h

theorem of_deleteExchange_ok {u : Unit}
    (h : b.respond (.deleteExchange vhost exchange) = (.ok u, b')) :
    b' = b.withoutExchange ⟨vhost, exchange⟩ := by
  rw [respond_deleteExchange] at h
  split at h
  · cases h
  · split at h
    · cases h
      rfl
    · cases h

theorem of_deleteQueue_ok {u : Unit}
    (h : b.respond (.deleteQueue vhost queue) = (.ok u, b')) :
    b' = b.withoutQueue ⟨vhost, queue⟩ := by
  rw [respond_deleteQueue] at h
  split at h
  · cases h
  · split at h
    · cases h
      rfl
    · cases h

end Calls

/-! ## Well-formed brokers -/

/-- Nothing is bound to an exchange that is not there. -/
theorem WellFormed.source_ne {b : Broker} (h : b.WellFormed) {a : Address}
    (ha : b.exchanges.contains a = false) : ∀ x ∈ b.bindings, x.source ≠ a := by
  rintro x hx rfl
  simp [h.sources x hx] at ha

/-- Nothing is bound to a queue that is not there. -/
theorem WellFormed.target_ne {b : Broker} (h : b.WellFormed) {a : Address}
    (ha : b.queues.contains a = false) : ∀ x ∈ b.bindings, x.target ≠ a := by
  rintro x hx rfl
  simp [h.targets x hx] at ha

/-- Who is no user may do nothing. -/
theorem WellFormed.grantAt_of_not_user {b : Broker} (h : b.WellFormed) {a : Address}
    (ha : b.users.contains a.name = false) : b.grantAt a = .denyAll := by
  unfold grantAt
  cases hg : b.grants.get? a with
  | none => rfl
  | some g => simp [h.granted a g hg] at ha

theorem grantAt_insert (b : Broker) (a a' : Address) (g : Grant) :
    grantAt { b with grants := b.grants.insert a g } a' = if a = a' then g else b.grantAt a' := by
  unfold grantAt
  rw [Directory.get?_insert]
  split <;> rfl

end BrokerControl.Broker
