import BrokerControl.Proofs.Broker.Response

/-! # Well-formed brokers

The exchanges, queues, bindings, users and grants of a broker refer to each other. A broker is
well-formed when none of these references is left dangling; whatever calls are made of a new one,
in whatever order and with whatever faults, it stays so. -/

namespace BrokerControl.Broker

/-- The states that calls and changes of the faults lead to from a new broker. -/
inductive Reachable : Broker → Prop where
  | new : Reachable {}
  | call {b : Broker} (h : Reachable b) (c : Call) : Reachable (b.respond c).2
  | faults {b : Broker} (h : Reachable b) (f : Faults) : Reachable { b with faults := f }

structure WellFormed (b : Broker) : Prop where
  sources : ∀ x ∈ b.bindings, b.exchanges.contains x.source = true
  targets : ∀ x ∈ b.bindings, b.queues.contains x.target = true
  nodup : b.bindings.Nodup
  /-- Every exchange carries the name it is filed under. -/
  named : ∀ a x, b.exchanges.get? a = some x → x.vhost = a.vhost ∧ x.name = a.name
  /-- Only users have grants. -/
  granted : ∀ a g, b.grants.get? a = some g → b.users.contains a.name = true

/-! ## Changes that keep a broker well-formed -/

namespace WellFormed

variable {b : Broker}

theorem new : WellFormed {} := by
  constructor <;> simp

theorem withExchange (h : b.WellFormed) (vhost name : String) :
    WellFormed { b with
      exchanges := b.exchanges.insert ⟨vhost, name⟩ (.topic vhost name) } := by
  refine ⟨fun x hx => ?_, h.targets, h.nodup, fun a x hx => ?_, h.granted⟩
  · simp [Directory.contains_insert, h.sources x hx]
  · rw [Directory.get?_insert] at hx
    split at hx
    · next ha =>
      subst ha
      obtain rfl := Option.some.inj hx
      exact ⟨rfl, rfl⟩
    · exact h.named a x hx

theorem withoutExchange (h : b.WellFormed) (a : Address) : (b.withoutExchange a).WellFormed := by
  refine ⟨fun x hx => ?_, fun x hx => ?_, h.nodup.filter _, fun a' x hx => ?_, h.granted⟩
  · obtain ⟨hx, hne⟩ := List.mem_filter.1 hx
    simp only [decide_eq_true_eq] at hne
    simp [Broker.withoutExchange, Directory.contains_erase, hne.symm, h.sources x hx]
  · exact h.targets x (List.mem_filter.1 hx).1
  · rw [Broker.withoutExchange, Directory.get?_erase] at hx
    split at hx
    · cases hx
    · exact h.named a' x hx

theorem withQueue (h : b.WellFormed) (a : Address) :
    WellFormed { b with queues := b.queues.insert a () } := by
  refine ⟨h.sources, fun x hx => ?_, h.nodup, h.named, h.granted⟩
  simp [Directory.contains_insert, h.targets x hx]

theorem withoutQueue (h : b.WellFormed) (a : Address) : (b.withoutQueue a).WellFormed := by
  refine ⟨fun x hx => ?_, fun x hx => ?_, h.nodup.filter _, h.named, h.granted⟩
  · exact h.sources x (List.mem_filter.1 hx).1
  · obtain ⟨hx, hne⟩ := List.mem_filter.1 hx
    simp only [decide_eq_true_eq] at hne
    simp [Broker.withoutQueue, Directory.contains_erase, hne.symm, h.targets x hx]

theorem withBinding (h : b.WellFormed) {x : Binding} (hs : b.exchanges.contains x.source = true)
    (ht : b.queues.contains x.target = true) : (b.withBinding x).WellFormed := by
  refine ⟨fun y hy => ?_, fun y hy => ?_, nodup_addLast h.nodup x, h.named, h.granted⟩
  · rcases mem_addLast.1 hy with hy | rfl
    · exact h.sources y hy
    · exact hs
  · rcases mem_addLast.1 hy with hy | rfl
    · exact h.targets y hy
    · exact ht

theorem withoutBinding (h : b.WellFormed) (x : Binding) :
    WellFormed { b with bindings := b.bindings.filter (· ≠ x) } :=
  ⟨fun y hy => h.sources y (List.mem_filter.1 hy).1,
    fun y hy => h.targets y (List.mem_filter.1 hy).1, h.nodup.filter _, h.named, h.granted⟩

theorem withUser (h : b.WellFormed) (name password : String) :
    WellFormed { b with users := b.users.insert name password } := by
  refine ⟨h.sources, h.targets, h.nodup, h.named, fun a g hg => ?_⟩
  simp [Directory.contains_insert, h.granted a g hg]

theorem withGrant (h : b.WellFormed) {a : Address} (ha : b.users.contains a.name = true)
    (g : Access.Grant) : WellFormed { b with grants := b.grants.insert a g } := by
  refine ⟨h.sources, h.targets, h.nodup, h.named, fun a' g' hg => ?_⟩
  rw [Directory.get?_insert] at hg
  split at hg
  · next he => exact he ▸ ha
  · exact h.granted a' g' hg

/-! ## Calls -/

/-- One call keeps a broker well-formed, whether it fails or not. -/
theorem respond (h : b.WellFormed) (c : Call) : (b.respond c).2.WellFormed := by
  cases c with
  | createExchange vhost name =>
    rw [respond_createExchange]
    split
    · exact h
    · exact h.withExchange vhost name
  | deleteExchange vhost name =>
    rw [respond_deleteExchange]
    split
    · exact h
    · split
      · exact h.withoutExchange _
      · exact h
  | createQueue vhost name =>
    rw [respond_createQueue]
    split
    · exact h
    · exact h.withQueue _
  | deleteQueue vhost name =>
    rw [respond_deleteQueue]
    split
    · exact h
    · split
      · exact h.withoutQueue _
      · exact h
  | bindQueue vhost exchange queue key =>
    rw [respond_bindQueue]
    split
    · exact h
    · split
      · exact h
      · next hs =>
        split
        · exact h
        · next ht =>
          exact h.withBinding (by simpa [Binding.source] using hs)
            (by simpa [Binding.target] using ht)
  | unbindQueue vhost exchange queue key =>
    rw [respond_unbindQueue]
    split
    · exact h.withoutBinding _
    · exact h
  | createUser name password =>
    rw [respond_createUser]
    split
    · exact h
    · exact h.withUser name password
  | updateUserPassword name password =>
    rw [respond_updateUserPassword]
    split
    · exact h.withUser name password
    · exact h
  | setUserPermissions vhost user g =>
    rw [respond_setUserPermissions]
    split
    · exact h
    · split
      · next hu => exact h.withGrant hu g
      · exact h
  | getExchange | listExchangeBindings | listQueueBindings | getUser | listVhosts
  | getUserPermissions =>
    rw [respond_of_isQuestion]
    · exact h
    · trivial
  -- virtual hosts and messages are referred to by nothing else
  | createVhost name =>
    rw [respond_createVhost]
    split
    · exact h
    · exact ⟨h.sources, h.targets, h.nodup, h.named, h.granted⟩
  | deleteVhost name =>
    rw [respond_deleteVhost]
    split
    · exact ⟨h.sources, h.targets, h.nodup, h.named, h.granted⟩
    · exact h
  | publish vhost exchange key body =>
    rw [respond_publish]
    split
    · exact h
    · split
      · exact ⟨h.sources, h.targets, h.nodup, h.named, h.granted⟩
      · exact h

theorem withFaults (h : b.WellFormed) (f : Faults) : WellFormed { b with faults := f } :=
  ⟨h.sources, h.targets, h.nodup, h.named, h.granted⟩

end WellFormed

theorem Reachable.wellFormed {b : Broker} (h : b.Reachable) : b.WellFormed := by
  induction h with
  | new => exact .new
  | call _ c ih => exact ih.respond c
  | faults _ f ih => exact ih.withFaults f

/-! ## Calls that fail -/

/-- Every call succeeds or leaves the broker as it was, also one that writes before it looks. -/
theorem respond_ok_or_unchanged (b : Broker) (c : Call) :
    (∃ a, (b.respond c).1 = .ok a) ∨ (b.respond c).2 = b := by
  cases c with
  | createExchange vhost name => rw [respond_createExchange]; split <;> simp
  | deleteExchange vhost name => rw [respond_deleteExchange]; split <;> [skip; split] <;> simp
  | createQueue vhost name => rw [respond_createQueue]; split <;> simp
  | deleteQueue vhost name => rw [respond_deleteQueue]; split <;> [skip; split] <;> simp
  | bindQueue vhost exchange queue key =>
    rw [respond_bindQueue]
    split <;> [skip; split <;> [skip; split]] <;> simp
  | unbindQueue vhost exchange queue key => rw [respond_unbindQueue]; split <;> simp
  | createUser name password => rw [respond_createUser]; split <;> simp
  | updateUserPassword name password => rw [respond_updateUserPassword]; split <;> simp
  | createVhost name => rw [respond_createVhost]; split <;> simp
  | deleteVhost name => rw [respond_deleteVhost]; split <;> simp
  | setUserPermissions vhost user g =>
    rw [respond_setUserPermissions]
    split <;> [skip; split] <;> simp
  | publish vhost exchange key body => rw [respond_publish]; split <;> [skip; split] <;> simp
  | getExchange | listExchangeBindings | listQueueBindings | getUser | listVhosts
  | getUserPermissions =>
    exact .inr (b.respond_of_isQuestion trivial)

theorem respond_of_error {b : Broker} {c : Call} {e : Error}
    (h : (b.respond c).1 = .error e) : (b.respond c).2 = b := by
  rcases respond_ok_or_unchanged b c with ⟨a, ha⟩ | hb
  · rw [ha] at h
    cases h
  · exact hb

/-- No call changes which calls are made to fail. -/
theorem faults_respond (b : Broker) (c : Call) : (b.respond c).2.faults = b.faults := by
  cases c <;>
    simp only [respond_createExchange, respond_getExchange, respond_deleteExchange,
      respond_listExchangeBindings, respond_createQueue, respond_deleteQueue,
      respond_listQueueBindings, respond_bindQueue, respond_unbindQueue, respond_getUser,
      respond_createUser, respond_updateUserPassword, respond_createVhost, respond_deleteVhost,
      respond_listVhosts, respond_getUserPermissions, respond_setUserPermissions,
      respond_publish] <;>
    repeat' split
  all_goals rfl

/-- Whatever was done to a new broker, it is well-formed, and a call that fails leaves it exactly
as it was. -/
theorem reachable_consistent {b : Broker} (h : b.Reachable) :
    b.WellFormed ∧
      ∀ (c : Call) (e : Error), (b.respond c).1 = .error e → (b.respond c).2 = b :=
  ⟨h.wellFormed, fun _ _ => respond_of_error⟩

/-- A broker with one binding, asked to bind from an exchange that it does not have. -/
theorem reachable_consistent_one_binding :
    let b := ((({} : Broker).respond (.createExchange "v" "x")).2.respond
      (.createQueue "v" "q")).2.respond (.bindQueue "v" "x" "q" "k") |>.2
    b.Reachable ∧ b.bindings = [⟨"v", "x", "q", "k"⟩] ∧ b.WellFormed ∧
      (b.respond (.bindQueue "v" "y" "q" "k")).1 = .error (.notFound "exchange y") ∧
      (b.respond (.bindQueue "v" "y" "q" "k")).2 = b := by
  have hb := ((Reachable.new.call (.createExchange "v" "x")).call (.createQueue "v" "q")).call
    (.bindQueue "v" "x" "q" "k")
  obtain ⟨hw, hfail⟩ := reachable_consistent hb
  exact ⟨hb, rfl, hw, rfl, hfail _ (.notFound "exchange y") rfl⟩

end BrokerControl.Broker
