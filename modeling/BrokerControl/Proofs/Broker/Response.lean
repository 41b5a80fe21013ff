import BrokerControl.Broker.Call
import BrokerControl.Proofs.Data.Additions

/-! # What each call answers

One equation for every call that changes the topology or the users of a broker. Each gives the
answer and the state together, so that the order in which the call looks and writes is settled
here and nowhere else. -/

namespace BrokerControl.Broker

/-! ## Actions on a state -/

namespace Action

variable {α β : Type}

/-- What an action answers on a state, and the state that it leaves. -/
def on (x : Action α) (b : Broker) : Except Error α × Broker := x.run.run b

@[simp] theorem on_pure (a : α) (b : Broker) : (pure a : Action α).on b = (.ok a, b) := rfl

@[simp] theorem on_throw (e : Error) (b : Broker) :
    (throw e : Action α).on b = (.error e, b) := rfl

@[simp] theorem on_get_bind (f : Broker → Action β) (b : Broker) :
    (get >>= f : Action β).on b = (f b).on b := rfl

@[simp] theorem on_modify (f : Broker → Broker) (b : Broker) :
    (modify f : Action Unit).on b = (.ok (), f b) := rfl

@[simp] theorem on_modify_bind (f : Broker → Broker) (g : Unit → Action β) (b : Broker) :
    (modify f >>= g : Action β).on b = (g ()).on (f b) := rfl

@[simp] theorem on_ite (p : Prop) [Decidable p] (x y : Action α) (b : Broker) :
    (if p then x else y : Action α).on b = if p then x.on b else y.on b := by
  split <;> rfl

end Action

theorem respond_eq_on (b : Broker) (c : Call) : b.respond c = (perform c).on b := rfl

/-! ## Changes of the state -/

/-- The exchange that a binding starts from. -/
def Binding.source (x : Binding) : Address := ⟨x.vhost, x.exchange⟩

/-- The queue that a binding leads to. -/
def Binding.target (x : Binding) : Address := ⟨x.vhost, x.queue⟩

def withBinding (b : Broker) (x : Binding) : Broker :=
  { b with bindings := addLast b.bindings x }

def withoutExchange (b : Broker) (a : Address) : Broker :=
  { b with
    exchanges := b.exchanges.erase a
    bindings := b.bindings.filter fun x => x.source ≠ a }

def withoutQueue (b : Broker) (a : Address) : Broker :=
  { b with
    queues := b.queues.erase a
    bindings := b.bindings.filter fun x => x.target ≠ a }

private theorem not_source (x : Binding) (vhost name : String) :
    (!(x.vhost == vhost && x.exchange == name)) = decide (x.source ≠ ⟨vhost, name⟩) := by
  by_cases hv : x.vhost = vhost <;> by_cases hn : x.exchange = name <;>
    simp [Binding.source, hv, hn]

private theorem not_target (x : Binding) (vhost name : String) :
    (!(x.vhost == vhost && x.queue == name)) = decide (x.target ≠ ⟨vhost, name⟩) := by
  by_cases hv : x.vhost = vhost <;> by_cases hn : x.queue = name <;>
    simp [Binding.target, hv, hn]

variable (b : Broker)

/-! ## Exchanges -/

theorem respond_createExchange (vhost name : String) :
    b.respond (.createExchange vhost name) =
      if b.exchanges.contains ⟨vhost, name⟩ then (.error (.alreadyExists s!"exchange {name}"), b)
      else (.ok (), { b with
        exchanges := b.exchanges.insert ⟨vhost, name⟩ (.topic vhost name) }) := by
  simp [respond_eq_on, perform, createExchange]

theorem respond_getExchange (vhost name : String) :
    b.respond (.getExchange vhost name) =
      match b.exchanges.get? ⟨vhost, name⟩ with
      | some x => (.ok x, b)
      | none => (.error (.notFound s!"exchange {name}"), b) := by
  cases h : b.exchanges.get? ⟨vhost, name⟩ <;> simp [respond_eq_on, perform, getExchange, h]

theorem respond_deleteExchange (vhost name : String) :
    b.respond (.deleteExchange vhost name) =
      if b.faults.deleteExchange then (.error (injected s!"/api/exchanges/{vhost}/{name}"), b)
      else if b.exchanges.contains ⟨vhost, name⟩ then (.ok (), b.withoutExchange ⟨vhost, name⟩)
      else (.error (.notFound s!"exchange {name}"), b) := by
  simp only [respond_eq_on, perform, deleteExchange, not_source, Action.on_get_bind,
    Action.on_ite, Action.on_modify, Action.on_modify_bind]
  cases h : b.exchanges.contains ⟨vhost, name⟩ with
  | true => simp [withoutExchange]
  | false => simp [Directory.erase_of_not_contains h]

theorem respond_listExchangeBindings (vhost name : String) :
    b.respond (.listExchangeBindings vhost name) =
      if b.exchanges.contains ⟨vhost, name⟩ then
        (.ok ((b.bindings.filter fun x => x.vhost == vhost && x.exchange == name).foldl
          (fun d x => d.push x.queue x.routingKey) ∅), b)
      else (.error (.notFound s!"exchange {name}"), b) := by
  cases h : b.exchanges.contains ⟨vhost, name⟩ <;>
    simp [respond_eq_on, perform, listExchangeBindings, h]

/-! ## Queues -/

theorem respond_createQueue (vhost name : String) :
    b.respond (.createQueue vhost name) =
      if b.queues.contains ⟨vhost, name⟩ then (.error (.alreadyExists s!"queue {name}"), b)
      else (.ok (), { b with queues := b.queues.insert ⟨vhost, name⟩ () }) := by
  simp only [respond_eq_on, perform, createQueue, Action.on_get_bind, Action.on_modify_bind,
    Action.on_ite]
  cases h : b.queues.contains ⟨vhost, name⟩ with
  | true =>
    obtain ⟨v, hv⟩ := Directory.contains_iff.1 h
    simp [Directory.insert_get? hv]
  | false => simp

theorem respond_deleteQueue (vhost name : String) :
    b.respond (.deleteQueue vhost name) =
      if b.faults.deleteQueue then (.error (injected s!"/api/queues/{vhost}/{name}"), b)
      else if b.queues.contains ⟨vhost, name⟩ then (.ok (), b.withoutQueue ⟨vhost, name⟩)
      else (.error (.notFound s!"queue {name}"), b) := by
  simp only [respond_eq_on, perform, deleteQueue, not_target, Action.on_get_bind,
    Action.on_ite, Action.on_modify, Action.on_modify_bind]
  cases h : b.queues.contains ⟨vhost, name⟩ with
  | true => simp [withoutQueue]
  | false => simp [Directory.erase_of_not_contains h]

theorem respond_listQueueBindings (vhost name : String) :
    b.respond (.listQueueBindings vhost name) =
      if b.queues.contains ⟨vhost, name⟩ then
        (.ok ((b.bindings.filter fun x => x.vhost == vhost && x.queue == name).map
          (·.routingKey)), b)
      else (.error (.notFound s!"queue {name}"), b) := by
  cases h : b.queues.contains ⟨vhost, name⟩ <;>
    simp [respond_eq_on, perform, listQueueBindings, h]

/-! ## Bindings -/

theorem respond_bindQueue (vhost exchange queue key : String) :
    b.respond (.bindQueue vhost exchange queue key) =
      if b.faults.bindToQueues.contains queue then
        (.error (injected s!"/api/bindings/{vhost}/e/{exchange}/q/{queue}"), b)
      else if !b.exchanges.contains ⟨vhost, exchange⟩ then
        (.error (.notFound s!"exchange {exchange}"), b)
      else if !b.queues.contains ⟨vhost, queue⟩ then (.error (.notFound s!"queue {queue}"), b)
      else (.ok (), b.withBinding ⟨vhost, exchange, queue, key⟩) := by
  by_cases h : (⟨vhost, exchange, queue, key⟩ : Binding) ∈ b.bindings <;>
    simp [respond_eq_on, perform, bindQueue, withBinding, addLast, h]

/-- That nothing was taken out is seen by the length of what is left. -/
theorem respond_unbindQueue (vhost exchange queue key : String) :
    b.respond (.unbindQueue vhost exchange queue key) =
      if ⟨vhost, exchange, queue, key⟩ ∈ b.bindings then
        (.ok (), { b with bindings := b.bindings.filter (· ≠ ⟨vhost, exchange, queue, key⟩) })
      else (.error (.notFound s!"binding {exchange} -> {queue}"), b) := by
  simp only [respond_eq_on, perform, unbindQueue, Action.on_get_bind, Action.on_modify_bind,
    Action.on_ite]
  by_cases h : (⟨vhost, exchange, queue, key⟩ : Binding) ∈ b.bindings
  · have hlt : (b.bindings.filter (· ≠ ⟨vhost, exchange, queue, key⟩)).length <
        b.bindings.length :=
      List.length_filter_lt_length_iff_exists.2 ⟨_, h, by simp⟩
    rw [if_neg (Nat.ne_of_lt hlt), if_pos h, Action.on_pure]
  · have hall : b.bindings.filter (· ≠ ⟨vhost, exchange, queue, key⟩) = b.bindings := by
      refine List.filter_eq_self.2 fun x hx => ?_
      have hne : x ≠ ⟨vhost, exchange, queue, key⟩ := fun he => h (he ▸ hx)
      simp [hne]
    rw [hall, if_pos rfl, if_neg h, Action.on_throw]

/-! ## Users and virtual hosts -/

theorem respond_getUser (name : String) :
    b.respond (.getUser name) =
      if b.users.contains name then (.ok ⟨name⟩, b)
      else (.error (.notFound s!"user {name}"), b) := by
  cases h : b.users.contains name <;> simp [respond_eq_on, perform, getUser, h]

theorem respond_createUser (name password : String) :
    b.respond (.createUser name password) =
      if b.users.contains name then (.error (.alreadyExists s!"user {name}"), b)
      else (.ok (), { b with users := b.users.insert name password }) := by
  simp [respond_eq_on, perform, createUser]

theorem respond_updateUserPassword (name password : String) :
    b.respond (.updateUserPassword name password) =
      if b.users.contains name then (.ok (), { b with users := b.users.insert name password })
      else (.error (.notFound s!"user {name}"), b) := by
  cases h : b.users.contains name <;> simp [respond_eq_on, perform, updateUserPassword, h]

theorem respond_createVhost (name : String) :
    b.respond (.createVhost name) =
      if b.vhosts.contains name then (.error (.alreadyExists s!"vhost {name}"), b)
      else (.ok (), { b with vhosts := b.vhosts.insert name () }) := by
  simp only [respond_eq_on, perform, createVhost, Action.on_get_bind, Action.on_modify_bind,
    Action.on_ite]
  cases h : b.vhosts.contains name with
  | true =>
    obtain ⟨v, hv⟩ := Directory.contains_iff.1 h
    simp [Directory.insert_get? hv]
  | false => simp

theorem respond_deleteVhost (name : String) :
    b.respond (.deleteVhost name) =
      if b.vhosts.contains name then (.ok (), { b with vhosts := b.vhosts.erase name })
      else (.error (.notFound s!"vhost {name}"), b) := by
  simp only [respond_eq_on, perform, deleteVhost, Action.on_get_bind, Action.on_modify_bind,
    Action.on_ite]
  cases h : b.vhosts.contains name with
  | true => simp
  | false => simp [Directory.erase_of_not_contains h]

theorem respond_listVhosts : b.respond .listVhosts = (.ok b.vhosts.keys, b) := rfl

/-! ## Grants and messages -/

theorem respond_getUserPermissions (vhost user : String) :
    b.respond (.getUserPermissions vhost user) =
      match b.grants.get? ⟨vhost, user⟩ with
      | some g => (.ok g, b)
      | none => (.error (.notFound s!"permissions for {user} on {vhost}"), b) := by
  cases h : b.grants.get? ⟨vhost, user⟩ <;> simp [respond_eq_on, perform, getUserPermissions, h]

theorem respond_setUserPermissions (vhost user : String) (g : Access.Grant) :
    b.respond (.setUserPermissions vhost user g) =
      if b.faults.setPermissions then (.error (injected s!"/api/permissions/{vhost}/{user}"), b)
      else if b.users.contains user then
        (.ok (), { b with grants := b.grants.insert ⟨vhost, user⟩ g })
      else (.error (.notFound s!"user {user}"), b) := by
  cases h : b.users.contains user <;> simp [respond_eq_on, perform, setUserPermissions, h]

theorem respond_publish (vhost exchange key : String) (body : ByteArray) :
    b.respond (.publish vhost exchange key body) =
      if b.faults.publish then
        (.error (injected s!"/api/exchanges/{vhost}/{exchange}/publish"), b)
      else if b.exchanges.contains ⟨vhost, exchange⟩ then
        (.ok (), { b with published := b.published ++ [⟨vhost, exchange, key, body⟩] })
      else (.error (.notFound s!"exchange {exchange}"), b) := by
  cases h : b.exchanges.contains ⟨vhost, exchange⟩ <;> simp [respond_eq_on, perform, publish, h]

/-! ## Questions -/

/-- The call asks for something and changes nothing. -/
def Call.IsQuestion : Call → Prop
  | .getExchange .. | .listExchangeBindings .. | .listQueueBindings .. | .getUser _ | .listVhosts
  | .getUserPermissions .. => True
  | _ => False

theorem respond_of_isQuestion {c : Call} (h : c.IsQuestion) : (b.respond c).2 = b := by
  cases c with
  | getExchange vhost name => rw [respond_getExchange]; split <;> rfl
  | listExchangeBindings vhost name => rw [respond_listExchangeBindings]; split <;> rfl
  | listQueueBindings vhost name => rw [respond_listQueueBindings]; split <;> rfl
  | getUser name => rw [respond_getUser]; split <;> rfl
  | listVhosts => rw [respond_listVhosts]
  | getUserPermissions vhost user => rw [respond_getUserPermissions]; split <;> rfl
  | _ => exact h.elim

end BrokerControl.Broker
