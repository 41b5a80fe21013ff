import BrokerControl.Control.Operation
import BrokerControl.Proofs.Control.Callbacks
import BrokerControl.Proofs.Control.Runs
import BrokerControl.Proofs.Control.Subscription
import BrokerControl.Proofs.Control.Users

/-! # What decides a registration

A registration is held to conditions on the request, on the broker and on the registry, in a fixed
order. Where no call is made to fail, the first condition that does not hold says how the request
fails, and a request for which all hold succeeds. -/

namespace BrokerControl.Control

open Access (AdaptorId Edit)
open Broker (Address)

variable {α β : Type} {w : World} {s : Settings}

/-! ## Conditions in order -/

/-- What a request is held to, and how it fails where that does not hold. -/
structure Condition where
  holds : Bool
  failure : Failure

/-- The failure of the first condition that does not hold. -/
def firstViolated (cs : List Condition) : Option Failure :=
  (cs.find? fun c => !c.holds).map (·.failure)

section Conditions

variable {c : Condition} {cs ds : List Condition}

theorem firstViolated_append :
    firstViolated (cs ++ ds) = (firstViolated cs).or (firstViolated ds) := by
  unfold firstViolated
  rw [List.find?_append, Option.map_or]

theorem firstViolated_cons_of_holds (h : c.holds = true) :
    firstViolated (c :: cs) = firstViolated cs := by
  simp [firstViolated, h]

theorem firstViolated_cons_of_not_holds (h : c.holds = false) :
    firstViolated (c :: cs) = some c.failure := by
  simp [firstViolated, h]

theorem firstViolated_eq_none_iff : firstViolated cs = none ↔ ∀ c ∈ cs, c.holds = true := by
  simp [firstViolated]

theorem firstViolated_flatMap_congr {f g : α → List Condition} {xs : List α}
    (h : ∀ x, firstViolated (f x) = firstViolated (g x)) :
    firstViolated (xs.flatMap f) = firstViolated (xs.flatMap g) := by
  induction xs with
  | nil => rfl
  | cons x xs ih => simp only [List.flatMap_cons, firstViolated_append, h x, ih]

end Conditions

/-- The result is a failure exactly where a condition does not hold, and it is that of the first. -/
structure DecidedBy (x : Except Failure α) (cs : List Condition) : Prop where
  failure : ∀ f, x = .error f ↔ firstViolated cs = some f
  success : (∃ a, x = .ok a) ↔ ∀ c ∈ cs, c.holds = true

/-- Carrying the procedure out ends as the conditions say, in a world as in `ok` if all hold. -/
def World.Settles (w : World) (p : Procedure α) (cs : List Condition) (ok : α → World → Prop) :
    Prop :=
  w.Ends p (fun a w' => firstViolated cs = none ∧ ok a w') fun f _ => firstViolated cs = some f

namespace World.Settles

variable {cs ds : List Condition} {p : Procedure α} {ok : α → World → Prop}

theorem decides (h : w.Settles p cs ok) : DecidedBy (w.exec p).1 cs := by
  refine Ends.of_both (P := fun x _ => DecidedBy x cs) (h.mono ?_ ?_)
  · rintro a w' ⟨hnone, -⟩
    exact ⟨fun f => by simp [hnone], by simpa using firstViolated_eq_none_iff.1 hnone⟩
  · intro f w' hsome
    refine ⟨fun g => by simp [hsome], ?_⟩
    rw [← firstViolated_eq_none_iff, hsome]
    simp

theorem congr (h : w.Settles p cs ok) (heq : firstViolated cs = firstViolated ds) :
    w.Settles p ds ok := by
  unfold Settles at h ⊢
  rwa [← heq]

theorem of_ends (h : w.Ends p ok fun _ _ => False) : w.Settles p [] ok :=
  h.mono (fun _ _ hok => ⟨rfl, hok⟩) fun _ _ hfalse => hfalse.elim

/-- The conditions of the first part come first. -/
theorem bind {mid : β → World → Prop} {p : Procedure β} {f : β → Procedure α}
    (h : w.Settles p cs mid) (hrest : ∀ b w', mid b w' → w'.Settles (f b) ds ok) :
    w.Settles (p >>= f) (cs ++ ds) ok := by
  refine Ends.bind (Ends.mono h ?_ ?_)
  · rintro b w' ⟨hnone, hmid⟩
    rw [firstViolated_append, hnone, Option.none_or]
    exact hrest b w' hmid
  · intro f w' hsome
    rw [firstViolated_append, hsome, Option.some_or]

/-- A first part that cannot fail adds no condition. -/
theorem bind_of_ends {mid : β → World → Prop} {p : Procedure β} {f : β → Procedure α}
    (h : w.Ends p mid fun _ _ => False) (hrest : ∀ b w', mid b w' → w'.Settles (f b) ds ok) :
    w.Settles (p >>= f) ds ok :=
  (of_ends h).bind hrest

/-- Nor does a last part that cannot fail. -/
theorem bind_ends {mid : β → World → Prop} {p : Procedure β} {f : β → Procedure α}
    (h : w.Settles p cs mid) (hrest : ∀ b w', mid b w' → w'.Ends (f b) ok fun _ _ => False) :
    w.Settles (p >>= f) cs ok :=
  (h.bind fun b w' hmid => of_ends (hrest b w' hmid)).congr (congrArg _ (List.append_nil cs))

theorem pure {a : α} (h : ok a w) : w.Settles (pure a) [] ok := .of_ends (.pure h)

/-- How a saga is undone does not change how its step failed. -/
theorem guarded {saga : Saga Creation} (h : w.Settles p cs ok) :
    w.Settles (saga.guarded p) cs ok :=
  Ends.guarded h

/-- A demand adds its condition. -/
theorem demand_bind {condition : Bool} {message : String} {f : Unit → Procedure α}
    (h : w.Settles (f ()) cs ok) :
    w.Settles (Procedure.demand condition message >>= f)
      (⟨condition, .validation message⟩ :: cs) ok := by
  refine Ends.bind (Ends.demand (fun hholds => ?_) fun hnot => firstViolated_cons_of_not_holds hnot)
  exact h.congr (firstViolated_cons_of_holds hholds).symm

end World.Settles

/-! ## Users -/

/-- No call is made to fail, and the user is there. -/
structure World.Serves (w : World) (u : String) : Prop where
  faults : w.broker.faults = {}
  user : w.broker.users.contains u = true

/-- Where nothing is made to fail, there is a user in the end and messages take the same ways. -/
theorem ensureUser_succeeds (hb : w.broker.faults = {}) (hr : w.registry.rejectsWrites = false)
    (u v : String) :
    w.Ends (ensureUser u v) (fun _ w' => w'.Serves u ∧ w'.broker.topology = w.broker.topology)
      fun _ _ => False := by
  refine (ensureUser_issues w u v).mono ?_ ?_
  · rintro c w' (⟨hu, -, rfl⟩ | ⟨-, -, -, -, hbroker⟩)
    · exact ⟨⟨hb, hu⟩, rfl⟩
    · rw [hbroker]
      refine ⟨⟨by rw [hbroker]; exact hb, ?_⟩, rfl⟩
      simp [hbroker, Broker.admitting, Directory.contains_insert]
  · rintro f w' ⟨-, hcannot, -⟩
    exact hcannot ⟨by rw [hb], hr⟩

theorem updatePermissions_succeeds {u : String} (h : w.Serves u) (v : String) (edit : Edit)
    (resource : String) :
    w.Ends (updatePermissions v u edit resource) (fun _ w' => w'.Serves u ∧
        w'.broker.topology = w.broker.topology)
      fun _ _ => False := by
  refine ((updatePermissions_edits v u edit resource).and (updatePermissions_fails ..)).mono ?_ ?_
  · rintro - w' ⟨rfl, -⟩
    exact ⟨⟨h.faults, h.user⟩, rfl⟩
  · rintro f w' ⟨-, hfault | hnot⟩
    · simp [h.faults] at hfault
    · cases h.user.symm.trans hnot

/-! ## Bindings -/

/-- An exchange and a queue can be bound if they are there, the exchange being looked for first. -/
def bindConditions (b : Broker) (context vhost exchange queue : String) : List Condition :=
  [⟨b.exchanges.contains ⟨vhost, exchange⟩, .remote context (.notFound s!"exchange {exchange}")⟩,
    ⟨b.queues.contains ⟨vhost, queue⟩, .remote context (.notFound s!"queue {queue}")⟩]

theorem bindQueue_settles (hb : w.broker.faults = {}) (context vhost exchange queue key : String) :
    w.Settles (Procedure.require (.bindQueue vhost exchange queue key) (.remote context))
      (bindConditions w.broker context vhost exchange queue)
      fun _ w' => w' = w.withBroker (w.broker.withBinding ⟨vhost, exchange, queue, key⟩) := by
  have hbind := w.broker.respond_bindQueue vhost exchange queue key
  simp only [hb, List.contains_nil, Bool.false_eq_true, if_false, Bool.not_eq_true'] at hbind
  cases hexchange : w.broker.exchanges.contains ⟨vhost, exchange⟩ with
  | false =>
    rw [hexchange, if_pos rfl] at hbind
    refine .require (fun _ b h => ?_) fun e h => ?_ <;> cases hbind.symm.trans h
    exact firstViolated_cons_of_not_holds hexchange
  | true =>
    cases hqueue : w.broker.queues.contains ⟨vhost, queue⟩ with
    | false =>
      rw [hexchange, hqueue, if_neg Bool.noConfusion, if_pos rfl] at hbind
      refine .require (fun _ b h => ?_) fun e h => ?_ <;> cases hbind.symm.trans h
      rw [bindConditions, firstViolated_cons_of_holds hexchange]
      exact firstViolated_cons_of_not_holds hqueue
    | true =>
      rw [hexchange, hqueue, if_neg Bool.noConfusion, if_neg Bool.noConfusion] at hbind
      refine .require (fun _ b h => ?_) fun e h => ?_ <;> cases hbind.symm.trans h
      refine ⟨?_, rfl⟩
      rw [bindConditions, firstViolated_cons_of_holds hexchange,
        firstViolated_cons_of_holds hqueue]
      rfl

/-- Every queue of the fan-out has to be there. -/
def fanOutConditions (b : Broker) (vhost : String) (pairs : List (String × String)) :
    List Condition :=
  pairs.map fun (queue, _) => ⟨b.queues.contains ⟨vhost, queue⟩,
    .remote "Queue binding failed" (.notFound s!"queue {queue}")⟩

theorem fanOutConditions_congr {b b' : Broker} (h : b.topology = b'.topology) (vhost : String)
    (pairs : List (String × String)) :
    fanOutConditions b vhost pairs = fanOutConditions b' vhost pairs := by
  have hqueues : b.queues = b'.queues := congrArg Broker.Topology.queues h
  unfold fanOutConditions
  rw [hqueues]

theorem bindFanOut_settles {saga : Saga Creation} {a : Address} (pairs : List (String × String))
    (hb : w.broker.faults = {}) (hpresent : w.broker.exchanges.contains a = true) :
    w.Settles (bindFanOut saga a.vhost a.name pairs) (fanOutConditions w.broker a.vhost pairs)
      fun _ _ => True := by
  induction pairs generalizing w with
  | nil => exact .pure trivial
  | cons pair pairs ih =>
    obtain ⟨queue, key⟩ := pair
    have hfirst := (bindQueue_settles hb "Queue binding failed" a.vhost a.name queue key).congr
      (firstViolated_cons_of_holds hpresent)
    change w.Settles _ ([_] ++ fanOutConditions w.broker a.vhost pairs) _
    refine hfirst.guarded.bind ?_
    rintro - w₁ rfl
    exact ih (w := w.withBroker (w.broker.withBinding _)) hb hpresent

/-- A key has to be well formed, and then its exchange has to be there. -/
def keyConditions (b : Broker) (vhost key : String) : List Condition :=
  [⟨Access.isRoutingKey key, .validation s!"Invalid routing key: {key}"⟩,
    ⟨b.exchanges.contains ⟨vhost, exchangeOf key⟩,
      .remote "Binding failed" (.notFound s!"exchange {exchangeOf key}")⟩]

def queueCondition (b : Broker) (a : Address) : Condition :=
  ⟨b.queues.contains a, .remote "Binding failed" (.notFound s!"queue {a.name}")⟩

/-- Each key is held to its conditions before the next one is looked at. -/
theorem bindKeys_settles (a : Address) (keys : List String) (hb : w.broker.faults = {}) :
    w.Settles (bindKeys a.vhost a.name keys)
      (keys.flatMap fun key => keyConditions w.broker a.vhost key ++ [queueCondition w.broker a])
      fun _ w' => w' = w.withBroker (w.broker.withKeys a keys) := by
  induction keys generalizing w with
  | nil => exact .pure rfl
  | cons key keys ih =>
    cases hvalid : Access.isRoutingKey key with
    | false =>
      rw [bindKeys_cons_of_not_isRoutingKey hvalid]
      exact World.Ends.throw (firstViolated_cons_of_not_holds hvalid)
    | true =>
      rw [bindKeys_cons_of_isRoutingKey hvalid]
      refine ((bindQueue_settles hb "Binding failed" a.vhost (exchangeOf key) a.name key).bind
        fun _ w₁ h₁ => ?_).congr (firstViolated_cons_of_holds hvalid).symm
      subst h₁
      exact ih (w := w.withBroker (w.broker.withBinding _)) hb

/-! ## Adaptors -/

/-- An id of the right form, an owner, a free exchange and every queue of the fan-out. -/
def adaptorConditions (b : Broker) (s : Settings) (r : RegisterAdaptor) : List Condition :=
  match AdaptorId.ofString? r.adaptorId with
  | .error e => [⟨false, .ofMalformed e⟩]
  | .ok id =>
    ⟨!Text.isBlank r.owner, .validation "owner must not be empty"⟩ ::
    ⟨!b.exchanges.contains ⟨s.vhostOr r.vhost, id.text⟩,
      .conflict "exchange_exists" s!"Exchange {id.text} already exists"⟩ ::
    fanOutConditions b (s.vhostOr r.vhost) (fanOut s id)

/-- Once its exchange is there, only the queues decide. -/
private theorem setUp_settles {saga : Saga Creation} {a : Address} {owner : String} (x : α)
    (pairs : List (String × String)) (hserves : w.Serves owner)
    (hpresent : w.broker.exchanges.contains a = true) :
    w.Settles
      (do
        saga.guarded (updatePermissions a.vhost owner .addWrite a.name)
        bindFanOut saga a.vhost a.name pairs
        saga.complete (m := Plan)
        return x)
      (fanOutConditions w.broker a.vhost pairs) fun _ _ => True := by
  refine .bind_of_ends (.guarded (updatePermissions_succeeds hserves ..)) ?_
  rintro - w₁ ⟨hserves₁, htopology⟩
  have hexchanges : w₁.broker.exchanges = w.broker.exchanges :=
    congrArg Broker.Topology.exchanges htopology
  rw [← fanOutConditions_congr htopology]
  refine (bindFanOut_settles pairs hserves₁.faults ?_).bind_ends fun _ _ _ => ?_
  · rw [hexchanges]
    exact hpresent
  · exact .bind (.complete (.pure trivial))

theorem registerAdaptor_settles (r : RegisterAdaptor) (hb : w.broker.faults = {})
    (hr : w.registry.rejectsWrites = false) :
    w.Settles (registerAdaptor s r) (adaptorConditions w.broker s r) fun _ _ => True := by
  unfold registerAdaptor adaptorConditions readAdaptorId
  cases AdaptorId.ofString? r.adaptorId with
  | error e => exact World.Ends.bind (World.Ends.throw rfl)
  | ok id =>
    refine World.Ends.bind (World.Ends.pure ?_)
    refine World.Settles.demand_bind (.bind_of_ends (ensureUser_succeeds hb hr r.owner _) ?_)
    rintro credentials w₁ ⟨hserves, htopology⟩
    have hexchanges : w₁.broker.exchanges = w.broker.exchanges :=
      congrArg Broker.Topology.exchanges htopology
    rw [← fanOutConditions_congr htopology, ← hexchanges]
    refine World.Ends.bind (World.Ends.broker fun _ b h => ?_)
    rw [Broker.respond_createExchange] at h
    split at h <;> cases h
    · next hpresent =>
      exact World.Ends.throw (firstViolated_cons_of_not_holds (by simp [hpresent]))
    · next hfree =>
      refine World.Settles.congr ?_ (firstViolated_cons_of_holds (by simp [hfree])).symm
      refine setUp_settles (a := ⟨s.vhostOr r.vhost, id.text⟩) _ (fanOut s id)
        ⟨hserves.faults, hserves.user⟩ ?_
      simp [Directory.contains_insert]

/-! ## Subscriptions -/

/-- The id of a subscription whose consumer and name are not blank. -/
def idOf (consumer name : String) : String :=
  Text.join '/' [domainOf consumer, Digest.sha1Hex consumer, name]

def nameConditions (consumer name : String) : List Condition :=
  [⟨!Text.isBlank consumer, .validation "consumer must not be empty"⟩,
    ⟨!Text.isBlank name, .validation "name must not be empty"⟩]

def entitiesCondition (entities : List String) : Condition :=
  ⟨!entities.isEmpty, .validation "entities must not be empty"⟩

theorem subscriptionId_settles (consumer name : String) :
    w.Settles (ofExcept (subscriptionId consumer name)) (nameConditions consumer name)
      fun id w' => id = idOf consumer name ∧ w' = w := by
  unfold subscriptionId nameConditions
  cases hconsumer : Text.isBlank consumer with
  | true => exact World.Ends.throw rfl
  | false =>
    cases hname : Text.isBlank name with
    | true => exact World.Ends.throw rfl
    | false => exact World.Ends.pure ⟨rfl, rfl, rfl⟩

/-- A free queue, and every key with its exchange. -/
def streamConditions (b : Broker) (s : Settings) (id : String) (keys : List String) :
    List Condition :=
  ⟨!b.queues.contains ⟨s.dataVhost, id⟩,
    .conflict "queue_exists" s!"Queue {id} already exists"⟩ ::
  keys.flatMap (keyConditions b s.dataVhost)

/-- Entities, a consumer, a name, and what the queue needs. -/
def streamingConditions (b : Broker) (s : Settings) (r : StreamingRequest) : List Condition :=
  entitiesCondition r.entities :: (nameConditions r.consumer r.name ++
    streamConditions b s (idOf r.consumer r.name) r.entities)

theorem streamConditions_congr {b b' : Broker} (h : b.topology = b'.topology) (id : String)
    (keys : List String) : streamConditions b s id keys = streamConditions b' s id keys := by
  have hexchanges : b.exchanges = b'.exchanges := congrArg Broker.Topology.exchanges h
  have hqueues : b.queues = b'.queues := congrArg Broker.Topology.queues h
  unfold streamConditions keyConditions
  rw [hexchanges, hqueues]

/-- The queue is there once it was made, so that only the keys decide. -/
theorem provisionStream_settles {consumer : String} (hserves : w.Serves consumer) (id : String)
    (keys : List String) :
    w.Settles (provisionStream s id consumer keys) (streamConditions w.broker s id keys)
      fun _ _ => True := by
  unfold provisionStream streamConditions
  refine World.Ends.bind (World.Ends.broker fun _ b h => ?_)
  rw [Broker.respond_createQueue] at h
  split at h <;> cases h
  · next hpresent =>
    exact World.Ends.throw (firstViolated_cons_of_not_holds (by simp [hpresent]))
  · next hfree =>
    let a : Address := ⟨s.dataVhost, id⟩
    let b : Broker := { w.broker with queues := w.broker.queues.insert a () }
    have hmade : b.queues.contains a = true := by simp [b, Directory.contains_insert]
    have hkeys : firstViolated (keys.flatMap fun key =>
          keyConditions b a.vhost key ++ [queueCondition b a]) =
        firstViolated (keys.flatMap (keyConditions w.broker s.dataVhost)) := by
      refine firstViolated_flatMap_congr fun key => ?_
      rw [firstViolated_append, queueCondition, firstViolated_cons_of_holds hmade]
      exact Option.or_none
    refine World.Settles.congr ?_ (firstViolated_cons_of_holds (by simp [hfree])).symm
    have hbound := (bindKeys_settles (w := w.withBroker b) a keys hserves.faults).congr hkeys
    refine hbound.guarded.bind_ends fun _ w₁ h₁ => ?_
    subst h₁
    refine .bind (.guarded ((updatePermissions_succeeds (u := consumer) ?_ ..).mono ?_ ?_))
    · exact ⟨hserves.faults, hserves.user⟩
    · exact fun _ _ _ => .complete trivial
    · exact fun _ _ h => h

theorem registerStreaming_settles (r : StreamingRequest) (hb : w.broker.faults = {})
    (hr : w.registry.rejectsWrites = false) :
    w.Settles (registerStreaming s r) (streamingConditions w.broker s r) fun _ _ => True := by
  unfold registerStreaming streamingConditions
  refine .demand_bind ((subscriptionId_settles r.consumer r.name).bind ?_)
  rintro id w₁ ⟨rfl, rfl⟩
  refine .bind_of_ends (ensureUser_succeeds hb hr r.consumer _) ?_
  rintro credentials w₂ ⟨hserves, htopology⟩
  rw [← streamConditions_congr htopology]
  exact (provisionStream_settles hserves _ r.entities).bind_ends fun _ _ _ => .pure trivial

/-- A URL, entities, a consumer, a name, no row of that id, every key with its exchange and the
queue of the callbacks, and the exchange for announcements. -/
def callbackConditions (w : World) (s : Settings) (r : CallbackRequest) : List Condition :=
  ⟨!Text.isBlank r.callbackUrl, .validation "callback url must not be empty"⟩ ::
  entitiesCondition r.entities ::
  (nameConditions r.consumer r.name ++
    ⟨!w.registry.callbacks.contains (idOf r.consumer r.name),
      .duplicateSubscription (idOf r.consumer r.name)⟩ ::
    ((r.entities.flatMap fun key => keyConditions w.broker s.dataVhost key ++
        [queueCondition w.broker (callbackAddress s)]) ++
      [⟨w.broker.exchanges.contains ⟨s.internalVhost, s.notificationExchange⟩,
        .remote "Notification publish failed"
          (.notFound s!"exchange {s.notificationExchange}")⟩]))

theorem notify_settles (n : Notification) (hb : w.broker.faults = {}) :
    w.Settles (notify s n)
      [⟨w.broker.exchanges.contains ⟨s.internalVhost, s.notificationExchange⟩,
        .remote "Notification publish failed"
          (.notFound s!"exchange {s.notificationExchange}")⟩] fun _ _ => True := by
  refine World.Ends.require (fun _ b h => ?_) fun e h => ?_ <;>
    rw [Broker.respond_publish, hb, if_neg Bool.false_ne_true] at h <;>
    split at h <;> cases h
  · next hpresent => exact ⟨firstViolated_cons_of_holds hpresent, trivial⟩
  · next hfree => exact firstViolated_cons_of_not_holds (by simpa using hfree)

theorem registerCallback_settles (r : CallbackRequest) (hb : w.broker.faults = {})
    (hr : w.registry.rejectsWrites = false) :
    w.Settles (registerCallback s r) (callbackConditions w s r) fun _ _ => True := by
  unfold registerCallback callbackConditions
  refine .demand_bind (.demand_bind ((subscriptionId_settles r.consumer r.name).bind ?_))
  rintro id w₁ ⟨rfl, rfl⟩
  refine World.Ends.bind (World.Ends.registry fun found g h => ?_)
  rw [Registry.respond_getCallback] at h
  split at h <;> cases h
  · next hrow =>
    exact World.Ends.throw (firstViolated_cons_of_not_holds (by simp [Directory.contains, hrow]))
  · next hnew =>
    have hfree : w₁.registry.callbacks.contains (idOf r.consumer r.name) = false := by
      simp [Directory.contains, hnew]
    refine World.Settles.congr ?_ (firstViolated_cons_of_holds (by simp [hfree])).symm
    refine (bindKeys_settles (callbackAddress s) r.entities hb).bind fun _ w₂ h₂ => ?_
    subst h₂
    refine World.Ends.bind (World.Ends.readClock ?_)
    refine World.Ends.bind (World.Ends.registry fun saved g h => ?_)
    change w₁.registry.respond _ = _ at h
    rw [Registry.respond_insertCallback, hr, if_neg Bool.false_ne_true, hfree,
      if_neg Bool.false_ne_true] at h
    cases h
    refine World.Settles.bind_ends (.guarded (notify_settles _ ?_)) fun _ _ _ => ?_
    · exact hb
    · exact .bind (.complete (.pure trivial))

/-! ## Registrations -/

/-- Where no call is made to fail, a registration is decided by the conditions that it is held to:
the first that does not hold says how it fails, and it succeeds if they all hold. -/
theorem registrations_decided (w : World) (hb : w.broker.faults = {})
    (hr : w.registry.rejectsWrites = false) (s : Settings) :
    (∀ r, DecidedBy (w.run s (.registerAdaptor r)).1 (adaptorConditions w.broker s r)) ∧
      (∀ r, DecidedBy (w.run s (.registerStreaming r)).1 (streamingConditions w.broker s r)) ∧
      ∀ r, DecidedBy (w.run s (.registerCallback r)).1 (callbackConditions w s r) :=
  ⟨fun r => (registerAdaptor_settles r hb hr).decides,
    fun r => (registerStreaming_settles r hb hr).decides,
    fun r => (registerCallback_settles r hb hr).decides⟩

/-- An adaptor that nothing stands against, a missing exchange before a malformed key, and a
malformed key before a missing exchange. -/
theorem registrations_decided_after_bootstrap :
    let now : Timestamp := ⟨⟨2024, 1, 1, by decide⟩, 0, 0, 0, by decide⟩
    let w := (World.new (fun _ => "secret") now).after {} [.perform .bootstrap,
      .perform (.registerAdaptor ⟨"a/b/c/d", "alice", none⟩)]
    let keys := ["a/b/c/d/e", "v/w/x/y/z", "f"]
    w.broker.faults = {} ∧ w.registry.rejectsWrites = false ∧
      (∃ a, (w.run {} (.registerAdaptor ⟨"e/f/g/h", "bob", none⟩)).1 = .ok a) ∧
      (w.run {} (.registerStreaming ⟨"user@org", "feed", keys⟩)).1 =
        .error (.remote "Binding failed" (.notFound "exchange v/w/x/y")) ∧
      (w.run {} (.registerCallback ⟨"user@org", "feed", "https://org/in", keys.reverse⟩)).1 =
        .error (.validation "Invalid routing key: f") := by
  intro now w keys
  have hb : w.broker.faults = {} := by decide +kernel
  have hr : w.registry.rejectsWrites = false := by decide +kernel
  obtain ⟨hadaptor, hstreaming, hcallback⟩ := registrations_decided w hb hr {}
  refine ⟨hb, hr, (hadaptor _).success.2 ?_, ((hstreaming _).failure _).2 ?_,
    ((hcallback _).failure _).2 ?_⟩ <;>
    decide +kernel

end BrokerControl.Control
