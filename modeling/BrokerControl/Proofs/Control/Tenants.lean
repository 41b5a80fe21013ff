import BrokerControl.Proofs.Control.Callbacks
import BrokerControl.Proofs.Control.Rights
import BrokerControl.Proofs.Control.Runs

/-! # Subscriptions that leave each other alone

All bindings are in one list, all grants and all rows in one directory each. An operation on a
subscription changes its own entries only, whatever fails in it: those of one queue and one user,
or those of one row and new bindings of the queue that all callbacks share. -/

namespace BrokerControl.Control

open Access (Right)
open Broker (Address Binding)

variable {w w' w'' : World} {s : Settings} {q : Address} {c id : String} {e : Effect}

/-! ## What effects are about -/

/-- The effect is about a queue or a user, or an event is counted. -/
inductive Effect.OnStream (q : Address) (c : String) : Effect → Prop
  | createQueue : OnStream q c (.broker (.createQueue q.vhost q.name))
  | deleteQueue : OnStream q c (.broker (.deleteQueue q.vhost q.name))
  | bindQueue (exchange key : String) :
    OnStream q c (.broker (.bindQueue q.vhost exchange q.name key))
  | createUser (password : String) : OnStream q c (.broker (.createUser c password))
  | setGrant (vhost : String) (g : Access.Grant) :
    OnStream q c (.broker (.setUserPermissions vhost c g))
  | insertCredential (hash : String) (now : Timestamp) :
    OnStream q c (.registry (.insertCredential ⟨c, hash, now⟩))
  | updatePassword (hash : String) : OnStream q c (.registry (.updatePassword c hash))
  | count (event : Event) : OnStream q c (.count event)

/-- The effect is about a row, binds the queue of the callbacks or publishes a message, or an event
is counted. -/
inductive Effect.OnCallback (q : Address) (id : String) : Effect → Prop
  | bindQueue (exchange key : String) :
    OnCallback q id (.broker (.bindQueue q.vhost exchange q.name key))
  | publish (vhost exchange key : String) (body : ByteArray) :
    OnCallback q id (.broker (.publish vhost exchange key body))
  | insert (row : Registry.Callback) (hid : row.subscriptionId = id) :
    OnCallback q id (.registry (.insertCallback row))
  | update (entities : List String) : OnCallback q id (.registry (.updateEntities id entities))
  | delete : OnCallback q id (.registry (.deleteCallback id))
  | count (event : Event) : OnCallback q id (.count event)

variable {u v : String}

theorem MakesUser.onStream (h : MakesUser v c e) : e.OnStream q c := by
  cases h with
  | create password => exact .createUser password
  | deny => exact .setGrant v .denyAll
  | record hash now => exact .insertCredential hash now
  | renew hash => exact .updatePassword hash

theorem ProvidesStream.onStream (h : ProvidesStream s id c e) :
    e.OnStream ⟨s.dataVhost, id⟩ c := by
  cases h with
  | make => exact .createQueue
  | bind exchange key => exact .bindQueue exchange key
  | grant g => exact .setGrant s.dataVhost g
  | delete => exact .deleteQueue
  | count _ => exact .count _

/-! ## What operations are about -/

namespace Operation

variable {op : Operation}

/-- The operation manages the queue of a streaming subscription for a consumer. -/
def OnStream (queue consumer : String) : Operation → Prop
  | .registerStreaming r | .updateStreaming r =>
    r.consumer = consumer ∧ ∀ id, subscriptionId r.consumer r.name = .ok id → id = queue
  | .appendStreaming r => r.subscriptionId = queue
  | .deleteStreaming r => r.consumer = consumer ∧ r.subscriptionId = queue
  | _ => False

/-- The operation manages the row of a callback subscription. -/
def OnCallback (id : String) : Operation → Prop
  | .registerCallback r | .updateCallback r =>
    ∀ id', subscriptionId r.consumer r.name = .ok id' → id' = id
  | .deleteCallback r => ∀ id', subscriptionId r.consumer r.name = .ok id' → id' = id
  | _ => False

theorem Asks.onStream (h : op.Asks s e) (hop : op.OnStream id c) :
    e.OnStream ⟨s.dataVhost, id⟩ c := by
  cases h with
  | provideStream hid h | replaceStream hid h =>
    obtain ⟨rfl, hqueue⟩ := hop
    obtain rfl := hqueue _ hid
    exact h.onStream
  | extendStream exchange key =>
    obtain rfl := hop
    exact .bindQueue exchange key
  | deleteStream =>
    obtain ⟨-, rfl⟩ := hop
    exact .deleteQueue
  | revokeRead g =>
    obtain ⟨rfl, -⟩ := hop
    exact .setGrant s.dataVhost g
  | _ => exact hop.elim

theorem Asks.onCallback (h : op.Asks s e) (hop : op.OnCallback id) :
    e.OnCallback (callbackAddress s) id := by
  cases h with
  | bindCallback exchange key | rebindCallback exchange key => exact .bindQueue exchange key
  | announceCallback key message | announceUpdate key message | announceDeletion key message =>
    exact .publish _ _ key message
  | insertCallback hid => exact .insert _ (hop _ hid)
  | updateCallback entities hid =>
    obtain rfl := hop _ hid
    exact .update entities
  | takeCallback hid | deleteCallback hid =>
    obtain rfl := hop _ hid
    exact .delete
  | countCallback _ => exact .count _
  | _ => exact hop.elim

theorem OnStream.user (hop : op.OnStream id c) (huser : op.user? s = some (u, v)) : u = c := by
  cases op <;> cases huser
  · exact hop.elim
  · exact hop.1
  · exact hop.1
  · exact hop.elim

end Operation

/-! ## Relations that hold through a plan -/

namespace World

/-- What each part of a plan makes of the world is put together. -/
theorem closed_related {R : World → World → Prop}
    (hsame : ∀ {w w' : World}, w'.broker = w.broker → w'.registry = w.registry → R w w')
    (htrans : ∀ {w w' w'' : World}, R w w' → R w' w'' → R w w'') (w : World) :
    Plan.Closed fun _ p => ∀ w', R w w' → R w (w'.runPlan p).2 :=
  closed_preserves fun _ he w' hw' =>
    htrans hw' (hsame (handle_of_isPassive he w').1 (handle_of_isPassive he w').2)

/-! ## Worlds that differ in one stream -/

/-- Apart from one queue with its bindings and one user nothing is different. -/
structure SameButStream (q : Address) (c : String) (w w' : World) : Prop where
  vhosts : w'.broker.vhosts = w.broker.vhosts
  exchanges : w'.broker.exchanges = w.broker.exchanges
  queues : ∀ a, a ≠ q → w'.broker.queues.get? a = w.broker.queues.get? a
  bindings : w'.broker.bindings.filter (·.target ≠ q) = w.broker.bindings.filter (·.target ≠ q)
  users : ∀ u, u ≠ c → w'.broker.users.get? u = w.broker.users.get? u
  grants : ∀ a : Address, a.name ≠ c → w'.broker.grants.get? a = w.broker.grants.get? a
  published : w'.broker.published = w.broker.published
  credentials : ∀ u, u ≠ c → w'.registry.credentials.get? u = w.registry.credentials.get? u
  callbacks : w'.registry.callbacks = w.registry.callbacks

namespace SameButStream

theorem of_same (hbroker : w'.broker = w.broker) (hregistry : w'.registry = w.registry) :
    w.SameButStream q c w' := by
  constructor <;> simp [hbroker, hregistry]

theorem refl (w : World) : w.SameButStream q c w := .of_same rfl rfl

theorem trans (h : w.SameButStream q c w') (h' : w'.SameButStream q c w'') :
    w.SameButStream q c w'' where
  vhosts := h'.vhosts.trans h.vhosts
  exchanges := h'.exchanges.trans h.exchanges
  queues a ha := (h'.queues a ha).trans (h.queues a ha)
  bindings := h'.bindings.trans h.bindings
  users u hu := (h'.users u hu).trans (h.users u hu)
  grants a ha := (h'.grants a ha).trans (h.grants a ha)
  published := h'.published.trans h.published
  credentials u hu := (h'.credentials u hu).trans (h.credentials u hu)
  callbacks := h'.callbacks.trans h.callbacks

theorem handle (h : e.OnStream q c) (w : World) : w.SameButStream q c (handle e w).2 := by
  have hsame : w.SameButStream q c w := .refl w
  cases h with
  | count event => exact .of_same rfl rfl
  | createQueue =>
    rw [handle_broker, Broker.respond_createQueue]
    split
    · exact hsame
    · exact { hsame with
        queues := fun a ha => by simp [Directory.get?_insert, Ne.symm ha] }
  | deleteQueue =>
    rw [handle_broker, Broker.respond_deleteQueue]
    split <;> [skip; split]
    · exact hsame
    · refine { hsame with queues := fun a ha => ?_, bindings := ?_ }
      · simp [Broker.withoutQueue, Directory.get?_erase, Ne.symm ha]
      · simp [Broker.withoutQueue]
    · exact hsame
  | bindQueue exchange key =>
    rw [handle_broker, Broker.respond_bindQueue]
    split <;> [skip; split <;> [skip; split]]
    · exact hsame
    · exact hsame
    · exact hsame
    · refine { hsame with bindings := ?_ }
      exact filter_addLast_of_not _ (by simp [Binding.target])
  | createUser password =>
    rw [handle_broker, Broker.respond_createUser]
    split
    · exact hsame
    · exact { hsame with users := fun u hu => by simp [Directory.get?_insert, Ne.symm hu] }
  | setGrant vhost g =>
    rw [handle_broker, Broker.respond_setUserPermissions]
    split <;> [skip; split]
    · exact hsame
    · refine { hsame with grants := fun a ha => ?_ }
      have hne : (⟨vhost, c⟩ : Address) ≠ a := fun he => ha (he ▸ rfl)
      simp [Directory.get?_insert, hne]
    · exact hsame
  | insertCredential hash now =>
    rw [handle_registry, Registry.respond_insertCredential]
    split <;> [skip; split]
    · exact hsame
    · exact hsame
    · exact { hsame with
        credentials := fun u hu => by simp [Directory.get?_insert, Ne.symm hu] }
  | updatePassword hash =>
    rw [handle_registry, Registry.respond_updatePassword]
    split <;> [skip; split]
    · exact hsame
    · exact { hsame with
        credentials := fun u hu => by simp [Directory.get?_insert, Ne.symm hu] }
    · exact hsame

end SameButStream

theorem sameButStream_run {op : Operation} {queue : String} (hop : op.OnStream queue c)
    (w : World) (s : Settings) :
    w.SameButStream ⟨s.dataVhost, queue⟩ c (w.run s op).2 := by
  have hC := closed_related (R := SameButStream ⟨s.dataVhost, queue⟩ c) .of_same .trans w
  have hstep {e : Effect} (he : e.OnStream ⟨s.dataVhost, queue⟩ c) (w' : World)
      (hw' : w.SameButStream ⟨s.dataVhost, queue⟩ c w') :
      w.SameButStream ⟨s.dataVhost, queue⟩ c (World.handle e w').2 := hw'.trans (.handle he w')
  refine Operation.procedure_closed hC s op (fun u v huser => ?_) (fun u hreset => ?_)
    (fun e he => hstep (he.onStream hop)) w (.refl w)
  · obtain rfl := hop.user huser
    exact ensureUser_closed hC fun e he => hstep he.onStream
  · subst hreset
    exact hop.elim

/-! ## Worlds that differ in one callback -/

/-- Apart from one row and new bindings of one queue nothing is different. The published messages
are not looked at. -/
structure SameButCallback (q : Address) (id : String) (w w' : World) : Prop where
  vhosts : w'.broker.vhosts = w.broker.vhosts
  exchanges : w'.broker.exchanges = w.broker.exchanges
  queues : w'.broker.queues = w.broker.queues
  bindings : w'.broker.bindings.filter (·.target ≠ q) = w.broker.bindings.filter (·.target ≠ q)
  /-- New bindings come after those that were there. -/
  kept : w.broker.bindings <+: w'.broker.bindings
  users : w'.broker.users = w.broker.users
  grants : w'.broker.grants = w.broker.grants
  credentials : w'.registry.credentials = w.registry.credentials
  callbacks : ∀ id', id' ≠ id → w'.registry.callbacks.get? id' = w.registry.callbacks.get? id'

namespace SameButCallback

theorem of_same (hbroker : w'.broker = w.broker) (hregistry : w'.registry = w.registry) :
    w.SameButCallback q id w' := by
  constructor <;> simp [hbroker, hregistry]

theorem refl (w : World) : w.SameButCallback q id w := .of_same rfl rfl

theorem trans (h : w.SameButCallback q id w') (h' : w'.SameButCallback q id w'') :
    w.SameButCallback q id w'' where
  vhosts := h'.vhosts.trans h.vhosts
  exchanges := h'.exchanges.trans h.exchanges
  queues := h'.queues.trans h.queues
  bindings := h'.bindings.trans h.bindings
  kept := h.kept.trans h'.kept
  users := h'.users.trans h.users
  grants := h'.grants.trans h.grants
  credentials := h'.credentials.trans h.credentials
  callbacks id' hid := (h'.callbacks id' hid).trans (h.callbacks id' hid)

theorem handle (h : e.OnCallback q id) (w : World) : w.SameButCallback q id (handle e w).2 := by
  have hsame : w.SameButCallback q id w := .refl w
  cases h with
  | count event => exact .of_same rfl rfl
  | bindQueue exchange key =>
    rw [handle_broker, Broker.respond_bindQueue]
    split <;> [skip; split <;> [skip; split]]
    · exact hsame
    · exact hsame
    · exact hsame
    · refine { hsame with bindings := ?_, kept := ?_ }
      · exact filter_addLast_of_not _ (by simp [Binding.target])
      · exact prefix_addLast _ _
  | publish vhost exchange key body =>
    rw [handle_broker, Broker.respond_publish]
    split <;> [skip; split] <;> exact { hsame with }
  | insert row hid =>
    rw [handle_registry, Registry.respond_insertCallback]
    split <;> [skip; split]
    · exact hsame
    · exact hsame
    · refine { hsame with callbacks := fun id' hid' => ?_ }
      rw [← hid] at hid'
      simp [Directory.get?_insert, Ne.symm hid']
  | update entities =>
    rw [handle_registry, Registry.respond_updateEntities]
    split <;> [skip; split]
    · exact hsame
    · exact { hsame with
        callbacks := fun id' hid' => by simp [Directory.get?_insert, Ne.symm hid'] }
    · exact hsame
  | delete =>
    rw [handle_registry, Registry.respond_deleteCallback]
    split <;> [skip; split]
    · exact hsame
    · exact { hsame with
        callbacks := fun id' hid' => by simp [Directory.get?_erase, Ne.symm hid'] }
    · exact hsame

end SameButCallback

theorem sameButCallback_run {op : Operation} (hop : op.OnCallback id) (w : World) (s : Settings) :
    w.SameButCallback (callbackAddress s) id (w.run s op).2 := by
  have hC := closed_related (R := SameButCallback (callbackAddress s) id) .of_same .trans w
  refine Operation.procedure_closed hC s op (fun u v huser => ?_) (fun u hreset => ?_)
    (fun e he w' hw' => hw'.trans (.handle (he.onCallback hop) w')) w (.refl w)
  · cases op <;> cases huser <;> exact hop.elim
  · subst hreset
    exact hop.elim

end World

/-! ## Operations -/

/-- Operations on streams change nothing but rights to read. -/
theorem sameRight_of_onStream (hwell : w.broker.WellFormed) {op : Operation} {queue : String}
    (hop : op.OnStream queue c) {right : Right} (hright : right ≠ .read) :
    w.broker.SameRight right (w.run s op).2.broker := by
  refine sameRight_run hwell (fun a ha => ?_) (fun v u edit id he => ?_) hright.symm
  · cases op with
    | registerAdaptor r | deleteAdaptor r => exact hop
    | _ => exact ha
  · subst he
    exact hop

/-- Whatever an operation on a subscription comes to, it changes nothing for the others. One on the
queue of a stream leaves all exchanges, rows of callbacks and messages alone, all other queues and
their bindings, all other users, and what its consumer may write or configure; one on a callback
leaves all exchanges, queues and users alone, all bindings but those that it adds to the queue of
the callbacks, and all other rows. -/
theorem subscriptions_do_not_interfere (hb : w.broker.Reachable) (s : Settings) (op : Operation) :
    (∀ queue consumer, op.OnStream queue consumer →
      w.SameButStream ⟨s.dataVhost, queue⟩ consumer (w.run s op).2 ∧
        ∀ right, right ≠ .read → w.broker.SameRight right (w.run s op).2.broker) ∧
      ∀ id, op.OnCallback id → w.SameButCallback (callbackAddress s) id (w.run s op).2 :=
  ⟨fun _ _ hop => ⟨World.sameButStream_run hop w s, fun _ hright =>
    sameRight_of_onStream hb.wellFormed hop hright⟩,
    fun _ hop => World.sameButCallback_run hop w s⟩

/-- An update that fails and a deletion leave another queue and another row where they are. -/
theorem subscriptions_do_not_interfere_failed_update :
    let now : Timestamp := ⟨⟨2024, 1, 1, by decide⟩, 0, 0, 0, by decide⟩
    let feed := "org.com/87f1341caf0852005b8353bdf3bc661feb11b513/feed"
    let row : Registry.Callback := ⟨feed, "https://org.com/in", ["a/b/c/d/e"], now, now, now⟩
    let w := ((World.new (fun _ => "secret") now).withBroker
      (({} : Broker).respond (.createQueue "IUDX" feed)).2).withRegistry
      { callbacks := (∅ : Directory String Registry.Callback).insert feed row }
    let update := w.run {} (.updateStreaming ⟨"user@org.com", "alarm", ["a/b/c/d/e"]⟩)
    let delete := w.run {} (.deleteCallback ⟨"user@org.com", "alarm"⟩)
    w.broker.Reachable ∧ update.1.isOk = false ∧
      update.2.broker.queues.get? ⟨"IUDX", feed⟩ = some () ∧
      delete.2.registry.callbacks.get? feed = some row := by
  intro now feed row w update delete
  have hb : w.broker.Reachable := Broker.Reachable.new.call _
  have hfails : update.1.isOk = false := by decide +kernel
  have hqueue : w.broker.queues.get? ⟨"IUDX", feed⟩ = some () := by decide +kernel
  have hrow : w.registry.callbacks.get? feed = some row := by decide +kernel
  have hid : subscriptionId "user@org.com" "alarm" =
      .ok "org.com/87f1341caf0852005b8353bdf3bc661feb11b513/alarm" := by decide +kernel
  clear_value w
  have hupdate := (subscriptions_do_not_interfere hb {}
    (.updateStreaming ⟨"user@org.com", "alarm", ["a/b/c/d/e"]⟩)).1 _ "user@org.com"
    ⟨rfl, fun id h => Except.ok.inj (h.symm.trans hid)⟩
  have hdelete := (subscriptions_do_not_interfere hb {}
    (.deleteCallback ⟨"user@org.com", "alarm"⟩)).2 _
    fun id h => Except.ok.inj (h.symm.trans hid)
  refine ⟨hb, hfails, ?_, ?_⟩
  · exact (hupdate.1.queues ⟨"IUDX", feed⟩ (by decide)).trans hqueue
  · exact (hdelete.callbacks feed (by decide)).trans hrow

end BrokerControl.Control
