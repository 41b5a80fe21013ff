import BrokerControl.Control.Operation

/-! # What operations ask for

Every operation asks for a few kinds of changes only, and which these are can be told from its
request. A property of plans that holds of a whole if it holds of the parts holds of an operation if
it holds of each change that the operation asks for. -/

namespace BrokerControl.Control

/-- The workflow that an event is counted for. -/
def Event.workflow : Event → String
  | .completed name | .compensated name | .compensationFailed name => name

/-- The effect changes neither the broker nor the registry, and nothing is counted. -/
def Effect.IsPassive : Effect → Prop
  | .broker (.getExchange ..) | .broker (.listExchangeBindings ..)
  | .broker (.listQueueBindings ..) | .broker (.getUser _) | .broker .listVhosts
  | .broker (.getUserPermissions ..) | .registry (.getCredential _) | .registry (.getCallback _)
  | .drawPassword | .readClock => True
  | _ => False

/-- What holds of two plans holds of doing one after the other, and it holds of all that changes
nothing. -/
structure Plan.Closed (C : (α : Type) → Plan α → Prop) : Prop where
  done {α : Type} (a : α) : C α (.done a)
  andThen {α β : Type} {p : Plan α} {f : α → Plan β} :
    C α p → (∀ a, C β (f a)) → C β (p >>= f)
  passive {e : Effect} (h : e.IsPassive) : C e.Answer (.perform e)

variable {C : (α : Type) → Plan α → Prop} {α β : Type}

/-! ## Procedures -/

namespace Plan.Closed

variable (hC : Closed C)

include hC

theorem pure (a : α) : C _ (pure a : Procedure α).run := hC.done _

theorem throw (f : Failure) : C _ (throw f : Procedure α).run := hC.done _

theorem bind {p : Procedure α} {f : α → Procedure β} (hp : C _ p.run)
    (hf : ∀ a, C _ (f a).run) : C _ (p >>= f).run :=
  hC.andThen hp fun
    | .ok a => hf a
    | .error _ => hC.done _

theorem lift {p : Plan α} (hp : C _ p) : C _ (liftM p : Procedure α).run :=
  hC.andThen hp fun _ => hC.done _

theorem broker {c : Broker.Call} (h : C _ (Plan.perform (.broker c))) :
    C _ (liftM (Procedure.broker c) : Procedure _).run := hC.lift h

theorem registry {c : Registry.Call} (h : C _ (Plan.perform (.registry c))) :
    C _ (liftM (Procedure.registry c) : Procedure _).run := hC.lift h

theorem drawPassword : C _ (liftM Procedure.drawPassword : Procedure String).run :=
  hC.lift (hC.passive (e := .drawPassword) trivial)

theorem readClock : C _ (liftM Procedure.readClock : Procedure Timestamp).run :=
  hC.lift (hC.passive (e := .readClock) trivial)

theorem require {c : Broker.Call} (h : C _ (Plan.perform (.broker c)))
    (fault : Broker.Error → Failure) : C _ (Procedure.require c fault).run :=
  hC.bind (hC.lift h) fun
    | .ok _ => hC.done _
    | .error _ => hC.done _

theorem requireRow {c : Registry.Call} (h : C _ (Plan.perform (.registry c)))
    (fault : Registry.Error → Failure) : C _ (Procedure.requireRow c fault).run :=
  hC.bind (hC.lift h) fun
    | .ok _ => hC.done _
    | .error _ => hC.done _

theorem demand (condition : Bool) (message : String) :
    C _ (Procedure.demand condition message).run := by
  unfold Procedure.demand
  split
  · exact hC.done _
  · exact hC.done _

/-- What follows a check may rely on it. -/
theorem ofExcept_bind {x : Except Failure α} {f : α → Procedure β}
    (h : ∀ a, x = .ok a → C _ (f a).run) : C _ (ofExcept x >>= f : Procedure β).run := by
  cases x with
  | ok a => exact h a rfl
  | error e => exact hC.done _

theorem attempt {p : Procedure Unit} (hp : C _ p.run) : C _ (Procedure.attempt p).run :=
  hC.andThen hp fun
    | .ok _ => hC.done _
    | .error _ => hC.done _

theorem mapM {f : α → Procedure β} {xs : List α} (h : ∀ x ∈ xs, C _ (f x).run) :
    C _ (xs.mapM f).run := by
  induction xs with
  | nil => exact hC.pure _
  | cons x xs ih =>
    rw [List.mapM_cons]
    have hrest := ih fun y hy => h y (List.mem_cons_of_mem x hy)
    exact hC.bind (h x List.mem_cons_self) fun _ => hC.bind hrest fun _ => hC.pure _

/-! ### Sagas -/

section Counted

variable {saga : Saga Creation}
  (hcount : ∀ event : Event, event.workflow = saga.name → C _ (Plan.perform (.count event)))

include hcount

theorem unwind {ks : List Creation} (h : ∀ k ∈ ks, C _ k.takeBack) :
    C _ (Saga.unwind saga.name ks : Plan Unit) := by
  induction ks with
  | nil => exact hC.done _
  | cons k ks ih =>
    have hrest := ih fun k' hk => h k' (List.mem_cons_of_mem k hk)
    refine hC.andThen (h k List.mem_cons_self) fun done => ?_
    cases done with
    | true => exact hrest
    | false => exact hC.andThen (hcount _ rfl) fun _ => hrest

theorem guarded {p : Procedure α} (h : ∀ k ∈ saga.pending, C _ k.takeBack) (hp : C _ p.run) :
    C _ (saga.guarded p).run := by
  refine hC.bind (hC.lift (hC.andThen hp fun x => ?_)) fun x => ?_
  · cases x with
    | ok a => exact hC.done _
    | error e =>
      refine hC.andThen (hC.andThen (hC.unwind hcount h) fun _ => ?_) fun _ => hC.done _
      exact hC.andThen (hcount _ rfl) fun _ => hC.done _
  · obtain ⟨_ | _, _⟩ := x <;> exact hC.done _

theorem complete : C _ (liftM (saga.complete : Plan Unit) : Procedure Unit).run :=
  hC.lift (hcount _ rfl)

end Counted

end Plan.Closed

/-! ## Users and subscriptions -/

/-- The changes that making a user asks for. -/
inductive MakesUser (vhost username : String) : Effect → Prop
  | create (password : String) : MakesUser vhost username (.broker (.createUser username password))
  | deny : MakesUser vhost username (.broker (.setUserPermissions vhost username .denyAll))
  | record (hash : String) (now : Timestamp) :
    MakesUser vhost username (.registry (.insertCredential ⟨username, hash, now⟩))
  | renew (hash : String) : MakesUser vhost username (.registry (.updatePassword username hash))

/-- The changes that a new password asks for. -/
inductive RenewsPassword (username : String) : Effect → Prop
  | change (password : String) :
    RenewsPassword username (.broker (.updateUserPassword username password))
  | renew (hash : String) : RenewsPassword username (.registry (.updatePassword username hash))
  | record (hash : String) (now : Timestamp) :
    RenewsPassword username (.registry (.insertCredential ⟨username, hash, now⟩))

/-- The changes that the queue of a streaming subscription asks for. -/
inductive ProvidesStream (s : Settings) (id consumer : String) : Effect → Prop
  | make : ProvidesStream s id consumer (.broker (.createQueue s.dataVhost id))
  | bind (exchange key : String) :
    ProvidesStream s id consumer (.broker (.bindQueue s.dataVhost exchange id key))
  | grant (g : Access.Grant) :
    ProvidesStream s id consumer (.broker (.setUserPermissions s.dataVhost consumer g))
  | delete : ProvidesStream s id consumer (.broker (.deleteQueue s.dataVhost id))
  | count {event : Event} (h : event.workflow = "streaming_subscription") :
    ProvidesStream s id consumer (.count event)

section Workflows

variable (hC : Plan.Closed C) {s : Settings}

include hC

theorem ensureUser_closed {u v : String} (h : ∀ e, MakesUser v u e → C _ (Plan.perform e)) :
    C _ (ensureUser u v).run := by
  refine hC.bind (hC.broker (hC.passive (by trivial))) fun found => ?_
  split
  · exact hC.pure _
  · refine hC.bind hC.drawPassword fun password => ?_
    refine hC.bind (hC.broker (h _ (.create password))) fun made => ?_
    split
    · refine hC.bind (hC.require (h _ .deny) _) fun _ => ?_
      refine hC.bind hC.readClock fun now => ?_
      refine hC.bind (hC.registry (h _ (.record _ now))) fun saved => ?_
      split
      · exact hC.pure _
      · exact hC.bind (hC.requireRow (h _ (.renew _)) _) fun _ => hC.pure _
      · exact hC.throw _
    · exact hC.pure _
    · exact hC.throw _
  · exact hC.throw _

theorem resetPassword_closed {u : String} (h : ∀ e, RenewsPassword u e → C _ (Plan.perform e)) :
    C _ (resetPassword u).run := by
  refine hC.bind (hC.demand _ _) fun _ => ?_
  refine hC.bind (hC.require (hC.passive (by trivial)) _) fun _ => ?_
  refine hC.bind hC.drawPassword fun password => ?_
  refine hC.bind (hC.require (h _ (.change password)) _) fun _ => ?_
  refine hC.bind (hC.registry (h _ (.renew _))) fun saved => ?_
  split
  · exact hC.pure _
  · refine hC.bind hC.readClock fun now => ?_
    exact hC.bind (hC.requireRow (h _ (.record _ now)) _) fun _ => hC.pure _
  · exact hC.throw _

theorem updatePermissions_closed {u v : String}
    (h : ∀ g, C _ (Plan.perform (.broker (.setUserPermissions v u g)))) (edit : Access.Edit)
    (resource : String) : C _ (updatePermissions v u edit resource).run := by
  refine hC.bind (hC.broker (hC.passive (by trivial))) fun found => ?_
  split
  · exact hC.require (h _) _
  · exact hC.require (h _) _
  · exact hC.throw _

theorem bindKeys_closed {vhost queue : String}
    (h : ∀ exchange key, C _ (Plan.perform (.broker (.bindQueue vhost exchange queue key))))
    (keys : List String) : C _ (bindKeys vhost queue keys).run := by
  induction keys with
  | nil => exact hC.pure _
  | cons text keys ih =>
    unfold bindKeys
    split
    · exact hC.throw _
    · exact hC.bind (hC.require (h _ _) _) fun _ => ih

theorem provisionStream_closed {id consumer : String}
    (h : ∀ e, ProvidesStream s id consumer e → C _ (Plan.perform e)) (keys : List String) :
    C _ (provisionStream s id consumer keys).run := by
  have hpending : ∀ k ∈ ((Saga.begin "streaming_subscription").onFailure
      (Creation.queue s.dataVhost id)).pending, C _ k.takeBack := by
    intro k hk
    obtain rfl := List.mem_singleton.1 hk
    exact hC.andThen (h _ .delete) fun _ => hC.done _
  have hcount (event : Event) (hevent : event.workflow = "streaming_subscription") :
      C _ (Plan.perform (.count event)) := h _ (.count hevent)
  have hbind := bindKeys_closed hC (fun exchange key => h _ (.bind exchange key)) keys
  have hgrant := updatePermissions_closed hC (fun g => h _ (.grant g)) .addRead id
  refine hC.bind (hC.broker (h _ .make)) fun made => ?_
  split
  · refine hC.bind (hC.guarded hcount hpending hbind) fun _ => ?_
    exact hC.bind (hC.guarded hcount hpending hgrant) fun _ => hC.complete hcount
  · exact hC.throw _
  · exact hC.throw _

theorem bindFanOut_closed {saga : Saga Creation} {vhost exchange : String}
    (hcount : ∀ event : Event, event.workflow = saga.name → C _ (Plan.perform (.count event)))
    (hpending : ∀ k ∈ saga.pending, C _ k.takeBack)
    (h : ∀ queue key, C _ (Plan.perform (.broker (.bindQueue vhost exchange queue key))))
    (pairs : List (String × String)) : C _ (bindFanOut saga vhost exchange pairs).run := by
  induction pairs with
  | nil => exact hC.pure _
  | cons pair pairs ih =>
    exact hC.bind (hC.guarded hcount hpending (hC.require (h _ _) _)) fun _ => ih

theorem notify_closed (h : ∀ key message, C _ (Plan.perform
      (.broker (.publish s.internalVhost s.notificationExchange key message)))) (n : Notification) :
    C _ (notify s n).run := hC.require (h _ _) _

end Workflows

/-! ## Operations -/

/-- The user that an operation makes if need be, and the virtual host on which it denies everything
then. -/
def Operation.user? (s : Settings) : Operation → Option (String × String)
  | .registerAdaptor r => some (r.owner, s.vhostOr r.vhost)
  | .registerStreaming r | .updateStreaming r => some (r.consumer, s.internalVhost)
  | .ensureUser u v => some (u, v)
  | _ => none

/-- The changes that an operation asks for, apart from those of making a user and of a new
password. -/
inductive Operation.Asks (s : Settings) : Operation → Effect → Prop
  | declareVhost (name : String) : Asks s .bootstrap (.broker (.createVhost name))
  | declareQueue (name : String) : Asks s .bootstrap (.broker (.createQueue s.dataVhost name))
  | declareExchange (name : String) :
    Asks s .bootstrap (.broker (.createExchange s.internalVhost name))
  | makeExchange {r : RegisterAdaptor} :
    Asks s (.registerAdaptor r) (.broker (.createExchange (s.vhostOr r.vhost) r.adaptorId))
  | bindExchange {r : RegisterAdaptor} (queue key : String) :
    Asks s (.registerAdaptor r) (.broker (.bindQueue (s.vhostOr r.vhost) r.adaptorId queue key))
  | grantWrite {r : RegisterAdaptor} (g : Access.Grant) :
    Asks s (.registerAdaptor r) (.broker (.setUserPermissions (s.vhostOr r.vhost) r.owner g))
  | takeExchange {r : RegisterAdaptor} :
    Asks s (.registerAdaptor r) (.broker (.deleteExchange (s.vhostOr r.vhost) r.adaptorId))
  | countAdaptor {r : RegisterAdaptor} {event : Event}
    (h : event.workflow = "register_adaptor") : Asks s (.registerAdaptor r) (.count event)
  | deleteExchange {r : DeleteAdaptor} :
    Asks s (.deleteAdaptor r) (.broker (.deleteExchange (s.vhostOr r.vhost) r.adaptorId))
  | revokeWrite {r : DeleteAdaptor} (g : Access.Grant) :
    Asks s (.deleteAdaptor r) (.broker (.setUserPermissions (s.vhostOr r.vhost) r.owner g))
  | provideStream {r : StreamingRequest} {id : String} {e : Effect}
    (hid : subscriptionId r.consumer r.name = .ok id) (h : ProvidesStream s id r.consumer e) :
    Asks s (.registerStreaming r) e
  | replaceStream {r : StreamingRequest} {id : String} {e : Effect}
    (hid : subscriptionId r.consumer r.name = .ok id) (h : ProvidesStream s id r.consumer e) :
    Asks s (.updateStreaming r) e
  | extendStream {r : AppendStreaming} (exchange key : String) :
    Asks s (.appendStreaming r) (.broker (.bindQueue s.dataVhost exchange r.subscriptionId key))
  | deleteStream {r : DeleteStreaming} :
    Asks s (.deleteStreaming r) (.broker (.deleteQueue s.dataVhost r.subscriptionId))
  | revokeRead {r : DeleteStreaming} (g : Access.Grant) :
    Asks s (.deleteStreaming r) (.broker (.setUserPermissions s.dataVhost r.consumer g))
  | bindCallback {r : CallbackRequest} (exchange key : String) :
    Asks s (.registerCallback r) (.broker (.bindQueue s.dataVhost exchange s.callbackQueue key))
  | insertCallback {r : CallbackRequest} {row : Registry.Callback}
    (hid : subscriptionId r.consumer r.name = .ok row.subscriptionId) :
    Asks s (.registerCallback r) (.registry (.insertCallback row))
  | announceCallback {r : CallbackRequest} (key : String) (message : ByteArray) :
    Asks s (.registerCallback r)
      (.broker (.publish s.internalVhost s.notificationExchange key message))
  | takeCallback {r : CallbackRequest} {id : String}
    (hid : subscriptionId r.consumer r.name = .ok id) :
    Asks s (.registerCallback r) (.registry (.deleteCallback id))
  | countCallback {r : CallbackRequest} {event : Event}
    (h : event.workflow = "callback_subscription") : Asks s (.registerCallback r) (.count event)
  | rebindCallback {r : CallbackRequest} (exchange key : String) :
    Asks s (.updateCallback r) (.broker (.bindQueue s.dataVhost exchange s.callbackQueue key))
  | updateCallback {r : CallbackRequest} {id : String} (entities : List String)
    (hid : subscriptionId r.consumer r.name = .ok id) :
    Asks s (.updateCallback r) (.registry (.updateEntities id entities))
  | announceUpdate {r : CallbackRequest} (key : String) (message : ByteArray) :
    Asks s (.updateCallback r)
      (.broker (.publish s.internalVhost s.notificationExchange key message))
  | deleteCallback {r : DeleteCallback} {id : String}
    (hid : subscriptionId r.consumer r.name = .ok id) :
    Asks s (.deleteCallback r) (.registry (.deleteCallback id))
  | announceDeletion {r : DeleteCallback} (key : String) (message : ByteArray) :
    Asks s (.deleteCallback r)
      (.broker (.publish s.internalVhost s.notificationExchange key message))
  | publishHeartbeat {h : Heartbeat} (key : String) (message : ByteArray) :
    Asks s (.heartbeat h) (.broker (.publish (s.vhostOr h.vhost) h.adaptorId key message))
  | setGrant {v u : String} {edit : Access.Edit} {resource : String} (g : Access.Grant) :
    Asks s (.updatePermissions v u edit resource) (.broker (.setUserPermissions v u g))

theorem text_of_mapError_ofString? {text : String} {id : Access.AdaptorId}
    (h : (Access.AdaptorId.ofString? text).mapError Failure.ofMalformed = .ok id) :
    id.text = text := by
  cases hread : Access.AdaptorId.ofString? text with
  | ok id' =>
    rw [hread] at h
    cases h
    exact Access.AdaptorId.text_of_ofString? hread
  | error e =>
    rw [hread] at h
    cases h

section Operations

variable (hC : Plan.Closed C) (s : Settings)

include hC

private theorem readAdaptorId_bind_closed {text : String} {f : Access.AdaptorId → Procedure α}
    (h : ∀ id : Access.AdaptorId, id.text = text → C _ (f id).run) :
    C _ (readAdaptorId text >>= f).run :=
  hC.ofExcept_bind fun id hid => h id (text_of_mapError_ofString? hid)

theorem declared_closed {call : Plan (Except Broker.Error Unit)} (h : C _ call)
    (context : String) : C _ (declared call context).run := by
  refine hC.bind (hC.lift h) fun made => ?_
  split
  · exact hC.pure _
  · exact hC.pure _
  · exact hC.throw _

theorem bootstrap_closed (h : ∀ e, Operation.Asks s .bootstrap e → C _ (Plan.perform e)) :
    C _ (bootstrap s).run := by
  have hvhost (name : String) : C _ (declareVhost name).run :=
    hC.bind (declared_closed hC (h _ (.declareVhost name)) _) fun _ => hC.pure _
  have hqueue (name : String) : C _ (declareQueue s.dataVhost name).run :=
    hC.bind (declared_closed hC (h _ (.declareQueue name)) _) fun _ => hC.pure _
  have hexchange (name : String) : C _ (declareExchange s.internalVhost name).run :=
    hC.bind (declared_closed hC (h _ (.declareExchange name)) _) fun _ => hC.pure _
  refine hC.bind (hC.mapM fun name _ => hvhost name) fun _ => ?_
  refine hC.bind (hC.mapM fun name _ => hqueue name) fun _ => ?_
  exact hC.bind (hexchange _) fun _ => hC.pure _

theorem registerAdaptor_closed (r : RegisterAdaptor)
    (huser : C _ (ensureUser r.owner (s.vhostOr r.vhost)).run)
    (h : ∀ e, Operation.Asks s (.registerAdaptor r) e → C _ (Plan.perform e)) :
    C _ (registerAdaptor s r).run := by
  refine readAdaptorId_bind_closed hC fun id hid => hC.bind (hC.demand _ _) fun _ => ?_
  have hpending : ∀ k ∈ ((Saga.begin "register_adaptor").onFailure
      (Creation.exchange (s.vhostOr r.vhost) id.text)).pending, C _ k.takeBack := by
    intro k hk
    obtain rfl := List.mem_singleton.1 hk
    rw [hid]
    exact hC.andThen (h _ .takeExchange) fun _ => hC.done _
  have hcount (event : Event) (hevent : event.workflow = "register_adaptor") :
      C _ (Plan.perform (.count event)) := h _ (.countAdaptor hevent)
  have hgrant := updatePermissions_closed hC (fun g => h _ (.grantWrite g)) .addWrite id.text
  have hbind := bindFanOut_closed hC hcount hpending
    (fun queue key => hid ▸ h _ (.bindExchange queue key)) (fanOut s id)
  refine hC.bind huser fun credentials => ?_
  refine hC.bind (hC.broker (hid ▸ h _ .makeExchange)) fun made => ?_
  split
  · refine hC.bind (hC.guarded hcount hpending hgrant) fun _ => ?_
    exact hC.bind hbind fun _ => hC.bind (hC.complete hcount) fun _ => hC.pure _
  · exact hC.throw _
  · exact hC.throw _

theorem deleteAdaptor_closed (r : DeleteAdaptor)
    (h : ∀ e, Operation.Asks s (.deleteAdaptor r) e → C _ (Plan.perform e)) :
    C _ (deleteAdaptor s r).run := by
  refine readAdaptorId_bind_closed hC fun id hid => hC.bind (hC.demand _ _) fun _ => ?_
  have hgrant := updatePermissions_closed hC (fun g => h _ (.revokeWrite g)) .deleteWrite id.text
  have hdelete : C _ (Plan.perform (.broker (.deleteExchange (s.vhostOr r.vhost) id.text))) :=
    hid ▸ h _ .deleteExchange
  refine hC.bind (hC.require (hC.passive (by trivial)) _) fun _ => ?_
  exact hC.bind (hC.require hdelete _) fun _ => hC.attempt hgrant

theorem getAdaptor_closed (text : String) (vhost : Option String) :
    C _ (getAdaptor s text vhost).run :=
  readAdaptorId_bind_closed hC fun id _ =>
    hC.require (c := .getExchange (s.vhostOr vhost) id.text) (hC.passive (by trivial)) _

theorem listAdaptorBindings_closed (text : String) (vhost : Option String) :
    C _ (listAdaptorBindings s text vhost).run :=
  readAdaptorId_bind_closed hC fun _ _ =>
    hC.bind (hC.require (hC.passive (by trivial)) _) fun _ => hC.pure _

private theorem subscribe_closed {id consumer : String}
    (huser : C _ (ensureUser consumer s.internalVhost).run)
    (h : ∀ e, ProvidesStream s id consumer e → C _ (Plan.perform e)) (keys : List String) :
    C _ (do
      let credentials ← ensureUser consumer s.internalVhost
      provisionStream s id consumer keys
      return streamingAccess s id credentials : Procedure _).run :=
  hC.bind huser fun _ => hC.bind (provisionStream_closed hC h keys) fun _ => hC.pure _

theorem registerStreaming_closed (r : StreamingRequest)
    (huser : C _ (ensureUser r.consumer s.internalVhost).run)
    (h : ∀ e, Operation.Asks s (.registerStreaming r) e → C _ (Plan.perform e)) :
    C _ (registerStreaming s r).run := by
  refine hC.bind (hC.demand _ _) fun _ => hC.ofExcept_bind fun id hid => ?_
  exact subscribe_closed hC s huser (fun e he => h e (.provideStream hid he)) r.entities

theorem updateStreaming_closed (r : StreamingRequest)
    (huser : C _ (ensureUser r.consumer s.internalVhost).run)
    (h : ∀ e, Operation.Asks s (.updateStreaming r) e → C _ (Plan.perform e)) :
    C _ (updateStreaming s r).run := by
  refine hC.bind (hC.demand _ _) fun _ => hC.ofExcept_bind fun id hid => ?_
  have hrest := subscribe_closed hC s huser (fun e he => h e (.replaceStream hid he)) r.entities
  refine hC.bind (hC.broker (h _ (.replaceStream hid .delete))) fun deleted => ?_
  split
  · exact hrest
  · exact hrest
  · exact hC.throw _

theorem listStreaming_closed (id : String) : C _ (listStreaming s id).run :=
  hC.bind (hC.require (hC.passive (by trivial)) _) fun _ => hC.pure _

theorem appendStreaming_closed (r : AppendStreaming)
    (h : ∀ e, Operation.Asks s (.appendStreaming r) e → C _ (Plan.perform e)) :
    C _ (appendStreaming s r).run := by
  have hbind := bindKeys_closed hC (fun exchange key => h _ (.extendStream exchange key)) r.entities
  have hrest := hC.bind (hC.demand (!r.entities.isEmpty) "entities must not be empty") fun _ =>
    hC.bind hbind fun _ => listStreaming_closed hC s r.subscriptionId
  refine hC.bind (hC.broker (hC.passive (by trivial))) fun listed => ?_
  split
  · exact hrest
  · exact hC.throw _
  · exact hC.throw _

theorem deleteStreaming_closed (r : DeleteStreaming)
    (h : ∀ e, Operation.Asks s (.deleteStreaming r) e → C _ (Plan.perform e)) :
    C _ (deleteStreaming s r).run := by
  have hgrant := updatePermissions_closed hC (fun g => h _ (.revokeRead g)) .deleteRead
    r.subscriptionId
  refine hC.bind (hC.demand _ _) fun _ => hC.bind (hC.require (h _ .deleteStream) _) fun _ => ?_
  exact hC.attempt hgrant

theorem registerCallback_closed (r : CallbackRequest)
    (h : ∀ e, Operation.Asks s (.registerCallback r) e → C _ (Plan.perform e)) :
    C _ (registerCallback s r).run := by
  have hbind := bindKeys_closed hC (fun exchange key => h _ (.bindCallback exchange key)) r.entities
  refine hC.bind (hC.demand _ _) fun _ => hC.bind (hC.demand _ _) fun _ => ?_
  refine hC.ofExcept_bind fun id hid => ?_
  refine hC.bind (hC.registry (hC.passive (by trivial))) fun found => ?_
  split
  · exact hC.throw _
  · refine hC.bind hbind fun _ => hC.bind hC.readClock fun now => ?_
    refine hC.bind (hC.registry (h _ (.insertCallback hid))) fun inserted => ?_
    split
    · have hpending : ∀ k ∈ ((Saga.begin "callback_subscription").onFailure
          (Creation.callback id)).pending, C _ k.takeBack := by
        intro k hk
        obtain rfl := List.mem_singleton.1 hk
        exact hC.andThen (h _ (.takeCallback hid)) fun _ => hC.done _
      have hcount (event : Event) (hevent : event.workflow = "callback_subscription") :
          C _ (Plan.perform (.count event)) := h _ (.countCallback hevent)
      have hnotify := notify_closed hC (fun key message => h _ (.announceCallback key message))
        ⟨id, .create⟩
      refine hC.bind (hC.guarded hcount hpending hnotify) fun _ => ?_
      exact hC.bind (hC.complete hcount) fun _ => hC.pure _
    · exact hC.throw _
    · exact hC.throw _
  · exact hC.throw _

theorem updateCallback_closed (r : CallbackRequest)
    (h : ∀ e, Operation.Asks s (.updateCallback r) e → C _ (Plan.perform e)) :
    C _ (updateCallback s r).run := by
  have hbind := bindKeys_closed hC (fun exchange key => h _ (.rebindCallback exchange key))
    r.entities
  refine hC.bind (hC.demand _ _) fun _ => hC.ofExcept_bind fun id hid => ?_
  refine hC.bind (hC.requireRow (hC.passive (by trivial)) _) fun row => hC.bind hbind fun _ => ?_
  refine hC.bind (hC.requireRow (h _ (.updateCallback _ hid)) _) fun _ => ?_
  have hnotify := notify_closed hC (fun key message => h _ (.announceUpdate key message))
    ⟨id, .update⟩
  exact hC.bind hnotify fun _ => hC.pure _

theorem deleteCallback_closed (r : DeleteCallback)
    (h : ∀ e, Operation.Asks s (.deleteCallback r) e → C _ (Plan.perform e)) :
    C _ (deleteCallback s r).run := by
  refine hC.ofExcept_bind fun id hid => ?_
  refine hC.bind (hC.requireRow (hC.passive (by trivial)) _) fun row => ?_
  refine hC.bind (hC.requireRow (h _ (.deleteCallback hid)) _) fun _ => ?_
  exact hC.attempt (notify_closed hC (fun key message => h _ (.announceDeletion key message)) _)

theorem listCallback_closed (consumer name : String) : C _ (listCallback consumer name).run :=
  hC.ofExcept_bind fun _ _ => hC.bind (hC.requireRow (hC.passive (by trivial)) _) fun _ => hC.pure _

theorem forward_closed (status : String) {publish : String → Procedure Unit}
    (hpublish : ∀ key, C _ (publish key).run) (giveUp : Option String → Failure)
    (firstMismatch : Option String) (queues : List (String × List String)) :
    C _ (forward status publish giveUp firstMismatch queues).run := by
  induction queues generalizing firstMismatch with
  | nil => exact hC.throw _
  | cons entry queues ih =>
    unfold forward
    split
    · exact hC.bind (hpublish _) fun _ => hC.pure _
    · exact ih _

theorem publishHeartbeat_closed (r : Heartbeat)
    (h : ∀ e, Operation.Asks s (.heartbeat r) e → C _ (Plan.perform e)) :
    C _ (publishHeartbeat s r).run := by
  refine hC.bind (hC.demand _ _) fun _ => readAdaptorId_bind_closed hC fun id hid => ?_
  refine hC.bind (hC.require (hC.passive (by trivial)) _) fun _ => ?_
  refine hC.bind (hC.require (hC.passive (by trivial)) _) fun bindings => ?_
  have hpublish (key : String) (message : ByteArray) :
      C _ (Plan.perform (.broker (.publish (s.vhostOr r.vhost) id.text key message))) :=
    hid ▸ h _ (.publishHeartbeat key message)
  exact forward_closed hC _ (fun key => hC.require (hpublish _ _) _) _ _ _

/-- An operation asks for nothing else than its own changes, whatever its calls are answered. -/
theorem Operation.procedure_closed (op : Operation)
    (huser : ∀ u v, op.user? s = some (u, v) → C _ (Control.ensureUser u v).run)
    (hreset : ∀ u, op = .resetPassword u → C _ (Control.resetPassword u).run)
    (h : ∀ e, op.Asks s e → C _ (Plan.perform e)) : C _ (op.procedure s).run := by
  cases op with
  | bootstrap => exact bootstrap_closed hC s h
  | registerAdaptor r => exact registerAdaptor_closed hC s r (huser _ _ rfl) h
  | deleteAdaptor r => exact deleteAdaptor_closed hC s r h
  | getAdaptor id vhost => exact getAdaptor_closed hC s id vhost
  | listAdaptorBindings id vhost => exact listAdaptorBindings_closed hC s id vhost
  | registerStreaming r => exact registerStreaming_closed hC s r (huser _ _ rfl) h
  | updateStreaming r => exact updateStreaming_closed hC s r (huser _ _ rfl) h
  | appendStreaming r => exact appendStreaming_closed hC s r h
  | deleteStreaming r => exact deleteStreaming_closed hC s r h
  | listStreaming id => exact listStreaming_closed hC s id
  | registerCallback r => exact registerCallback_closed hC s r h
  | updateCallback r => exact updateCallback_closed hC s r h
  | deleteCallback r => exact deleteCallback_closed hC s r h
  | listCallback consumer name => exact listCallback_closed hC consumer name
  | heartbeat r => exact publishHeartbeat_closed hC s r h
  | ensureUser u v => exact huser u v rfl
  | resetPassword u => exact hreset u rfl
  | updatePermissions v u edit resource =>
    exact updatePermissions_closed hC (fun g => h _ (.setGrant g)) edit resource

end Operations

end BrokerControl.Control
