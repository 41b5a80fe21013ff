import BrokerControl.Control.Operation

/-! # Plans that do not look into failures

A call of the broker can fail because something is there already or not there at all, and workflows
go on in their own ways then. Of every other failure they see only that it is one, and so it is with
a registry that cannot do its work. Two runs in which a call fails for different reasons of that
kind perform the same effects to the end, and the caller is told the same. -/

namespace BrokerControl

/-! ## What is not told apart -/

namespace Broker.Error

variable {e e' : Error}

/-- The failure is neither that a resource is there already nor that it is not there. -/
def IsInternal (e : Error) : Prop := e.isNotFound = false ∧ e.isConflict = false

@[elab_as_elim]
theorem IsInternal.elim {P : Error → Prop} (h : e.IsInternal)
    (unexpectedStatus : ∀ path status, P (.unexpectedStatus path status))
    (invalidUrl : ∀ url, P (.invalidUrl url)) (invalidPayload : P .invalidPayload)
    (transport : P .transport) : P e := by
  cases e with
  | alreadyExists what => cases h.2
  | notFound what => cases h.1
  | unexpectedStatus path status => exact unexpectedStatus path status
  | invalidUrl url => exact invalidUrl url
  | invalidPayload => exact invalidPayload
  | transport => exact transport

def Agree (e e' : Error) : Prop := e = e' ∨ e.IsInternal ∧ e'.IsInternal

end Broker.Error

/-- The same failure, or two of a registry that could not do its work. -/
def Registry.Error.Agree (e e' : Error) : Prop :=
  e = e' ∨ ∃ text text', e = .unexpected text ∧ e' = .unexpected text'

namespace Control

variable {ε α β γ δ : Type}

/-- The caller is told the same of both failures. -/
structure Failure.Agree (f g : Failure) : Prop where
  code : f.code = g.code
  status : f.status = g.status
  reply : f.reply = g.reply

theorem Failure.Agree.refl (f : Failure) : f.Agree f := ⟨rfl, rfl, rfl⟩

theorem Failure.ofBroker_of_isInternal (context : String) {e : Broker.Error} (h : e.IsInternal) :
    Failure.ofBroker context e = .remote context e :=
  h.elim (fun _ _ => rfl) (fun _ => rfl) rfl rfl

/-- The same result, or failures that `R` relates. -/
inductive UpTo (R : ε → ε → Prop) : Except ε α → Except ε α → Prop
  | ok (a : α) : UpTo R (.ok a) (.ok a)
  | error {e e' : ε} (h : R e e') : UpTo R (.error e) (.error e')

theorem UpTo.refl {R : ε → ε → Prop} (hR : ∀ e, R e e) (x : Except ε α) : UpTo R x x := by
  cases x with
  | ok a => exact .ok a
  | error e => exact .error (hR e)

/-- The answers differ in nothing that a workflow looks at. -/
def Effect.Agree : (e : Effect) → e.Answer → e.Answer → Prop
  | .broker _, x, y => UpTo Broker.Error.Agree x y
  | .registry _, x, y => UpTo Registry.Error.Agree x y
  | .drawPassword, x, y | .readClock, x, y => x = y
  | .count _, _, _ => True

/-! ## Plans that go on alike -/

/-- Two plans perform the same effects as long as their answers agree, and return what `R` says. -/
inductive Plan.Related (R : α → β → Prop) : Plan α → Plan β → Prop
  | done {a : α} {b : β} (h : R a b) : Related R (.done a) (.done b)
  | step (e : Effect) {next : e.Answer → Plan α} {next' : e.Answer → Plan β}
    (h : ∀ x y, e.Agree x y → Related R (next x) (next' y)) :
    Related R (.step e next) (.step e next')

namespace Plan.Related

theorem bind {R : α → β → Prop} {S : γ → δ → Prop} {p : Plan α} {q : Plan β} {f : α → Plan γ}
    {g : β → Plan δ} (h : Related R p q) (hrest : ∀ a b, R a b → Related S (f a) (g b)) :
    Related S (p >>= f) (q >>= g) := by
  induction h with
  | done h => exact hrest _ _ h
  | step e _ ih => exact .step e ih

theorem broker (c : Broker.Call) :
    Related (UpTo Broker.Error.Agree) (Procedure.broker c) (Procedure.broker c) :=
  .step _ fun _ _ h => .done h

theorem registry (c : Registry.Call) :
    Related (UpTo Registry.Error.Agree) (Procedure.registry c) (Procedure.registry c) :=
  .step _ fun _ _ h => .done h

theorem drawPassword : Related Eq Procedure.drawPassword Procedure.drawPassword :=
  .step _ fun _ _ h => .done h

theorem readClock : Related Eq Procedure.readClock Procedure.readClock :=
  .step _ fun _ _ h => .done h

/-- Handlers whose answers agree carry related plans to related ends. -/
theorem interpret {σ : Type} {handle : (e : Effect) → StateM σ e.Answer} {T : σ → σ → Prop}
    (hhandle : ∀ e s s', T s s' →
      e.Agree (handle e s).1 (handle e s').1 ∧ T (handle e s).2 (handle e s').2)
    {R : α → β → Prop} {p : Plan α} {q : Plan β} (h : Related R p q) {s s' : σ} (hs : T s s') :
    R (p.interpret handle s).1 (q.interpret handle s').1 ∧
      T (p.interpret handle s).2 (q.interpret handle s').2 := by
  induction h generalizing s s' with
  | done h => exact ⟨h, hs⟩
  | step e _ ih =>
    obtain ⟨hanswer, hstate⟩ := hhandle e s s' hs
    exact ih _ _ hanswer hstate

end Plan.Related

/-! ## Procedures -/

/-- The procedure goes on alike whenever the answers to its calls agree. -/
def Procedure.Discreet (p : Procedure α) : Prop :=
  Plan.Related (UpTo Failure.Agree) p.run p.run

namespace Procedure.Discreet

variable {p : Procedure α} {f : α → Procedure β}

theorem pure (a : α) : Discreet (pure a : Procedure α) := .done (.ok a)

theorem throw (f : Failure) : Discreet (throw f : Procedure α) := .done (.error (.refl f))

theorem bind (hp : p.Discreet) (hf : ∀ a, (f a).Discreet) : (p >>= f).Discreet := by
  refine Plan.Related.bind hp fun x y hxy => ?_
  cases hxy with
  | ok a => exact hf a
  | error h => exact .done (.error h)

/-- What follows a plan may differ as far as the results of the plan do. -/
theorem lift_bind {R : α → α → Prop} {p : Plan α} (hp : Plan.Related R p p)
    (hf : ∀ a b, R a b → Plan.Related (UpTo Failure.Agree) (f a).run (f b).run) :
    Discreet (liftM p >>= f) := by
  have hlift : Plan.Related (fun x y => ∃ a b, x = .ok a ∧ y = .ok b ∧ R a b)
      (liftM p : Procedure α).run (liftM p : Procedure α).run :=
    hp.bind fun a b hab => .done ⟨a, b, rfl, rfl, hab⟩
  refine Plan.Related.bind hlift ?_
  rintro _ _ ⟨a, b, rfl, rfl, hab⟩
  exact hf a b hab

/-- What follows a call may look at its answer. For an internal failure it has to fail with the same
words, whichever it is. -/
theorem broker_bind {p : Plan (Except Broker.Error α)} {f : Except Broker.Error α → Procedure β}
    {context : String} (hp : Plan.Related (UpTo Broker.Error.Agree) p p)
    (hf : ∀ x, (f x).Discreet)
    (hinternal : ∀ e, e.IsInternal → f (.error e) = MonadExcept.throw (.remote context e)) :
    Discreet (liftM p >>= f) := by
  refine lift_bind hp fun x y hxy => ?_
  cases hxy with
  | ok a => exact hf (.ok a)
  | error h =>
    obtain rfl | ⟨h, h'⟩ := h
    · exact hf _
    · rw [hinternal _ h, hinternal _ h']
      exact .done (.error ⟨rfl, rfl, rfl⟩)

theorem registry_bind {c : Registry.Call} {f : Except Registry.Error c.Answer → Procedure β}
    {context : String} (hf : ∀ x, (f x).Discreet)
    (hinternal : ∀ text, f (.error (.unexpected text)) =
      MonadExcept.throw (.persistence context (.unexpected text))) :
    Discreet (liftM (Procedure.registry c) >>= f) := by
  refine lift_bind (.registry c) fun x y hxy => ?_
  cases hxy with
  | ok a => exact hf (.ok a)
  | error h =>
    obtain rfl | ⟨text, text', rfl, rfl⟩ := h
    · exact hf _
    · rw [hinternal, hinternal]
      exact .done (.error ⟨rfl, rfl, rfl⟩)

theorem drawPassword_bind {f : String → Procedure β} (hf : ∀ password, (f password).Discreet) :
    Discreet (liftM Procedure.drawPassword >>= f) := by
  refine lift_bind .drawPassword ?_
  rintro password - rfl
  exact hf password

theorem readClock_bind {f : Timestamp → Procedure β} (hf : ∀ now, (f now).Discreet) :
    Discreet (liftM Procedure.readClock >>= f) := by
  refine lift_bind .readClock ?_
  rintro now - rfl
  exact hf now

theorem require {c : Broker.Call} {fault : Broker.Error → Failure} {context : String}
    (h : ∀ e, e.IsInternal → fault e = .remote context e) :
    Discreet (Procedure.require c fault) := by
  refine broker_bind (.broker _) (fun x => ?_) fun e he => congrArg MonadExcept.throw (h e he)
  cases x with
  | ok a => exact .pure a
  | error e => exact .throw _

theorem requireRow {c : Registry.Call} {fault : Registry.Error → Failure} {context : String}
    (h : ∀ text, fault (.unexpected text) = .persistence context (.unexpected text)) :
    Discreet (Procedure.requireRow c fault) := by
  refine registry_bind (fun x => ?_) fun text => congrArg MonadExcept.throw (h text)
  cases x with
  | ok a => exact .pure a
  | error e => exact .throw _

theorem demand (condition : Bool) (message : String) :
    Discreet (Procedure.demand condition message) := by
  unfold Procedure.demand
  split
  · exact .pure ()
  · exact .throw _

theorem ofExcept (x : Except Failure α) : Discreet (ofExcept x : Procedure α) := by
  cases x with
  | ok a => exact .pure a
  | error f => exact .throw f

theorem mapM {f : α → Procedure β} (h : ∀ x, (f x).Discreet) (xs : List α) :
    Discreet (xs.mapM f) := by
  induction xs with
  | nil => exact .pure []
  | cons x xs ih =>
    rw [List.mapM_cons]
    exact .bind (h x) fun _ => .bind ih fun _ => .pure _

/-- Whether the procedure failed is forgotten, and so is why. -/
theorem attempt {p : Procedure Unit} (hp : p.Discreet) : Discreet (Procedure.attempt p) := by
  refine Plan.Related.bind hp fun x y hxy => ?_
  cases hxy with
  | ok a => exact .done (.ok a)
  | error h => exact .done (.ok ())

/-! ### Sagas -/

/-- Of an undoing only its success is looked at. -/
theorem takeBack (k : Creation) : Plan.Related Eq k.takeBack k.takeBack := by
  cases k <;>
    refine .step _ fun x y hxy => ?_ <;>
    cases hxy <;>
    exact .done rfl

theorem unwind (name : String) (ks : List Creation) :
    Plan.Related Eq (Saga.unwind name ks : Plan Unit) (Saga.unwind name ks) := by
  induction ks with
  | nil => exact .done rfl
  | cons k ks ih =>
    refine (takeBack k).bind ?_
    rintro done - rfl
    cases done with
    | true => exact ih
    | false => exact .step _ fun _ _ _ => ih

/-- The errors are handed back, and nothing else tells the runs apart. -/
theorem abort (saga : Saga Creation) {f f' : Failure} (h : f.Agree f') :
    Plan.Related (fun x y => x.1.Agree y.1) (saga.abort f : Plan _) (saga.abort f') :=
  (unwind saga.name saga.pending).bind fun _ _ _ => .step _ fun _ _ _ => .done h

theorem guarded (saga : Saga Creation) (hp : p.Discreet) : Discreet (saga.guarded p) := by
  have hguard : Plan.Related (fun x y => UpTo Failure.Agree x.1 y.1)
      (saga.guard p.run : Plan _) (saga.guard p.run) := by
    refine Plan.Related.bind hp fun x y hxy => ?_
    cases hxy with
    | ok a => exact .done (.ok a)
    | error h => exact (abort saga h).bind fun _ _ h' => .done (.error h')
  refine lift_bind hguard ?_
  rintro ⟨x, s⟩ ⟨y, s'⟩ hxy
  cases hxy with
  | ok a => exact .done (.ok a)
  | error h => exact .done (.error h)

theorem complete (saga : Saga Creation) :
    Discreet (liftM (saga.complete : Plan Unit) : Procedure Unit) :=
  .step _ fun _ _ _ => .done (.ok ())

end Procedure.Discreet

/-! ## Workflows -/

section Workflows

open Procedure (Discreet)

variable (s : Settings)

theorem ensureUser_discreet (u v : String) : (ensureUser u v).Discreet := by
  refine .broker_bind (.broker _) (fun found => ?_) fun e he =>
    he.elim (fun _ _ => rfl) (fun _ => rfl) rfl rfl
  split
  · exact .pure _
  · refine .drawPassword_bind fun password => .broker_bind (.broker _) (fun made => ?_) fun e he =>
      he.elim (fun _ _ => rfl) (fun _ => rfl) rfl rfl
    split
    · refine .bind (.require fun _ _ => rfl) fun _ => .readClock_bind fun now => ?_
      refine .registry_bind (fun saved => ?_) fun _ => rfl
      split
      · exact .pure _
      · exact .bind (.requireRow fun _ => rfl) fun _ => .pure _
      · exact .throw _
    · exact .pure _
    · exact .throw _
  · exact .throw _

theorem resetPassword_discreet (u : String) : (resetPassword u).Discreet := by
  refine .bind (.demand _ _) fun _ => ?_
  refine .bind (.require fun _ => Failure.ofBroker_of_isInternal _) fun _ => ?_
  refine .drawPassword_bind fun password => ?_
  refine .bind (.require fun _ => Failure.ofBroker_of_isInternal _) fun _ => ?_
  refine .registry_bind (fun saved => ?_) fun _ => rfl
  split
  · exact .pure _
  · exact .readClock_bind fun now => .bind (.requireRow fun _ => rfl) fun _ => .pure _
  · exact .throw _

theorem updatePermissions_discreet (v u : String) (edit : Access.Edit) (resource : String) :
    (updatePermissions v u edit resource).Discreet := by
  refine .broker_bind (.broker _) (fun found => ?_) fun e he =>
    he.elim (fun _ _ => rfl) (fun _ => rfl) rfl rfl
  split
  · exact .require fun _ _ => rfl
  · exact .require fun _ _ => rfl
  · exact .throw _

theorem bindKeys_discreet (vhost queue : String) (keys : List String) :
    (bindKeys vhost queue keys).Discreet := by
  induction keys with
  | nil => exact .pure ()
  | cons text keys ih =>
    unfold bindKeys
    split
    · exact .throw _
    · exact .bind (.require fun _ _ => rfl) fun _ => ih

theorem provisionStream_discreet (id consumer : String) (keys : List String) :
    (provisionStream s id consumer keys).Discreet := by
  refine .broker_bind (.broker _) (fun made => ?_) fun e he =>
    he.elim (fun _ _ => rfl) (fun _ => rfl) rfl rfl
  split
  · refine .bind (.guarded _ (bindKeys_discreet _ _ keys)) fun _ => ?_
    exact .bind (.guarded _ (updatePermissions_discreet ..)) fun _ => .complete _
  · exact .throw _
  · exact .throw _

theorem bindFanOut_discreet (saga : Saga Creation) (vhost exchange : String)
    (pairs : List (String × String)) : (bindFanOut saga vhost exchange pairs).Discreet := by
  induction pairs with
  | nil => exact .pure ()
  | cons pair pairs ih => exact .bind (.guarded saga (.require fun _ _ => rfl)) fun _ => ih

theorem notify_discreet (n : Notification) : (notify s n).Discreet := .require fun _ _ => rfl

/-! ## Operations -/

private theorem declared_discreet {call : Plan (Except Broker.Error Unit)}
    (hcall : Plan.Related (UpTo Broker.Error.Agree) call call) (context : String) :
    (declared call context).Discreet := by
  refine .broker_bind hcall (fun made => ?_) fun e he =>
    he.elim (fun _ _ => rfl) (fun _ => rfl) rfl rfl
  split
  · exact .pure _
  · exact .pure _
  · exact .throw _

theorem bootstrap_discreet : (bootstrap s).Discreet := by
  have hvhost (name : String) : (declareVhost name).Discreet :=
    .bind (declared_discreet (.broker (.createVhost name)) _) fun _ => .pure _
  have hqueue (name : String) : (declareQueue s.dataVhost name).Discreet :=
    .bind (declared_discreet (.broker (.createQueue s.dataVhost name)) _) fun _ => .pure _
  have hexchange (name : String) : (declareExchange s.internalVhost name).Discreet :=
    .bind (declared_discreet (.broker (.createExchange s.internalVhost name)) _) fun _ => .pure _
  refine .bind (.mapM hvhost _) fun _ => .bind (.mapM hqueue _) fun _ => ?_
  exact .bind (hexchange _) fun _ => .pure _

theorem registerAdaptor_discreet (r : RegisterAdaptor) : (registerAdaptor s r).Discreet := by
  refine .bind (.ofExcept _) fun id => .bind (.demand _ _) fun _ => ?_
  refine .bind (ensureUser_discreet ..) fun credentials => ?_
  refine .broker_bind (.broker _) (fun made => ?_) fun e he =>
    he.elim (fun _ _ => rfl) (fun _ => rfl) rfl rfl
  split
  · refine .bind (.guarded _ (updatePermissions_discreet ..)) fun _ => ?_
    exact .bind (bindFanOut_discreet ..) fun _ => .bind (.complete _) fun _ => .pure _
  · exact .throw _
  · exact .throw _

theorem deleteAdaptor_discreet (r : DeleteAdaptor) : (deleteAdaptor s r).Discreet := by
  refine .bind (.ofExcept _) fun id => .bind (.demand _ _) fun _ => ?_
  refine .bind (.require fun _ => Failure.ofBroker_of_isInternal _) fun _ => ?_
  refine .bind (.require fun _ => Failure.ofBroker_of_isInternal _) fun _ => ?_
  exact .attempt (updatePermissions_discreet ..)

theorem getAdaptor_discreet (id : String) (vhost : Option String) :
    (getAdaptor s id vhost).Discreet :=
  .bind (.ofExcept _) fun _ => .require fun _ => Failure.ofBroker_of_isInternal _

theorem listAdaptorBindings_discreet (id : String) (vhost : Option String) :
    (listAdaptorBindings s id vhost).Discreet :=
  .bind (.ofExcept _) fun _ =>
    .bind (.require fun _ => Failure.ofBroker_of_isInternal _) fun _ => .pure _

private theorem subscribe_discreet (id consumer : String) (keys : List String) :
    Discreet (do
      let credentials ← ensureUser consumer s.internalVhost
      provisionStream s id consumer keys
      return streamingAccess s id credentials) :=
  .bind (ensureUser_discreet ..) fun _ => .bind (provisionStream_discreet ..) fun _ => .pure _

theorem registerStreaming_discreet (r : StreamingRequest) : (registerStreaming s r).Discreet :=
  .bind (.demand _ _) fun _ => .bind (.ofExcept _) fun id =>
    subscribe_discreet s id r.consumer r.entities

theorem updateStreaming_discreet (r : StreamingRequest) : (updateStreaming s r).Discreet := by
  refine .bind (.demand _ _) fun _ => .bind (.ofExcept _) fun id => ?_
  refine .broker_bind (.broker _) (fun deleted => ?_) fun e he =>
    he.elim (fun _ _ => rfl) (fun _ => rfl) rfl rfl
  split
  · exact subscribe_discreet s id r.consumer r.entities
  · exact subscribe_discreet s id r.consumer r.entities
  · exact .throw _

theorem listStreaming_discreet (id : String) : (listStreaming s id).Discreet :=
  .bind (.require fun _ => Failure.ofBroker_of_isInternal _) fun _ => .pure _

theorem appendStreaming_discreet (r : AppendStreaming) : (appendStreaming s r).Discreet := by
  refine .broker_bind (.broker _) (fun listed => ?_) fun e he =>
    he.elim (fun _ _ => rfl) (fun _ => rfl) rfl rfl
  split
  · refine .bind (.demand _ _) fun _ => .bind (bindKeys_discreet ..) fun _ => ?_
    exact listStreaming_discreet s r.subscriptionId
  · exact .throw _
  · exact .throw _

theorem deleteStreaming_discreet (r : DeleteStreaming) : (deleteStreaming s r).Discreet := by
  refine .bind (.demand _ _) fun _ => ?_
  refine .bind (.require fun _ => Failure.ofBroker_of_isInternal _) fun _ => ?_
  exact .attempt (updatePermissions_discreet ..)

theorem registerCallback_discreet (r : CallbackRequest) : (registerCallback s r).Discreet := by
  refine .bind (.demand _ _) fun _ => .bind (.demand _ _) fun _ => .bind (.ofExcept _) fun id => ?_
  refine .registry_bind (fun found => ?_) fun _ => rfl
  split
  · exact .throw _
  · refine .bind (bindKeys_discreet ..) fun _ => .readClock_bind fun now => ?_
    refine .registry_bind (fun inserted => ?_) fun _ => rfl
    split
    · refine .bind (.guarded _ (notify_discreet s _)) fun _ => ?_
      exact .bind (.complete _) fun _ => .pure _
    · exact .throw _
    · exact .throw _
  · exact .throw _

theorem updateCallback_discreet (r : CallbackRequest) : (updateCallback s r).Discreet := by
  refine .bind (.demand _ _) fun _ => .bind (.ofExcept _) fun id => ?_
  refine .bind (.requireRow fun _ => rfl) fun row => .bind (bindKeys_discreet ..) fun _ => ?_
  refine .bind (.requireRow fun _ => rfl) fun _ => ?_
  exact .bind (notify_discreet s _) fun _ => .pure _

theorem deleteCallback_discreet (r : DeleteCallback) : (deleteCallback s r).Discreet := by
  refine .bind (.ofExcept _) fun id => .bind (.requireRow fun _ => rfl) fun row => ?_
  exact .bind (.requireRow fun _ => rfl) fun _ => .attempt (notify_discreet s _)

theorem listCallback_discreet (consumer name : String) : (listCallback consumer name).Discreet :=
  .bind (.ofExcept _) fun _ => .bind (.requireRow fun _ => rfl) fun _ => .pure _

theorem forward_discreet (status : String) {publish : String → Procedure Unit}
    (hpublish : ∀ key, (publish key).Discreet) (giveUp : Option String → Failure)
    (firstMismatch : Option String) (queues : List (String × List String)) :
    (forward status publish giveUp firstMismatch queues).Discreet := by
  induction queues generalizing firstMismatch with
  | nil => exact .throw _
  | cons entry queues ih =>
    unfold forward
    split
    · exact .bind (hpublish _) fun _ => .pure _
    · exact ih _

theorem publishHeartbeat_discreet (h : Heartbeat) : (publishHeartbeat s h).Discreet := by
  refine .bind (.demand _ _) fun _ => .bind (.ofExcept _) fun id => ?_
  refine .bind (.require fun _ => Failure.ofBroker_of_isInternal _) fun _ => ?_
  refine .bind (.require fun _ => Failure.ofBroker_of_isInternal _) fun bindings => ?_
  exact forward_discreet _ (fun key => .require fun _ _ => rfl) _ _ _

/-- No operation looks into why a call failed, unless something is there already or not there. -/
theorem Operation.procedure_discreet (op : Operation) : (op.procedure s).Discreet := by
  cases op with
  | bootstrap => exact bootstrap_discreet s
  | registerAdaptor r => exact registerAdaptor_discreet s r
  | deleteAdaptor r => exact deleteAdaptor_discreet s r
  | getAdaptor id vhost => exact getAdaptor_discreet s id vhost
  | listAdaptorBindings id vhost => exact listAdaptorBindings_discreet s id vhost
  | registerStreaming r => exact registerStreaming_discreet s r
  | updateStreaming r => exact updateStreaming_discreet s r
  | appendStreaming r => exact appendStreaming_discreet s r
  | deleteStreaming r => exact deleteStreaming_discreet s r
  | listStreaming id => exact listStreaming_discreet s id
  | registerCallback r => exact registerCallback_discreet s r
  | updateCallback r => exact updateCallback_discreet s r
  | deleteCallback r => exact deleteCallback_discreet s r
  | listCallback consumer name => exact listCallback_discreet consumer name
  | heartbeat h => exact publishHeartbeat_discreet s h
  | ensureUser u v => exact ensureUser_discreet u v
  | resetPassword u => exact resetPassword_discreet u
  | updatePermissions v u edit resource => exact updatePermissions_discreet v u edit resource

end Workflows

end Control

end BrokerControl
