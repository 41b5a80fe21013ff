import BrokerControl.Proofs.Control.Callbacks
import BrokerControl.Proofs.Control.Runs
import BrokerControl.Proofs.Control.Streaming

/-! # Subscription requests that are rejected

Keys are read one at a time while they are bound, so a request with a malformed key is rejected when
part of the work is done. What is left of it then can be told from the request. -/

namespace BrokerControl.Control

open Broker (Address Topology)

variable {w w' : World} {s : Settings} {t : Topology}

/-- The request itself is at fault. -/
def Failure.IsValidation : Failure → Prop
  | .validation _ => True
  | _ => False

/-- The operation registers a subscription or gives one new keys. -/
def Operation.Subscribes : Operation → Prop
  | .registerStreaming _ | .updateStreaming _ | .registerCallback _ | .updateCallback _ => True
  | _ => False

/-- A consumer and a name that make an id. -/
def Named (consumer name : String) : Prop := ∃ id, subscriptionId consumer name = .ok id

instance (consumer name : String) : Decidable (Named consumer name) :=
  match h : subscriptionId consumer name with
  | .ok id => .isTrue ⟨id, h⟩
  | .error _ => .isFalse fun ⟨id, hid⟩ => by cases h.symm.trans hid

/-! ## What is left -/

/-- The keys that are bound before a malformed one is met. -/
def boundFirst (entities : List String) : List String := entities.takeWhile Access.isRoutingKey

/-- The topology that a rejected request leaves: an update has lost its queue, and the queue of the
callbacks has got the keys before the malformed one. -/
def Operation.residue (s : Settings) (t : Topology) : Operation → Topology
  | .updateStreaming r =>
    match subscriptionId r.consumer r.name with
    | .ok id => if r.entities = [] then t else t.withoutQueue ⟨s.dataVhost, id⟩
    | .error _ => t
  | .registerCallback r =>
    if Text.isBlank r.callbackUrl = false ∧ Named r.consumer r.name then
      t.withKeys (callbackAddress s) (boundFirst r.entities)
    else t
  | .updateCallback r =>
    if Named r.consumer r.name then t.withKeys (callbackAddress s) (boundFirst r.entities) else t
  | _ => t

/-- Some key before the malformed one is not bound to the queue of the callbacks yet. -/
def BindsNew (s : Settings) (t : Topology) (entities : List String) : Prop :=
  ∃ key ∈ boundFirst entities,
    ⟨s.dataVhost, exchangeOf key, s.callbackQueue, key⟩ ∉ t.bindings

/-- There is something that the request changes before it is rejected. -/
def Operation.Spoils (s : Settings) (t : Topology) : Operation → Prop
  | .updateStreaming r => r.entities ≠ [] ∧
    ∃ id, subscriptionId r.consumer r.name = .ok id ∧ t.queues.contains ⟨s.dataVhost, id⟩ = true
  | .registerCallback r =>
    (Text.isBlank r.callbackUrl = false ∧ Named r.consumer r.name) ∧ BindsNew s t r.entities
  | .updateCallback r => Named r.consumer r.name ∧ BindsNew s t r.entities
  | _ => False

private theorem withoutQueue_eq_iff {a : Address} (hfree : t.queues.contains a = false →
    ∀ x ∈ t.bindings, x.target ≠ a) : t.withoutQueue a = t ↔ ¬t.queues.contains a = true := by
  constructor
  · intro h hpresent
    rw [← h] at hpresent
    simp [Topology.withoutQueue, Directory.contains_erase] at hpresent
  · intro hno
    rw [Bool.not_eq_true] at hno
    exact t.withoutQueue_of_not_contains hno (hfree hno)

private theorem withKeys_eq_iff (entities : List String) :
    t.withKeys (callbackAddress s) (boundFirst entities) = t ↔ ¬BindsNew s t entities := by
  have hbindings : t.withKeys (callbackAddress s) (boundFirst entities) = t ↔
      addAll t.bindings (Broker.keyBindings (callbackAddress s) (boundFirst entities)) =
        t.bindings := by
    constructor
    · exact congrArg Topology.bindings
    · exact fun h => by rw [Topology.withKeys, Topology.withBindings, h]
  rw [hbindings, addAll_eq_self_iff]
  simp [BindsNew, Broker.keyBindings]

/-- A rejected request leaves everything as it was exactly if there is nothing that it spoils. -/
theorem Operation.residue_eq_iff (op : Operation) (hfree : ∀ a, t.queues.contains a = false →
    ∀ x ∈ t.bindings, x.target ≠ a) : op.residue s t = t ↔ ¬op.Spoils s t := by
  cases op with
  | updateStreaming r =>
    cases hid : subscriptionId r.consumer r.name with
    | error f => simp [residue, Spoils, hid]
    | ok id =>
      by_cases hne : r.entities = []
      · simp [residue, Spoils, hid, hne]
      · simp [residue, Spoils, hid, hne, withoutQueue_eq_iff (hfree ⟨s.dataVhost, id⟩)]
  | registerCallback r =>
    by_cases h : Text.isBlank r.callbackUrl = false ∧ Named r.consumer r.name
    · rw [residue, if_pos h, withKeys_eq_iff]
      exact not_congr (and_iff_right h).symm
    · rw [residue, if_neg h]
      exact iff_of_true rfl fun hs => h hs.1
  | updateCallback r =>
    by_cases h : Named r.consumer r.name
    · rw [residue, if_pos h, withKeys_eq_iff]
      exact not_congr (and_iff_right h).symm
    · rw [residue, if_neg h]
      exact iff_of_true rfl fun hs => h hs.1
  | _ => simp [residue, Spoils]

/-! ## Malformed keys -/

/-- When a key is found malformed, exactly the keys before it are bound. -/
theorem bindKeys_rejects (a : Address) (keys : List String) :
    w.Ends (bindKeys a.vhost a.name keys) (fun _ _ => True)
      fun f w' => w'.registry = w.registry ∧ (f.IsValidation →
        w'.broker.topology = w.broker.topology.withKeys a (boundFirst keys)) := by
  induction keys generalizing w with
  | nil => exact .pure trivial
  | cons text keys ih =>
    cases hvalid : Access.isRoutingKey text with
    | true =>
      rw [bindKeys_cons_of_isRoutingKey hvalid]
      refine .bind (.require (fun _ b hb => ?_) fun _ _ => ⟨rfl, False.elim⟩)
      obtain ⟨-, rfl⟩ := Broker.of_bindQueue_ok hb
      refine (ih (w := w.withBroker (w.broker.withBinding
        ⟨a.vhost, exchangeOf text, a.name, text⟩))).mono (fun _ _ h => h) fun f w' hend => ?_
      obtain ⟨hregistry, ht⟩ := hend
      refine ⟨hregistry, fun hf => (ht hf).trans ?_⟩
      rw [show boundFirst (text :: keys) = text :: boundFirst keys from
        List.takeWhile_cons_of_pos hvalid]
      rfl
    | false =>
      rw [bindKeys_cons_of_not_isRoutingKey hvalid]
      refine .throw ⟨rfl, fun _ => ?_⟩
      rw [boundFirst, List.takeWhile_cons_of_neg (by simp [hvalid])]
      rfl

/-! ## Rejected operations -/

private theorem updateStreaming_rejected (hwell : w.broker.WellFormed)
    (hworks : w.broker.faults.deleteQueue = false) (r : StreamingRequest) :
    w.Ends (updateStreaming s r) (fun _ _ => True) fun _ w' =>
      w'.broker.topology = (Operation.updateStreaming r).residue s w.broker.topology := by
  by_cases hne : r.entities = []
  · refine (updateStreaming_invalid (.inl hne)).mono (fun _ _ => False.elim) fun _ w' h => ?_
    rw [h, Operation.residue]
    split <;> simp [hne]
  cases hid : subscriptionId r.consumer r.name with
  | error f =>
    refine (updateStreaming_invalid (.inr fun id h => ?_)).mono (fun _ _ => False.elim)
      fun _ w' h => ?_
    · cases hid.symm.trans h
    · rw [h, Operation.residue, hid]
  | ok id =>
    refine (updateStreaming_ends hwell hworks hne hid).mono (fun _ _ _ => trivial) fun _ w' ht => ?_
    rw [ht, Operation.residue, hid]
    exact (if_neg hne).symm

private theorem registerCallback_rejected (r : CallbackRequest) :
    w.Ends (registerCallback s r) (fun _ _ => True) fun f w' => f.IsValidation →
      w'.broker.topology = (Operation.registerCallback r).residue s w.broker.topology := by
  have hempty (h : r.entities = []) (t : Topology) :
      (Operation.registerCallback r).residue s t = t := by
    simp only [Operation.residue, h]
    split <;> rfl
  unfold registerCallback
  refine .bind (.demand (fun hurl => ?_) fun hurl _ => ?_)
  swap
  · simp only [Bool.not_eq_false'] at hurl
    simp [Operation.residue, hurl]
  refine .bind (.demand (fun _ => ?_) fun he _ => (hempty (by simpa using he) _).symm)
  refine .bind (.ofExcept (fun id hid => ?_) fun f hid _ => ?_)
  swap
  · have hno : ¬Named r.consumer r.name := fun ⟨id, h⟩ => by cases hid.symm.trans h
    simp [Operation.residue, hno]
  refine .bind (.registry fun found g hg => ?_)
  rw [Registry.respond_getCallback] at hg
  split at hg
  · cases hg
    exact .throw False.elim
  cases hg
  refine .bind ((bindKeys_rejects (callbackAddress s) r.entities).mono (fun _ w₁ _ => ?_)
    fun f w₁ hend hf => ?_)
  · -- a failure from here on is not that of the request
    refine .bind (.readClock (.bind (.registry fun inserted g hg => ?_)))
    rw [Registry.respond_insertCallback] at hg
    split at hg <;> [skip; split at hg] <;> cases hg
    · exact .throw False.elim
    · exact .throw False.elim
    · refine .bind (.guarded (.require (fun _ _ _ => ?_) fun _ _ => False.elim))
      exact .bind (.complete (.pure trivial))
  · have hurl : Text.isBlank r.callbackUrl = false := by simpa using hurl
    rw [hend.2 hf, Operation.residue, if_pos ⟨hurl, id, hid⟩]
    rfl

private theorem updateCallback_rejected (r : CallbackRequest) :
    w.Ends (updateCallback s r) (fun _ _ => True) fun f w' => f.IsValidation →
      w'.registry = w.registry ∧
        w'.broker.topology = (Operation.updateCallback r).residue s w.broker.topology := by
  unfold updateCallback
  refine .bind (.demand (fun _ => ?_) fun he _ => ⟨rfl, ?_⟩)
  swap
  · have he : r.entities = [] := by simpa using he
    simp only [Operation.residue, he]
    split <;> rfl
  refine .bind (.ofExcept (fun id hid => ?_) fun f hid _ => ⟨rfl, ?_⟩)
  swap
  · have hno : ¬Named r.consumer r.name := fun ⟨id, h⟩ => by cases hid.symm.trans h
    simp [Operation.residue, hno]
  refine .bind (.requireRow (fun row g hg => ?_) fun e _ hf => ?_)
  swap
  · cases e <;> exact hf.elim
  rw [Registry.respond_getCallback] at hg
  split at hg <;> cases hg
  refine .bind ((bindKeys_rejects (callbackAddress s) r.entities).mono (fun _ w₁ _ => ?_)
    fun f w₁ hend hf => ⟨hend.1, ?_⟩)
  · refine .bind (.requireRow (fun _ _ _ => ?_) fun e _ hf => ?_)
    · exact .bind (.require (fun _ _ _ => .pure trivial) fun _ _ => False.elim)
    · cases e <;> exact hf.elim
  · rw [hend.2 hf, Operation.residue, if_pos ⟨id, hid⟩]
    rfl

/-- Rows are left as they were by every subscription request that is rejected. -/
private theorem callbacks_of_rejected {op : Operation} (hop : op.Subscribes) {f : Failure}
    (hrun : w.run s op = (.error f, w')) (hf : f.IsValidation) :
    w'.registry.callbacks = w.registry.callbacks := by
  have hkept := (w.keeps_run s op).registry.callbacks
  rw [hrun] at hkept
  cases op with
  | registerStreaming r => exact Directory.ext_get? fun id => hkept id not_false
  | updateStreaming r => exact Directory.ext_get? fun id => hkept id not_false
  | registerCallback r =>
    exact congrArg Registry.callbacks ((registerCallback_ends r).of_error hrun).registry
  | updateCallback r =>
    exact congrArg Registry.callbacks ((updateCallback_rejected r).of_error hrun hf).1
  | _ => exact hop.elim

/-- A subscription request that is rejected leaves the rows as they were and the topology as can be
told from the request: exactly as it was, unless the request updates a subscription that has a queue,
or a key of a callback is new and comes before the malformed one. -/
theorem rejected_subscription (hb : w.broker.Reachable)
    (hworks : w.broker.faults.deleteQueue = false) {op : Operation} (hop : op.Subscribes)
    {message : String} (hrun : w.run s op = (.error (.validation message), w')) :
    w'.registry.callbacks = w.registry.callbacks ∧
      w'.broker.topology = op.residue s w.broker.topology ∧
      (w'.broker.topology = w.broker.topology ↔ ¬op.Spoils s w.broker.topology) := by
  have ht : w'.broker.topology = op.residue s w.broker.topology := by
    cases op with
    | registerStreaming r =>
      exact (registerStreaming_ends hb.wellFormed hworks r).of_error hrun
    | updateStreaming r =>
      exact (updateStreaming_rejected hb.wellFormed hworks r).of_error hrun
    | registerCallback r => exact (registerCallback_rejected r).of_error hrun trivial
    | updateCallback r => exact ((updateCallback_rejected r).of_error hrun trivial).2
    | _ => exact hop.elim
  refine ⟨callbacks_of_rejected hop hrun trivial, ht, ?_⟩
  rw [ht]
  exact op.residue_eq_iff fun a => hb.wellFormed.target_ne

/-- With a malformed key in the second place the first is bound to the queue of the callbacks. -/
theorem rejected_subscription_second_key :
    let now : Timestamp := ⟨⟨2024, 1, 1, by decide⟩, 0, 0, 0, by decide⟩
    let w := (World.new (fun _ => "secret") now).after {} [.perform .bootstrap,
      .perform (.registerAdaptor ⟨"a/b/c/d", "alice", none⟩)]
    let r : CallbackRequest := ⟨"user@org", "feed", "https://org/in", ["a/b/c/d/e", "f"]⟩
    w.broker.Reachable ∧ w.broker.faults.deleteQueue = false ∧
      (Operation.registerCallback r).Subscribes ∧
      ∃ w', w.run {} (.registerCallback r) =
          (.error (.validation "Invalid routing key: f"), w') ∧
        w'.registry.callbacks = w.registry.callbacks ∧
        w'.broker.topology = w.broker.topology.withKeys ⟨"IUDX", "callback.data"⟩ ["a/b/c/d/e"] ∧
        w'.broker.topology ≠ w.broker.topology := by
  intro now w r
  have hb : w.broker.Reachable := World.reachable_after .new {} _
  have hworks : w.broker.faults.deleteQueue = false := by decide +kernel
  have hrun : (w.run {} (.registerCallback r)).1 =
      .error (.validation "Invalid routing key: f") := by decide +kernel
  have hbound : boundFirst r.entities = ["a/b/c/d/e"] := by decide +kernel
  have hcomplete : Text.isBlank r.callbackUrl = false ∧ Named r.consumer r.name := by
    decide +kernel
  have hnew : ⟨"IUDX", "a/b/c/d", "callback.data", "a/b/c/d/e"⟩ ∉ w.broker.bindings := by
    decide +kernel
  have hexchange : exchangeOf "a/b/c/d/e" = "a/b/c/d" := by decide +kernel
  have hop : (Operation.registerCallback r).Subscribes := trivial
  clear_value w
  rcases hpair : w.run {} (.registerCallback r) with ⟨x, w'⟩
  rw [hpair] at hrun
  obtain rfl : x = _ := hrun
  obtain ⟨hrows, ht, hiff⟩ := rejected_subscription hb hworks hop hpair
  refine ⟨hb, hworks, hop, w', rfl, hrows, ht.trans ?_, fun h => hiff.1 h ⟨hcomplete, ?_⟩⟩
  · rw [Operation.residue, if_pos hcomplete, hbound]
  · exact ⟨"a/b/c/d/e", by simp [hbound], by rwa [hexchange]⟩

/-- An update with a malformed key costs the subscription its queue. -/
theorem queue_lost_to_rejection :
    let now : Timestamp := ⟨⟨2024, 1, 1, by decide⟩, 0, 0, 0, by decide⟩
    let w := (World.new (fun _ => "secret") now).after {} [.perform .bootstrap,
      .perform (.registerAdaptor ⟨"a/b/c/d", "alice", none⟩),
      .perform (.registerStreaming ⟨"user@org", "feed", ["a/b/c/d/e"]⟩)]
    let run := w.run {} (.updateStreaming ⟨"user@org", "feed", ["f"]⟩)
    let a : Address := ⟨"IUDX", "org/a7c5b64320c4f78b8a233c0dcc6d38505b70a53c/feed"⟩
    w.broker.faults = {} ∧ run.1 = .error (.validation "Invalid routing key: f") ∧
      w.broker.topology.keysAt a = some ["a/b/c/d/e"] ∧ run.2.broker.topology.keysAt a = none := by
  decide +kernel

end BrokerControl.Control
