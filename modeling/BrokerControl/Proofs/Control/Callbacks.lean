import BrokerControl.Proofs.Control.Frame
import BrokerControl.Proofs.Control.Subscription

/-! # The workflows of callback subscriptions

What each workflow does to the rows of the registry and to the published messages, for both ways it
can end. A row is written only when all its keys are bound, and announced only when it is written. -/

namespace BrokerControl.Control

open Access (RoutingKey isRoutingKey)
open Broker (Address Binding)

variable {w : World} {s : Settings}

/-- No row was touched and no message published. -/
structure World.Silent (w w' : World) : Prop where
  registry : w'.registry = w.registry
  published : w'.broker.published = w.broker.published

theorem World.Silent.refl (w : World) : w.Silent w := ⟨rfl, rfl⟩

/-! ## Keys of a queue -/

/-- A queue is bound to each of some keys, all of them well formed, from the exchange it names. -/
def Carries (b : Broker) (a : Address) (keys : List String) : Prop :=
  ∀ text ∈ keys, ∃ key, RoutingKey.ofString? text = .ok key ∧
    ⟨a.vhost, key.exchange, a.name, text⟩ ∈ b.bindings

theorem Carries.mono {b b' : Broker} {a : Address} {keys : List String} (h : Carries b a keys)
    (hkept : ∀ x ∈ b.bindings, x.target = a → x ∈ b'.bindings) : Carries b' a keys := by
  intro text htext
  obtain ⟨key, hkey, hx⟩ := h text htext
  exact ⟨key, hkey, hkept _ hx rfl⟩

theorem carries_withKeys {b : Broker} {a : Address} {keys : List String}
    (h : ∀ key ∈ keys, b.takes a key = true) : Carries (b.withKeys a keys) a keys := by
  intro text htext
  have hvalid : isRoutingKey text = true := by
    have htakes := h text htext
    rw [Broker.takes, Bool.and_eq_true] at htakes
    exact htakes.1
  obtain ⟨key, hkey⟩ := RoutingKey.exists_of_isRoutingKey hvalid
  refine ⟨key, hkey, mem_addAll.2 (.inr (List.mem_map.2 ⟨text, htext, ?_⟩))⟩
  rw [exchange_eq_exchangeOf hkey]

/-- When binding succeeds the queue carries all the keys. -/
theorem bindKeys_carries (a : Address) (keys : List String) :
    w.Ends (bindKeys a.vhost a.name keys)
      (fun _ w' => w.Silent w' ∧ Carries w'.broker a keys) fun _ w' => w.Silent w' := by
  refine (bindKeys_binds a keys).mono ?_ ?_
  · rintro - w' ⟨rfl, htakes⟩
    exact ⟨⟨rfl, rfl⟩, carries_withKeys htakes⟩
  · rintro f w' rfl
    exact ⟨rfl, rfl⟩

/-! ## Announcements -/

/-- The message that announces a change. -/
def announcement (s : Settings) (n : Notification) : Broker.Message :=
  ⟨s.internalVhost, s.notificationExchange, n.key, n.message.toUTF8⟩

/-- The call that announces a change. -/
abbrev announce (s : Settings) (n : Notification) : Broker.Call :=
  .publish s.internalVhost s.notificationExchange n.key n.message.toUTF8

/-- One message is all that changes. -/
theorem notify_publishes (n : Notification) :
    w.Ends (notify s n)
      (fun _ w' => w' = w.withBroker { w.broker with
        published := w.broker.published ++ [announcement s n] })
      fun _ w' => w' = w ∧ ∃ e, (w.broker.respond (announce s n)).1 = .error e := by
  refine .require (fun _ b hb => ?_) fun e he => ⟨rfl, e, congrArg Prod.fst he⟩
  rw [Broker.respond_publish] at hb
  split at hb <;> [skip; split at hb] <;> cases hb
  rfl

theorem notify_ends (n : Notification) :
    w.Ends (notify s n)
      (fun _ w' => w'.registry = w.registry ∧ w'.broker.bindings = w.broker.bindings ∧
        w'.broker.published = w.broker.published ++ [announcement s n])
      fun _ w' => w' = w ∧ ∃ e, (w.broker.respond (announce s n)).1 = .error e := by
  refine (notify_publishes n).mono ?_ fun _ _ h => h
  rintro - w' rfl
  exact ⟨rfl, rfl, rfl⟩

/-! ## Registering -/

/-- The queue of the callbacks. -/
abbrev callbackAddress (s : Settings) : Address := ⟨s.dataVhost, s.callbackQueue⟩

/-- A row that could not be announced is deleted again; it was only just written, so writes are not
rejected. -/
private theorem registry_abort_callback {r : Registry} {row : Registry.Callback} {name : String}
    {f : Failure}
    (hnew : r.callbacks.get? row.subscriptionId = none) (hwrites : r.rejectsWrites = false)
    (hrow : w.registry = { r with callbacks := r.callbacks.insert row.subscriptionId row }) :
    (w.runPlan (((Saga.begin name).onFailure (Creation.callback row.subscriptionId)).abort f :
      Plan _)).2.registry = r := by
  have hpresent : w.registry.callbacks.contains row.subscriptionId = true := by
    simp [hrow, Directory.contains_insert]
  rw [World.registry_abort]
  change (w.registry.respond (.deleteCallback row.subscriptionId)).2 = r
  rw [Registry.respond_deleteCallback, if_pos hpresent, hrow, hwrites, if_neg Bool.false_ne_true,
    Directory.erase_insert hnew, ← hwrites]

/-- A row is written and announced, or it is not written after all. -/
private theorem save_ends {α : Type} (row : Registry.Callback) (x : α)
    (hnew : w.registry.callbacks.get? row.subscriptionId = none) :
    let saga := (Saga.begin "callback_subscription").onFailure (Creation.callback row.subscriptionId)
    w.Ends
      (do
        match ← Procedure.registry (.insertCallback row) with
        | .ok _ => pure ()
        | .error (.conflict _) => throw (.duplicateSubscription row.subscriptionId)
        | .error e => throw (.persistence "Saving callback subscription failed" e)
        saga.guarded (notify s ⟨row.subscriptionId, .create⟩)
        saga.complete (m := Plan)
        return x)
      (fun _ w' =>
        w'.registry = { w.registry with
          callbacks := w.registry.callbacks.insert row.subscriptionId row } ∧
        w'.broker = { w.broker with
          published := w.broker.published ++ [announcement s ⟨row.subscriptionId, .create⟩] })
      fun _ w' => w'.registry = w.registry ∧ w'.broker = w.broker := by
  intro saga
  refine .bind (.registry fun inserted g hg => ?_)
  rw [Registry.respond_insertCallback] at hg
  split at hg <;> [skip; split at hg] <;> cases hg
  · exact .throw ⟨rfl, rfl⟩
  · exact .throw ⟨rfl, rfl⟩
  · next hwrites _ =>
    refine .bind (.guarded ((notify_publishes _).mono ?_ ?_))
    · rintro - w₁ rfl
      exact .bind (.complete (.pure ⟨rfl, rfl⟩))
    · rintro f w₁ ⟨rfl, -⟩
      refine ⟨registry_abort_callback hnew (by simpa using hwrites) rfl, ?_⟩
      rw [World.broker_abort]
      rfl

/-- A registration binds all its keys, writes a row for an id without one and announces it. Or it
leaves the registry as it was and has bound some of the first keys, none if there is such a row. -/
private theorem registerCallback_adds (r : CallbackRequest) :
    w.Ends (registerCallback s r)
      (fun _ w' => ∃ row : Registry.Callback,
        subscriptionId r.consumer r.name = .ok row.subscriptionId ∧
        row.callbackUrl = r.callbackUrl ∧ row.entities = r.entities ∧ r.entities ≠ [] ∧
        w.registry.callbacks.get? row.subscriptionId = none ∧
        w'.registry = { w.registry with
          callbacks := w.registry.callbacks.insert row.subscriptionId row } ∧
        w'.broker = { w.broker.withKeys (callbackAddress s) r.entities with
          published := w.broker.published ++ [announcement s ⟨row.subscriptionId, .create⟩] } ∧
        Carries w'.broker (callbackAddress s) r.entities)
      fun _ w' => w'.registry = w.registry ∧
        (∃ keys, keys <+: r.entities ∧ w'.broker = w.broker.withKeys (callbackAddress s) keys) ∧
        ∀ id, subscriptionId r.consumer r.name = .ok id →
          w.registry.callbacks.contains id = true → w' = w := by
  have huntouched : w.registry = w.registry ∧
      (∃ keys, keys <+: r.entities ∧ w.broker = w.broker.withKeys (callbackAddress s) keys) ∧
      ∀ id, subscriptionId r.consumer r.name = .ok id →
        w.registry.callbacks.contains id = true → w = w :=
    ⟨rfl, ⟨[], List.nil_prefix, rfl⟩, fun _ _ _ => rfl⟩
  unfold registerCallback
  refine .bind (.demand (fun _ => ?_) fun _ => huntouched)
  refine .bind (.demand (fun hentities => ?_) fun _ => huntouched)
  refine .bind (.ofExcept (fun id hid => ?_) fun _ _ => huntouched)
  refine .bind (.registry fun found g hg => ?_)
  rw [Registry.respond_getCallback] at hg
  split at hg <;> cases hg
  · exact .throw huntouched
  next hnew =>
  have hno {P : Prop} (id' : String) (hid' : subscriptionId r.consumer r.name = .ok id')
      (hrow : w.registry.callbacks.contains id' = true) : P := by
    cases hid.symm.trans hid'
    simp [Directory.contains, hnew] at hrow
  refine .bind ((bindKeys_binds (callbackAddress s) r.entities).mono ?_ ?_)
  · rintro - w₁ ⟨rfl, htakes⟩
    let row : Registry.Callback := ⟨id, r.callbackUrl, r.entities, w.now, w.now, w.now⟩
    refine .bind (.readClock ((save_ends row _ ?_).mono ?_ ?_))
    · exact hnew
    · rintro - w₂ ⟨hregistry, hbroker⟩
      refine ⟨row, hid, rfl, rfl, by simpa using hentities, hnew, hregistry, hbroker, ?_⟩
      rw [hbroker]
      exact carries_withKeys htakes
    · rintro f w₂ ⟨hregistry, hbroker⟩
      exact ⟨hregistry, ⟨r.entities, List.prefix_rfl, hbroker⟩, hno⟩
  · rintro f w₁ rfl
    exact ⟨rfl, ⟨_, List.takeWhile_prefix _, rfl⟩, hno⟩

/-- A registration of a callback that fails leaves the registry as it was, and everything of the
broker but the queue of the callbacks, to which some of the first keys may be bound. Nothing at all
changes if the id has a row already. One that succeeds adds one row, binds every key and publishes
one message. -/
theorem registerCallback_outcome (w : World) (s : Settings) (r : CallbackRequest) :
    match w.run s (.registerCallback r) with
    | (.error _, w') => w'.registry = w.registry ∧
        (∃ keys, keys <+: r.entities ∧ w'.broker = w.broker.withKeys (callbackAddress s) keys) ∧
        ∀ id, subscriptionId r.consumer r.name = .ok id →
          w.registry.callbacks.contains id = true → w' = w
    | (.ok _, w') => ∃ row : Registry.Callback,
        subscriptionId r.consumer r.name = .ok row.subscriptionId ∧
        row.callbackUrl = r.callbackUrl ∧ row.entities = r.entities ∧
        w.registry.callbacks.contains row.subscriptionId = false ∧
        w'.registry = { w.registry with
          callbacks := w.registry.callbacks.insert row.subscriptionId row } ∧
        w'.broker = { w.broker.withKeys (callbackAddress s) r.entities with
          published := w.broker.published ++ [announcement s ⟨row.subscriptionId, .create⟩] } ∧
        Carries w'.broker (callbackAddress s) r.entities := by
  rw [World.run_eq_exec]
  split
  · next f w' hrun => exact (registerCallback_adds r).of_error hrun
  · next x w' hrun =>
    obtain ⟨row, hid, hurl, hentities, -, hnew, hends⟩ := (registerCallback_adds r).of_ok hrun
    exact ⟨row, hid, hurl, hentities, by simp [Directory.contains, hnew], hends⟩

/-- A registration writes a row for an id without one, or changes no row at all. -/
theorem registerCallback_ends (r : CallbackRequest) :
    w.Ends (registerCallback s r)
      (fun _ w' => ∃ row : Registry.Callback,
        subscriptionId r.consumer r.name = .ok row.subscriptionId ∧
        row.entities = r.entities ∧ r.entities ≠ [] ∧
        w.registry.callbacks.get? row.subscriptionId = none ∧
        w'.registry.callbacks = w.registry.callbacks.insert row.subscriptionId row ∧
        Carries w'.broker (callbackAddress s) r.entities ∧
        w'.broker.published =
          w.broker.published ++ [announcement s ⟨row.subscriptionId, .create⟩])
      fun _ w' => w.Silent w' := by
  refine (registerCallback_adds r).mono ?_ ?_
  · rintro - w' ⟨row, hid, -, hentities, hne, hnew, hregistry, hbroker, hcarries⟩
    exact ⟨row, hid, hentities, hne, hnew, congrArg Registry.callbacks hregistry, hcarries,
      congrArg Broker.published hbroker⟩
  · rintro f w' ⟨hregistry, ⟨keys, -, hbroker⟩, -⟩
    exact ⟨hregistry, by rw [hbroker]; rfl⟩

/-! ## Updating -/

/-- An update gives a row new entities once they are all bound, or changes no row at all. It is
announced unless it fails. -/
theorem updateCallback_ends (r : CallbackRequest) :
    let replaced (id : String) (w' : World) := ∃ row : Registry.Callback,
      subscriptionId r.consumer r.name = .ok id ∧ r.entities ≠ [] ∧
        w.registry.callbacks.get? id = some row ∧
        w'.registry.callbacks =
          w.registry.callbacks.insert id { row with entities := r.entities } ∧
        Carries w'.broker (callbackAddress s) r.entities
    w.Ends (updateCallback s r)
      (fun _ w' => ∃ id, replaced id w' ∧
        w'.broker.published = w.broker.published ++ [announcement s ⟨id, .update⟩])
      fun _ w' => w'.broker.published = w.broker.published ∧
        (w'.registry = w.registry ∨ ∃ id, replaced id w') := by
  intro replaced
  have hsame : ∀ w' : World, w.Silent w' → w'.broker.published = w.broker.published ∧
      (w'.registry = w.registry ∨ ∃ id, replaced id w') :=
    fun w' h => ⟨h.published, .inl h.registry⟩
  unfold updateCallback
  refine .bind (.demand (fun hentities => ?_) fun _ => hsame _ (.refl w))
  refine .bind (.ofExcept (fun id hid => ?_) fun _ _ => hsame _ (.refl w))
  refine .bind (.requireRow (fun row g hg => ?_) fun e _ => hsame _ (.refl w))
  rw [Registry.respond_getCallback] at hg
  split at hg <;> cases hg
  next hrow =>
  refine .bind ((bindKeys_carries (callbackAddress s) r.entities).mono ?_
    fun _ w' h => hsame w' ⟨h.registry, h.published⟩)
  intro _ w₁ hend
  obtain ⟨hsilent, hcarries⟩ := hend
  have hregistry : w₁.registry = w.registry := hsilent.registry
  refine .bind (.requireRow (fun _ g hg => ?_) fun e _ => hsame _ ⟨hregistry, hsilent.published⟩)
  rw [Registry.respond_updateEntities, hregistry, hrow] at hg
  split at hg <;> cases hg
  have hentities : r.entities ≠ [] := by simpa using hentities
  refine .bind ((notify_ends _).mono ?_ ?_)
  · intro _ w₂ hend
    obtain ⟨hregistry, hbindings, hpublished⟩ := hend
    refine .pure ⟨id, ⟨_, hid, hentities, hrow, congrArg Registry.callbacks hregistry, ?_⟩, ?_⟩
    · exact hcarries.mono fun x hx _ => hbindings ▸ hx
    · exact hpublished.trans (congrArg (· ++ _) hsilent.published)
  · intro _ w₂ hend
    obtain ⟨rfl, -⟩ := hend
    exact ⟨hsilent.published, .inr ⟨id, _, hid, hentities, hrow, rfl, hcarries⟩⟩

/-! ## Deleting -/

/-- A deletion that succeeds takes the row out. Whether it was announced can be told from what the
broker answered. -/
theorem deleteCallback_ends {P : (e : Effect) → e.Answer → Prop} {r : DeleteCallback}
    (hhears : w.Hears P (deleteCallback s r)) :
    w.Ends (deleteCallback s r)
      (fun _ w' => ∃ id, subscriptionId r.consumer r.name = .ok id ∧
        w.registry.callbacks.contains id = true ∧
        w'.registry.callbacks = w.registry.callbacks.erase id ∧
        (w'.broker.published = w.broker.published ++ [announcement s ⟨id, .delete⟩] ∨
          w'.broker.published = w.broker.published ∧
            ∃ e, P (.broker (announce s ⟨id, .delete⟩)) (.error e)))
      fun _ w' => w' = w := by
  unfold deleteCallback at hhears ⊢
  refine .bind_hearing hhears (.ofExcept (fun id hid hhears => ?_) fun _ _ => rfl)
  refine .bind_hearing hhears (.requireRow (fun row g hg hhears => ?_) fun _ _ => rfl)
  rw [Registry.respond_getCallback] at hg
  split at hg <;> cases hg
  refine .bind_hearing hhears (.requireRow (fun _ g hg hhears => ?_) fun _ _ => rfl)
  change w.registry.respond _ = _ at hg
  rw [Registry.respond_deleteCallback] at hg
  split at hg <;> [skip; split at hg] <;> cases hg
  next hpresent =>
  refine .attempt ((notify_ends _).mono ?_ ?_)
  · intro _ w₁ hend
    obtain ⟨hregistry, -, hpublished⟩ := hend
    exact ⟨id, hid, hpresent, congrArg Registry.callbacks hregistry, .inl hpublished⟩
  · intro _ w₁ hend
    obtain ⟨rfl, e, he⟩ := hend
    refine ⟨id, hid, hpresent, rfl, .inr ⟨rfl, e, ?_⟩⟩
    rw [← he]
    exact hhears.of_attempt.require

end BrokerControl.Control
