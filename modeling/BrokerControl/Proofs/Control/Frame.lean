import BrokerControl.Proofs.Control.Execution
import BrokerControl.Proofs.Control.Footprint

/-! # What operations leave alone

Outside the parts that an operation can alter, whatever was there is there afterwards. It may be
joined by something new, but not by a grant, a message or a callback. -/

namespace BrokerControl

open Broker (Address Binding)

namespace Broker

/-- The exchange that a message was published on. -/
def Message.address (m : Message) : Address := ⟨m.vhost, m.exchange⟩

/-- The messages published on an exchange, in order. -/
def messagesAt (b : Broker) (a : Address) : List Message := b.published.filter (·.address = a)

end Broker

namespace Control

/-- Outside some parts a broker has kept what another has. -/
structure KeepsBroker (S : Part → Prop) (b b' : Broker) : Prop where
  vhosts : ∀ v, ¬S (.vhost v) → b.vhosts.contains v = true → b'.vhosts.contains v = true
  exchanges : ∀ a, ¬S (.exchange a) → b.exchanges.contains a = true →
    b'.exchanges.contains a = true
  queues : ∀ a, ¬S (.queue a) → b.queues.contains a = true → b'.queues.contains a = true
  bindings : ∀ x ∈ b.bindings, ¬S (.exchange x.source) → ¬S (.queue x.target) → ¬S (.binding x) →
    x ∈ b'.bindings
  users : ∀ u p, ¬S (.password u) → b.users.get? u = some p → b'.users.get? u = some p
  grants : ∀ a, ¬S (.grant a) → b'.grants.get? a = b.grants.get? a
  messages : ∀ a, ¬S (.messages a) → b'.messagesAt a = b.messagesAt a

/-- Outside some parts a registry has kept what another has. -/
structure KeepsRegistry (S : Part → Prop) (r r' : Registry) : Prop where
  credentials : ∀ u c, ¬S (.credential u) → r.credentials.get? u = some c →
    r'.credentials.get? u = some c
  callbacks : ∀ id, ¬S (.callback id) → r'.callbacks.get? id = r.callbacks.get? id

variable {S : Part → Prop}

namespace KeepsBroker

variable {b b' b'' : Broker}

theorem refl (S : Part → Prop) (b : Broker) : KeepsBroker S b b :=
  ⟨fun _ _ h => h, fun _ _ h => h, fun _ _ h => h, fun _ h _ _ _ => h, fun _ _ _ h => h,
    fun _ _ => rfl, fun _ _ => rfl⟩

theorem trans (h : KeepsBroker S b b') (h' : KeepsBroker S b' b'') : KeepsBroker S b b'' where
  vhosts v hv hb := h'.vhosts v hv (h.vhosts v hv hb)
  exchanges a ha hb := h'.exchanges a ha (h.exchanges a ha hb)
  queues a ha hb := h'.queues a ha (h.queues a ha hb)
  bindings x hx he hq hx' := h'.bindings x (h.bindings x hx he hq hx') he hq hx'
  users u p hu hb := h'.users u p hu (h.users u p hu hb)
  grants a ha := (h'.grants a ha).trans (h.grants a ha)
  messages a ha := (h'.messages a ha).trans (h.messages a ha)

/-- A call keeps what it does not alter. -/
theorem respond (b : Broker) (c : Broker.Call)
    (h : ∀ t, (Effect.broker c).part? = some t → S t) : KeepsBroker S b (b.respond c).2 := by
  have hsame := refl S b
  cases c with
  | createExchange vhost name =>
    rw [Broker.respond_createExchange]
    split
    · exact hsame
    · exact { hsame with exchanges := fun a _ hb => by simp [Directory.contains_insert, hb] }
  | deleteExchange vhost name =>
    have hS := h _ rfl
    rw [Broker.respond_deleteExchange]
    split <;> [skip; split]
    · exact hsame
    · refine { hsame with exchanges := fun a ha hb => ?_, bindings := fun x hx he _ _ => ?_ }
      · have hne : (⟨vhost, name⟩ : Address) ≠ a := fun he => ha (he ▸ hS)
        simp [Broker.withoutExchange, Directory.contains_erase, hne, hb]
      · have hne : x.source ≠ ⟨vhost, name⟩ := fun hs => he (hs ▸ hS)
        simp [Broker.withoutExchange, hx, hne]
    · exact hsame
  | createQueue vhost name =>
    rw [Broker.respond_createQueue]
    split
    · exact hsame
    · exact { hsame with queues := fun a _ hb => by simp [Directory.contains_insert, hb] }
  | deleteQueue vhost name =>
    have hS := h _ rfl
    rw [Broker.respond_deleteQueue]
    split <;> [skip; split]
    · exact hsame
    · refine { hsame with queues := fun a ha hb => ?_, bindings := fun x hx _ hq _ => ?_ }
      · have hne : (⟨vhost, name⟩ : Address) ≠ a := fun he => ha (he ▸ hS)
        simp [Broker.withoutQueue, Directory.contains_erase, hne, hb]
      · have hne : x.target ≠ ⟨vhost, name⟩ := fun ht => hq (ht ▸ hS)
        simp [Broker.withoutQueue, hx, hne]
    · exact hsame
  | bindQueue vhost exchange queue key =>
    rw [Broker.respond_bindQueue]
    split <;> [skip; split <;> [skip; split]]
    · exact hsame
    · exact hsame
    · exact hsame
    · exact { hsame with bindings := fun x hx _ _ _ => mem_addLast.2 (.inl hx) }
  | unbindQueue vhost exchange queue key =>
    have hS := h _ rfl
    rw [Broker.respond_unbindQueue]
    split
    · refine { hsame with bindings := fun x hx _ _ hb => List.mem_filter.2 ⟨hx, ?_⟩ }
      have hne : x ≠ ⟨vhost, exchange, queue, key⟩ := fun he => hb (he ▸ hS)
      simp [hne]
    · exact hsame
  | createUser name password =>
    rw [Broker.respond_createUser]
    split
    · exact hsame
    · next hnew =>
      refine { hsame with users := fun u p _ hb => ?_ }
      have hne : name ≠ u := by
        rintro rfl
        exact hnew (Directory.contains_iff.2 ⟨p, hb⟩)
      simp [Directory.get?_insert, hne, hb]
  | updateUserPassword name password =>
    have hS := h _ rfl
    rw [Broker.respond_updateUserPassword]
    split
    · refine { hsame with users := fun u p hu hb => ?_ }
      have hne : name ≠ u := fun he => hu (he ▸ hS)
      simp [Directory.get?_insert, hne, hb]
    · exact hsame
  | createVhost name =>
    rw [Broker.respond_createVhost]
    split
    · exact hsame
    · exact { hsame with vhosts := fun v _ hb => by simp [Directory.contains_insert, hb] }
  | deleteVhost name =>
    have hS := h _ rfl
    rw [Broker.respond_deleteVhost]
    split
    · refine { hsame with vhosts := fun v hv hb => ?_ }
      have hne : name ≠ v := fun he => hv (he ▸ hS)
      simp [Directory.contains_erase, hne, hb]
    · exact hsame
  | setUserPermissions vhost user g =>
    have hS := h _ rfl
    rw [Broker.respond_setUserPermissions]
    split <;> [skip; split]
    · exact hsame
    · refine { hsame with grants := fun a ha => ?_ }
      have hne : (⟨vhost, user⟩ : Address) ≠ a := fun he => ha (he ▸ hS)
      simp [Directory.get?_insert, hne]
    · exact hsame
  | publish vhost exchange key body =>
    have hS := h _ rfl
    rw [Broker.respond_publish]
    split <;> [skip; split]
    · exact hsame
    · refine { hsame with messages := fun a ha => ?_ }
      have hne : (⟨vhost, exchange⟩ : Address) ≠ a := fun he => ha (he ▸ hS)
      simp [Broker.messagesAt, Broker.Message.address, hne]
    · exact hsame
  | getExchange | listExchangeBindings | listQueueBindings | getUser | listVhosts
  | getUserPermissions =>
    rw [Broker.respond_of_isQuestion]
    · exact hsame
    · trivial

end KeepsBroker

namespace KeepsRegistry

variable {r r' r'' : Registry}

theorem refl (S : Part → Prop) (r : Registry) : KeepsRegistry S r r :=
  ⟨fun _ _ _ h => h, fun _ _ => rfl⟩

theorem trans (h : KeepsRegistry S r r') (h' : KeepsRegistry S r' r'') : KeepsRegistry S r r'' where
  credentials u c hu hr := h'.credentials u c hu (h.credentials u c hu hr)
  callbacks id hid := (h'.callbacks id hid).trans (h.callbacks id hid)

/-- A call keeps what it does not alter. -/
theorem respond (r : Registry) (c : Registry.Call)
    (h : ∀ t, (Effect.registry c).part? = some t → S t) : KeepsRegistry S r (r.respond c).2 := by
  have hsame := refl S r
  cases c with
  | getCredential u => rw [Registry.respond_getCredential]; split <;> exact hsame
  | insertCredential c =>
    rw [Registry.respond_insertCredential]
    split <;> [skip; split]
    · exact hsame
    · exact hsame
    · next hnew =>
      refine { hsame with credentials := fun u c' _ hr => ?_ }
      have hne : c.username ≠ u := by
        rintro rfl
        exact hnew (Directory.contains_iff.2 ⟨c', hr⟩)
      simp [Directory.get?_insert, hne, hr]
  | updatePassword u hash =>
    have hS := h _ rfl
    rw [Registry.respond_updatePassword]
    split <;> [skip; split]
    · exact hsame
    · refine { hsame with credentials := fun u' c' hu hr => ?_ }
      have hne : u ≠ u' := fun he => hu (he ▸ hS)
      simp [Directory.get?_insert, hne, hr]
    · exact hsame
  | getCallback id => rw [Registry.respond_getCallback]; split <;> exact hsame
  | insertCallback c =>
    have hS := h _ rfl
    rw [Registry.respond_insertCallback]
    split <;> [skip; split]
    · exact hsame
    · exact hsame
    · refine { hsame with callbacks := fun id hid => ?_ }
      have hne : c.subscriptionId ≠ id := fun he => hid (he ▸ hS)
      simp [Directory.get?_insert, hne]
  | updateEntities id entities =>
    have hS := h _ rfl
    rw [Registry.respond_updateEntities]
    split <;> [skip; split]
    · exact hsame
    · refine { hsame with callbacks := fun id' hid => ?_ }
      have hne : id ≠ id' := fun he => hid (he ▸ hS)
      simp [Directory.get?_insert, hne]
    · exact hsame
  | deleteCallback id =>
    have hS := h _ rfl
    rw [Registry.respond_deleteCallback]
    split <;> [skip; split]
    · exact hsame
    · refine { hsame with callbacks := fun id' hid => ?_ }
      have hne : id ≠ id' := fun he => hid (he ▸ hS)
      simp [Directory.get?_erase, hne]
    · exact hsame

end KeepsRegistry

/-! ## Plans and operations -/

namespace World

/-- Outside some parts a world has kept what another has. -/
structure Keeps (S : Part → Prop) (w w' : World) : Prop where
  broker : KeepsBroker S w.broker w'.broker
  registry : KeepsRegistry S w.registry w'.registry

theorem Keeps.refl (S : Part → Prop) (w : World) : w.Keeps S w := ⟨.refl S _, .refl S _⟩

theorem Keeps.trans {w w' w'' : World} (h : w.Keeps S w') (h' : w'.Keeps S w'') : w.Keeps S w'' :=
  ⟨h.broker.trans h'.broker, h.registry.trans h'.registry⟩

theorem keeps_handle (w : World) (e : Effect) (h : ∀ t, e.part? = some t → S t) :
    w.Keeps S (handle e w).2 := by
  cases e with
  | broker c => exact ⟨.respond w.broker c h, .refl S _⟩
  | registry c => exact ⟨.refl S _, .respond w.registry c h⟩
  | drawPassword => exact ⟨.refl S _, .refl S _⟩
  | readClock => exact .refl S w
  | count event => exact ⟨.refl S _, .refl S _⟩

theorem keeps_runPlan {α : Type} {p : Plan α} (hp : p.Alters S) (w : World) :
    w.Keeps S (w.runPlan p).2 := by
  induction p generalizing w with
  | done a => exact .refl S w
  | step e next ih =>
    exact (keeps_handle w e hp.1).trans (ih (handle e w).1 (hp.2 _) (handle e w).2)

theorem keeps_exec {α : Type} {p : Procedure α} (hp : p.Alters S) (w : World) :
    w.Keeps S (w.exec p).2 := keeps_runPlan hp w

/-- Whatever its result, an operation keeps what is outside its parts. -/
theorem keeps_run (w : World) (s : Settings) (op : Operation) :
    w.Keeps (op.Alters s) (w.run s op).2 := keeps_exec (op.procedure_alters s) w

end World

end Control

end BrokerControl
