import BrokerControl.Control.Subscription
import BrokerControl.Proofs.Access.RoutingKey
import BrokerControl.Proofs.Broker.Topology
import BrokerControl.Proofs.Control.Execution

/-! # The keys of a queue

All bindings are in one list; the keys of a queue are read off those that lead to it. Subscriptions
are bound to each key from the exchange that the key names, and other queues than theirs have no
slash in their name. So the key alone tells the bindings of a subscription's queue apart. -/

namespace BrokerControl

/-- The exchange that a routing key is bound from. -/
def exchangeOf (key : String) : String := Text.join '/' (Text.split '/' key).dropLast

theorem exchange_eq_exchangeOf {text : String} {key : Access.RoutingKey}
    (h : Access.RoutingKey.ofString? text = .ok key) : key.exchange = exchangeOf text := by
  rw [key.exchange_eq_join, Access.RoutingKey.text_of_ofString? h, exchangeOf]

/-- Whether a name is made of segments, as those of subscriptions are. -/
def Segmented (name : String) : Prop := '/' ∈ name.toList

instance (name : String) : Decidable (Segmented name) :=
  inferInstanceAs (Decidable ('/' ∈ name.toList))

namespace Broker.Topology

variable {t : Topology} {a : Address} {xs : List Binding}

/-- The keys bound to a queue in the order of their bindings, if there is such a queue. -/
def keysAt (t : Topology) (a : Address) : Option (List String) :=
  if t.queues.contains a then some ((t.bindings.filter fun x => x.target = a).map (·.routingKey))
  else none

/-- Every binding of a queue with a segmented name starts from the exchange that its key names. -/
def Keyed (t : Topology) : Prop :=
  ∀ x ∈ t.bindings, Segmented x.queue → x.exchange = exchangeOf x.routingKey

/-! ## Bindings stay keyed -/

theorem Keyed.withExchange (h : t.Keyed) (e : Address) : (t.withExchange e).Keyed := h

theorem Keyed.withQueue (h : t.Keyed) (q : Address) : (t.withQueue q).Keyed := h

theorem Keyed.withoutExchange (h : t.Keyed) (e : Address) : (t.withoutExchange e).Keyed :=
  fun x hx => h x (List.mem_filter.1 hx).1

theorem Keyed.withoutQueue (h : t.Keyed) (q : Address) : (t.withoutQueue q).Keyed :=
  fun x hx => h x (List.mem_filter.1 hx).1

theorem Keyed.withBindings (h : t.Keyed)
    (hxs : ∀ x ∈ xs, Segmented x.queue → x.exchange = exchangeOf x.routingKey) :
    (t.withBindings xs).Keyed := by
  intro x hx
  rcases mem_addAll.1 hx with hx | hx
  · exact h x hx
  · exact hxs x hx

private theorem segmented_of_target {x : Binding} (h : x.target = a) (ha : Segmented a.name) :
    Segmented x.queue := by
  rw [← h] at ha
  exact ha

/-- The key tells the bindings of a queue apart. -/
private theorem eq_of_routingKey {x y : Binding} (hx : x.exchange = exchangeOf x.routingKey)
    (hy : y.exchange = exchangeOf y.routingKey) (htarget : x.target = y.target)
    (hkey : x.routingKey = y.routingKey) : x = y := by
  have hexchange : x.exchange = y.exchange := by rw [hx, hy, hkey]
  cases x
  cases y
  simp_all [Binding.target]

/-! ## How changes of the topology show in the keys -/

theorem keysAt_withQueue_self (hfree : ∀ x ∈ t.bindings, x.target ≠ a) :
    (t.withQueue a).keysAt a = some [] := by
  simp [keysAt, withQueue, Directory.contains_insert, filter_eq_eq_nil hfree]

theorem keysAt_withQueue_of_ne {q : Address} (h : q ≠ a) :
    (t.withQueue q).keysAt a = t.keysAt a := by
  simp [keysAt, withQueue, Directory.contains_insert, h]

theorem keysAt_withoutQueue_self : (t.withoutQueue a).keysAt a = none := by
  simp [keysAt, withoutQueue, Directory.contains_erase]

theorem keysAt_withoutQueue_of_ne {q : Address} (h : q ≠ a) :
    (t.withoutQueue q).keysAt a = t.keysAt a := by
  have hsame : (t.bindings.filter fun x => x.target ≠ q).filter (fun x => x.target = a) =
      t.bindings.filter fun x => x.target = a := by
    rw [List.filter_filter]
    refine List.filter_congr fun x _ => ?_
    by_cases hx : x.target = a <;> simp [hx, h.symm]
  have hcontains : (t.queues.erase q).contains a = t.queues.contains a := by
    simp [Directory.contains_erase, h]
  simp only [keysAt, withoutQueue, hcontains, hsame]

theorem keysAt_withBindings_of_ne (h : ∀ x ∈ xs, x.target ≠ a) :
    (t.withBindings xs).keysAt a = t.keysAt a := by
  simp only [keysAt, withBindings]
  rw [filter_addAll_of_not fun x hx => by simp [h x hx]]
  rfl

/-- Bindings to a queue add their keys to those of the queue, the new ones at the end. -/
theorem keysAt_withBindings (hsegmented : Segmented a.name) (hkeyed : t.Keyed)
    (hxs : ∀ x ∈ xs, x.target = a ∧ x.exchange = exchangeOf x.routingKey) :
    (t.withBindings xs).keysAt a =
      (t.keysAt a).map fun keys => addAll keys (xs.map (·.routingKey)) := by
  have hmap : ((addAll t.bindings xs).filter fun x => x.target = a).map (·.routingKey) =
      addAll ((t.bindings.filter fun x => x.target = a).map (·.routingKey))
        (xs.map (·.routingKey)) := by
    refine map_filter_addAll (fun y hy => by simp [(hxs y hy).1]) fun x hx y hy htarget hkey => ?_
    have htarget : x.target = a := of_decide_eq_true htarget
    refine eq_of_routingKey ?_ (hxs y hy).2 (htarget.trans (hxs y hy).1.symm) hkey
    rcases List.mem_append.1 hx with hx | hx
    · exact hkeyed x hx (segmented_of_target htarget hsegmented)
    · exact (hxs x hx).2
  simp only [keysAt, withBindings, hmap]
  split <;> rfl

/-- An exchange takes along the keys that name it. -/
theorem keysAt_withoutExchange (hsegmented : Segmented a.name) (hkeyed : t.Keyed) (e : Address) :
    (t.withoutExchange e).keysAt a =
      (t.keysAt a).map fun keys =>
        if e.vhost = a.vhost then keys.filter fun key => exchangeOf key ≠ e.name else keys := by
  have hsource : ∀ x ∈ t.bindings, x.target = a →
      (x.source ≠ e ↔ ¬(e.vhost = a.vhost ∧ exchangeOf x.routingKey = e.name)) := by
    rintro x hx rfl
    rw [← hkeyed x hx hsegmented]
    cases e
    simp only [Binding.source, Binding.target, ne_eq, Address.mk.injEq, eq_comm]
  have hfilter : (t.bindings.filter fun x => x.source ≠ e).filter (fun x => x.target = a) =
      (t.bindings.filter fun x => x.target = a).filter fun x =>
        ¬(e.vhost = a.vhost ∧ exchangeOf x.routingKey = e.name) := by
    simp only [List.filter_filter]
    refine List.filter_congr fun x hx => ?_
    by_cases htarget : x.target = a
    · simp [hsource x hx htarget, htarget]
    · simp [htarget]
  simp only [keysAt, withoutExchange, hfilter]
  by_cases hvhost : e.vhost = a.vhost
  · simp [hvhost, List.filter_map, Function.comp_def]
  · simp [hvhost]

theorem nodup_of_keysAt (hsegmented : Segmented a.name) (hkeyed : t.Keyed)
    (hnodup : t.bindings.Nodup) {keys : List String} (h : t.keysAt a = some keys) :
    keys.Nodup := by
  unfold keysAt at h
  split at h
  · cases h
    refine List.Nodup.map_on (fun x hx y hy hkey => ?_) (hnodup.filter _)
    obtain ⟨hx, hxa⟩ := List.mem_filter.1 hx
    obtain ⟨hy, hya⟩ := List.mem_filter.1 hy
    have hxa := of_decide_eq_true hxa
    have hya := of_decide_eq_true hya
    exact eq_of_routingKey (hkeyed x hx (segmented_of_target hxa hsegmented))
      (hkeyed y hy (segmented_of_target hya hsegmented)) (hxa.trans hya.symm) hkey
  · cases h

end Broker.Topology

/-! ## Binding keys in turn -/

namespace Broker

/-- Whether a key can be bound to a queue as things are. -/
def takes (b : Broker) (a : Address) (key : String) : Bool :=
  Access.isRoutingKey key && b.bindable a.vhost (exchangeOf key) a.name

/-- The bindings of a queue to keys, each from the exchange that the key names. -/
def keyBindings (a : Address) (keys : List String) : List Binding :=
  keys.map fun key => ⟨a.vhost, exchangeOf key, a.name, key⟩

theorem mem_keyBindings {a : Address} {keys : List String} {x : Binding}
    (h : x ∈ keyBindings a keys) : x.target = a ∧ x.exchange = exchangeOf x.routingKey := by
  obtain ⟨key, -, rfl⟩ := List.mem_map.1 h
  exact ⟨rfl, rfl⟩

@[simp] theorem map_routingKey_keyBindings (a : Address) (keys : List String) :
    (keyBindings a keys).map (·.routingKey) = keys := by
  simp [keyBindings, Function.comp_def]

/-- The broker with a queue bound to each of some keys. -/
def withKeys (b : Broker) (a : Address) (keys : List String) : Broker :=
  { b with bindings := addAll b.bindings (keyBindings a keys) }

/-- The topology with a queue bound to each of some keys. -/
def Topology.withKeys (t : Topology) (a : Address) (keys : List String) : Topology :=
  t.withBindings (keyBindings a keys)

/-- The topology with a queue added and bound to each of some keys. -/
def Topology.withSubscription (t : Topology) (a : Address) (keys : List String) : Topology :=
  (t.withQueue a).withKeys a keys

section Subscription

variable {t : Topology} {a : Address} {keys : List String}

theorem Topology.Keyed.withKeys (h : t.Keyed) (a : Address) (keys : List String) :
    (t.withKeys a keys).Keyed :=
  h.withBindings fun _ hx _ => (mem_keyBindings hx).2

theorem Topology.keysAt_withKeys_self (hsegmented : Segmented a.name) (hkeyed : t.Keyed) :
    (t.withKeys a keys).keysAt a = (t.keysAt a).map fun old => addAll old keys := by
  rw [withKeys, keysAt_withBindings hsegmented hkeyed fun x hx => mem_keyBindings hx,
    map_routingKey_keyBindings]

theorem Topology.keysAt_withKeys_of_ne {q : Address} (h : q ≠ a) :
    (t.withKeys q keys).keysAt a = t.keysAt a := by
  refine keysAt_withBindings_of_ne fun x hx => ?_
  rw [(mem_keyBindings hx).1]
  exact h

theorem Topology.keysAt_withSubscription_self (hsegmented : Segmented a.name) (hkeyed : t.Keyed)
    (hfree : ∀ x ∈ t.bindings, x.target ≠ a) :
    (t.withSubscription a keys).keysAt a = some keys.eraseDups := by
  rw [withSubscription, keysAt_withKeys_self hsegmented (hkeyed.withQueue a),
    keysAt_withQueue_self hfree, Option.map_some, addAll_nil_eq]

theorem Topology.keysAt_withSubscription_of_ne {q : Address} (h : q ≠ a) :
    (t.withSubscription q keys).keysAt a = t.keysAt a := by
  rw [withSubscription, keysAt_withKeys_of_ne h, keysAt_withQueue_of_ne h]

end Subscription

theorem takes_of_no_queue {b : Broker} {a : Address} (h : b.queues.contains a = false)
    (key : String) : b.takes a key = false := by
  have hno : b.queues.contains ⟨a.vhost, a.name⟩ = false := h
  simp [takes, bindable, hno]

end Broker

namespace Control

open Broker (Address)

variable {w : World}

theorem segmented_of_subscriptionId {consumer name id : String}
    (h : subscriptionId consumer name = .ok id) : Segmented id := by
  obtain ⟨-, rfl⟩ := subscriptionId_eq_ok_iff.1 h
  simp [Segmented, Text.join, Text.unpieces]

/-- An id begins like a wildcard exactly when the domain of the consumer does. -/
theorem withoutWildcard?_subscriptionId {consumer name id : String}
    (h : subscriptionId consumer name = .ok id) :
    Access.withoutWildcard? id = none ↔ Access.withoutWildcard? (domainOf consumer) = none := by
  obtain ⟨-, rfl⟩ := subscriptionId_eq_ok_iff.1 h
  have hslash := Access.withoutWildcard?_slash (domainOf consumer).toList
    ((Digest.sha1Hex consumer).toList ++ '/' :: name.toList)
  rwa [String.ofList_toList] at hslash

section Keys

variable {vhost queue text : String} {keys : List String}

/-- A well-formed key is bound from the exchange that it names. -/
theorem bindKeys_cons_of_isRoutingKey (h : Access.isRoutingKey text = true) :
    bindKeys vhost queue (text :: keys) = (do
      Procedure.require (.bindQueue vhost (exchangeOf text) queue text) (.remote "Binding failed")
      bindKeys vhost queue keys) := by
  obtain ⟨key, hkey⟩ := Access.RoutingKey.exists_of_isRoutingKey h
  rw [bindKeys, hkey]
  dsimp only
  rw [exchange_eq_exchangeOf hkey, Access.RoutingKey.text_of_ofString? hkey]

theorem bindKeys_cons_of_not_isRoutingKey (h : Access.isRoutingKey text = false) :
    bindKeys vhost queue (text :: keys) =
      throw (.validation s!"Invalid routing key: {text}") := by
  rw [bindKeys, Access.RoutingKey.ofString?_of_not_isRoutingKey h]

end Keys

/-- All keys are bound, or those before the first that the queue does not take. -/
theorem bindKeys_binds (a : Address) (keys : List String) :
    w.Ends (bindKeys a.vhost a.name keys)
      (fun _ w' => w' = w.withBroker (w.broker.withKeys a keys) ∧
        ∀ key ∈ keys, w.broker.takes a key = true)
      fun _ w' => w' =
        w.withBroker (w.broker.withKeys a (keys.takeWhile (w.broker.takes a))) := by
  induction keys generalizing w with
  | nil => exact .pure ⟨rfl, nofun⟩
  | cons text keys ih =>
    cases hvalid : Access.isRoutingKey text with
    | true =>
      rw [bindKeys_cons_of_isRoutingKey hvalid]
      refine .bind (.require (fun _ b hb => ?_) fun e he => ?_)
      · obtain ⟨hbindable, rfl⟩ := Broker.of_bindQueue_ok hb
        have htakes : w.broker.takes a text = true := by
          simp only [Broker.takes, hvalid, Bool.true_and]
          exact hbindable
        refine (ih (w := w.withBroker (w.broker.withBinding
          ⟨a.vhost, exchangeOf text, a.name, text⟩))).mono ?_ ?_
        · rintro - w' ⟨rfl, hkeys⟩
          exact ⟨rfl, List.forall_mem_cons.2 ⟨htakes, hkeys⟩⟩
        · rintro f w' rfl
          rw [List.takeWhile_cons_of_pos htakes]
          rfl
      · have htakes : w.broker.takes a text = false := by
          simp only [Broker.takes, hvalid, Bool.true_and]
          exact Broker.not_bindable_of_error he
        rw [List.takeWhile_cons_of_neg (by simp [htakes])]
        rfl
    | false =>
      have htakes : w.broker.takes a text = false := by simp [Broker.takes, hvalid]
      rw [bindKeys_cons_of_not_isRoutingKey hvalid, List.takeWhile_cons_of_neg (by simp [htakes])]
      exact .throw rfl

theorem bindKeys_ends (a : Address) (keys : List String) :
    w.Ends (bindKeys a.vhost a.name keys)
      (fun _ w' => w'.broker.topology = w.broker.topology.withKeys a keys)
      fun _ w' => w'.broker.topology =
        w.broker.topology.withKeys a (keys.takeWhile (w.broker.takes a)) := by
  refine (bindKeys_binds a keys).mono ?_ ?_
  · rintro - w' ⟨rfl, -⟩
    rfl
  · rintro f w' rfl
    rfl

end Control

end BrokerControl
