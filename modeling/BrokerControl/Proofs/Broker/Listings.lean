import BrokerControl.Proofs.Broker.Routes
import Mathlib.Data.List.Nodup

/-! # Listings of bindings

A listing groups routes by their queues: each queue that has a key is there once, the queues are in
order, and the keys of a queue stand in the order in which they came. A broker answers with such a
listing for an exchange, and with a list of keys for a queue. Both are views of the same bindings,
and they agree because no binding is there twice and none lacks its exchange or its queue. -/

namespace BrokerControl

/-! ## Lists by key -/

/-- A list whose keys are all known is, up to order, put together from its parts by key. -/
theorem perm_flatMap_filter {α κ : Type} [DecidableEq κ] {f : α → κ} {ks : List κ}
    (hks : ks.Nodup) {l : List α} (h : ∀ x ∈ l, f x ∈ ks) :
    l.Perm (ks.flatMap fun k => l.filter fun x => f x = k) := by
  induction ks generalizing l with
  | nil =>
    obtain rfl : l = [] := List.eq_nil_iff_forall_not_mem.2 fun x hx => by simpa using h x hx
    exact .nil
  | cons k ks ih =>
    obtain ⟨hk, hks⟩ := List.nodup_cons.1 hks
    have hother : ∀ x ∈ l.filter fun x => !decide (f x = k), f x ∈ ks := by
      intro x hx
      obtain ⟨hx, hne⟩ := List.mem_filter.1 hx
      exact (List.mem_cons.1 (h x hx)).resolve_left (by simpa using hne)
    have hparts : (ks.flatMap fun k' => (l.filter fun x => !decide (f x = k)).filter
        fun x => f x = k') = ks.flatMap fun k' => l.filter fun x => f x = k' := by
      refine List.flatMap_congr fun k' hk' => ?_
      rw [List.filter_filter]
      refine List.filter_congr fun x _ => ?_
      by_cases hx : f x = k'
      · have hne : k' ≠ k := fun he => hk (he ▸ hk')
        simp [hx, hne]
      · simp [hx]
    rw [List.flatMap_cons, ← hparts]
    exact (List.filter_append_perm (fun x => decide (f x = k)) l).symm.trans
      ((ih hks hother).append_left _)

namespace Broker

/-! ## Routes pushed onto a listing -/

namespace BindingsByQueue

/-- A listing with routes pushed onto it, one after the other. -/
def pushAll (d : BindingsByQueue) (routes : List Route) : BindingsByQueue :=
  routes.foldl (fun d r => d.push r.1 r.2) d

/-- The route of a row. -/
def routeOf (r : BindingRow) : Route := (r.destination, r.routingKey)

theorem ofRows_eq (rows : List BindingRow) :
    ofRows rows = pushAll ∅ ((rows.filter (·.leadsToQueue)).map routeOf) := by
  rw [pushAll, List.foldl_map]
  rfl

theorem pushAll_append (d : BindingsByQueue) (routes routes' : List Route) :
    d.pushAll (routes ++ routes') = (d.pushAll routes).pushAll routes' :=
  List.foldl_append

/-- No queue is listed without keys. -/
def Filled (d : BindingsByQueue) : Prop := ∀ q, d.get? q ≠ some []

theorem Filled.push {d : BindingsByQueue} (h : d.Filled) (queue key : String) :
    (d.push queue key).Filled := by
  intro q
  rw [BindingsByQueue.push, Directory.get?_insert]
  split
  · simp
  · exact h q

theorem Filled.pushAll {d : BindingsByQueue} (h : d.Filled) (routes : List Route) :
    (d.pushAll routes).Filled := by
  induction routes generalizing d with
  | nil => exact h
  | cons r routes ih => exact ih (h.push r.1 r.2)

/-- In a listing whose queues all have keys, the keys tell whether a queue is listed. -/
theorem Filled.mem_toList_iff {d : BindingsByQueue} (h : d.Filled) {q : String}
    {keys : List String} :
    (q, keys) ∈ d.toList ↔ keys = (d.get? q).getD [] ∧ keys ≠ [] := by
  rw [← Directory.get?_eq_some_iff]
  cases hq : d.get? q with
  | none => simp
  | some keys' =>
    have hne : keys' ≠ [] := fun he => h q (he ▸ hq)
    simp only [Option.some.injEq, Option.getD_some]
    constructor
    · rintro rfl
      exact ⟨rfl, hne⟩
    · exact fun h' => h'.1.symm

/-- The keys that rows and then routes have for a queue, in order. -/
def keysFor (rows : List BindingRow) (routes : List Route) (q : String) : List String :=
  (rows.filter fun r => r.destination = q ∧
    (r.destinationType = "" ∨ r.destinationType = "queue")).map (·.routingKey) ++
      (routes.filter fun r => r.1 = q).map (·.2)

theorem getD_pushAll_ofRows (rows : List BindingRow) (routes : List Route) (q : String) :
    (((ofRows rows).pushAll routes).get? q).getD [] = keysFor rows routes q := by
  have hkept : (((rows.filter (·.leadsToQueue)).map routeOf).filter fun r => r.1 = q).map (·.2) =
      (rows.filter fun r => r.destination = q ∧
        (r.destinationType = "" ∨ r.destinationType = "queue")).map (·.routingKey) := by
    rw [List.filter_map, List.filter_filter, List.map_map]
    refine congrArg (List.map _) (List.filter_congr fun r _ => ?_)
    change (decide (r.destination = q) && r.leadsToQueue) = _
    rw [Bool.eq_iff_iff]
    simp [BindingRow.leadsToQueue]
  rw [pushAll, get?_foldl_push, ofRows_eq, pushAll, get?_foldl_push, hkept]
  rfl

/-- Rows are grouped, and routes pushed, without loss: gone through, the listing has its queues in
order, each once and with the keys that lead to it and no others, in the order in which they came;
a queue without keys is not listed. Grouping rows in two parts is pushing the second part. -/
theorem grouping_exact (rows : List BindingRow) (routes : List Route) :
    let d := (ofRows rows).pushAll routes
    d.toList.Pairwise (fun e e' => e.1 < e'.1) ∧
      (∀ q keys, (q, keys) ∈ d.toList ↔ keys = keysFor rows routes q ∧ keys ≠ []) ∧
      (∀ q, d.get? q = none ↔ keysFor rows routes q = []) ∧
      ∀ rows', ofRows (rows ++ rows') =
        (ofRows rows).pushAll ((rows'.filter (·.leadsToQueue)).map routeOf) := by
  intro d
  have hfilled : d.Filled := by
    refine Filled.pushAll ?_ routes
    rw [ofRows_eq]
    exact Filled.pushAll (fun q => by simp) _
  have hkeys (q : String) : (d.get? q).getD [] = keysFor rows routes q :=
    getD_pushAll_ofRows rows routes q
  refine ⟨d.sorted.imp compare_lt_iff_lt.1, fun q keys => ?_, fun q => ?_, fun rows' => ?_⟩
  · rw [hfilled.mem_toList_iff, hkeys]
  · rw [← hkeys]
    cases hq : d.get? q with
    | none => simp
    | some keys =>
      have hne : keys ≠ [] := fun he => hfilled q (he ▸ hq)
      simpa using hne
  · rw [ofRows_eq, List.filter_append, List.map_append, pushAll_append, ← ofRows_eq]

end BindingsByQueue

/-! ## The listings of a broker -/

/-- The keys that the listing of an exchange has for a queue; where there is no listing, none. -/
def keysListed (b : Broker) (a : Address) (q : String) : List String :=
  match (b.respond (.listExchangeBindings a.vhost a.name)).1 with
  | .ok listing => (listing.get? q).getD []
  | .error _ => []

section Listings

variable {b : Broker} {a : Address}

/-- The bindings that lead to a queue. -/
def bindingsTo (b : Broker) (target : Address) : List Binding :=
  b.bindings.filter fun x => x.target = target

theorem respond_keys {vhost q : String} (h : b.queues.contains ⟨vhost, q⟩ = true) :
    b.respond (.listQueueBindings vhost q) =
      (.ok ((b.bindingsTo ⟨vhost, q⟩).map (·.routingKey)), b) := by
  have hown : (b.bindings.filter fun x => x.vhost == vhost && x.queue == q) =
      b.bindingsTo ⟨vhost, q⟩ :=
    List.filter_congr fun x _ => by
      rw [Bool.eq_iff_iff]
      simp [Binding.target]
  rw [respond_listQueueBindings, if_pos h, hown]

/-- The keys listed are those of the bindings from the exchange to the queue. -/
theorem keysListed_eq (h : b.exchanges.contains a = true) (q : String) :
    b.keysListed a q =
      ((b.bindingsTo ⟨a.vhost, q⟩).filter fun x => x.source = a).map (·.routingKey) := by
  rw [keysListed, respond_listing h]
  simp only [BindingsByQueue.ofRoutes, BindingsByQueue.get?_foldl_push, Directory.get?_empty,
    Option.getD_none, List.nil_append, routes, bindingsTo]
  rw [List.filter_map, List.map_map, List.filter_filter, List.filter_filter]
  refine congrArg (List.map _) (List.filter_congr fun x _ => ?_)
  by_cases hsource : x.source = a
  · subst hsource
    simp [Binding.source, Binding.target]
  · simp [hsource]

/-- A binding is determined by its ends and its key. -/
theorem Binding.ext_ends {x y : Binding} (hsource : x.source = y.source)
    (htarget : x.target = y.target) (hkey : x.routingKey = y.routingKey) : x = y := by
  cases x
  cases y
  simp_all [Binding.source, Binding.target]

theorem nodup_keysListed (hb : b.WellFormed) (h : b.exchanges.contains a = true) (q : String) :
    (b.keysListed a q).Nodup := by
  rw [keysListed_eq h]
  refine List.Nodup.map_on (fun x hx y hy hkey => ?_) ((hb.nodup.filter _).filter _)
  simp only [bindingsTo, List.mem_filter, decide_eq_true_eq] at hx hy
  exact Binding.ext_ends (hx.2.trans hy.2.symm) (hx.1.2.trans hy.1.2.symm) hkey

theorem keysListed_sublist (h : b.exchanges.contains a = true) (q : String) :
    (b.keysListed a q).Sublist ((b.bindingsTo ⟨a.vhost, q⟩).map (·.routingKey)) := by
  rw [keysListed_eq h]
  exact List.filter_sublist.map _

/-- A queue is listed only for its keys. -/
theorem exists_binding_of_listed {q : String}
    (h : q ∈ (BindingsByQueue.ofRoutes (b.routes a)).keys) :
    ∃ x ∈ b.bindings, x.source = a ∧ x.queue = q := by
  obtain ⟨⟨q, keys⟩, he, rfl⟩ := List.mem_map.1 h
  have hfilled : (BindingsByQueue.ofRoutes (b.routes a)).Filled :=
    BindingsByQueue.Filled.pushAll (d := ∅) (fun q => by simp) _
  obtain ⟨hkeys, hne⟩ := hfilled.mem_toList_iff.1 he
  rw [hkeys, BindingsByQueue.ofRoutes, BindingsByQueue.get?_foldl_push] at hne
  simp only [Directory.get?_empty, Option.getD_none, List.nil_append] at hne
  obtain ⟨r, hr⟩ := List.exists_mem_of_ne_nil _ fun hnil => hne (congrArg (List.map _) hnil)
  obtain ⟨hroute, hq⟩ := List.mem_filter.1 hr
  obtain ⟨x, hx, rfl⟩ := List.mem_map.1 hroute
  obtain ⟨hx, hsource⟩ := List.mem_filter.1 hx
  exact ⟨x, hx, of_decide_eq_true hsource, of_decide_eq_true hq⟩

end Listings

/-- The exchanges on a virtual host. -/
def exchangesOn (b : Broker) (vhost : String) : List Address :=
  b.exchanges.keys.filter fun a => a.vhost = vhost

theorem mem_exchangesOn {b : Broker} {vhost : String} {a : Address} :
    a ∈ b.exchangesOn vhost ↔ b.exchanges.contains a = true ∧ a.vhost = vhost := by
  simp [exchangesOn, Directory.mem_keys]

/-- The keys of a queue are, up to order, those that the exchanges have for it: each binding comes
from one exchange, which exists. -/
theorem keys_perm {b : Broker} (hb : b.WellFormed) (vhost q : String) :
    ((b.bindingsTo ⟨vhost, q⟩).map (·.routingKey)).Perm
      ((b.exchangesOn vhost).flatMap fun a => b.keysListed a q) := by
  have hsource : ∀ x ∈ b.bindingsTo ⟨vhost, q⟩, x.source ∈ b.exchangesOn vhost := by
    intro x hx
    obtain ⟨hx, htarget⟩ := List.mem_filter.1 hx
    refine mem_exchangesOn.2 ⟨hb.sources x hx, ?_⟩
    exact congrArg Address.vhost (of_decide_eq_true htarget)
  have hnodup : (b.exchangesOn vhost).Nodup := b.exchanges.nodup_keys.filter _
  have hperm := (perm_flatMap_filter hnodup hsource).map (·.routingKey)
  rw [List.map_flatMap] at hperm
  refine hperm.trans (.of_eq (List.flatMap_congr fun a ha => ?_))
  obtain ⟨hexists, rfl⟩ := mem_exchangesOn.1 ha
  exact (keysListed_eq hexists q).symm

/-- The listings of a broker agree on every virtual host. Every exchange there has a listing, and
the queues in it exist. The keys of a queue are those that the exchanges list for it, as often as
they do; each exchange lists a key once, and in the order in which the queue has them. -/
theorem listings_agree {b : Broker} (hb : b.Reachable) (vhost : String) :
    (∀ a ∈ b.exchangesOn vhost, ∃ listing,
      b.respond (.listExchangeBindings vhost a.name) = (.ok listing, b) ∧
        ∀ q ∈ listing.keys, b.queues.contains ⟨vhost, q⟩ = true) ∧
    ∀ q, b.queues.contains ⟨vhost, q⟩ = true → ∃ keys,
      b.respond (.listQueueBindings vhost q) = (.ok keys, b) ∧
        keys.Perm ((b.exchangesOn vhost).flatMap fun a => b.keysListed a q) ∧
        ∀ a ∈ b.exchangesOn vhost, (b.keysListed a q).Nodup ∧ (b.keysListed a q).Sublist keys := by
  have hwell := hb.wellFormed
  refine ⟨fun a ha => ?_, fun q hq => ⟨_, respond_keys hq, keys_perm hwell vhost q, fun a ha => ?_⟩⟩
  · obtain ⟨hexists, rfl⟩ := mem_exchangesOn.1 ha
    refine ⟨_, respond_listing hexists, fun q hq => ?_⟩
    obtain ⟨x, hx, hsource, rfl⟩ := exists_binding_of_listed hq
    have hvhost : x.vhost = a.vhost := congrArg Address.vhost hsource
    exact hvhost ▸ hwell.targets x hx
  · obtain ⟨hexists, rfl⟩ := mem_exchangesOn.1 ha
    exact ⟨nodup_keysListed hwell hexists q, keysListed_sublist hexists q⟩

/-- A key that two exchanges have for a queue is there twice. -/
theorem listings_agree_shared_key :
    let calls : List Call := [.createExchange "v" "y", .createExchange "v" "x",
      .createQueue "v" "q", .bindQueue "v" "y" "q" "k", .bindQueue "v" "x" "q" "l",
      .bindQueue "v" "x" "q" "k"]
    let b := calls.foldl (fun b c => (b.respond c).2) ({} : Broker)
    b.Reachable ∧ b.queues.contains ⟨"v", "q"⟩ = true ∧
      b.respond (.listQueueBindings "v" "q") = (.ok ["k", "l", "k"], b) ∧
      ["k", "l", "k"].Perm ((b.exchangesOn "v").flatMap fun a => b.keysListed a "q") ∧
      b.keysListed ⟨"v", "x"⟩ "q" = ["l", "k"] ∧
      (b.keysListed ⟨"v", "x"⟩ "q").Sublist ["k", "l", "k"] := by
  intro calls b
  have hb : b.Reachable :=
    (((((Reachable.new.call (.createExchange "v" "y")).call (.createExchange "v" "x")).call
      (.createQueue "v" "q")).call (.bindQueue "v" "y" "q" "k")).call
      (.bindQueue "v" "x" "q" "l")).call (.bindQueue "v" "x" "q" "k")
  have hq : b.queues.contains ⟨"v", "q"⟩ = true := by decide
  have hkeys : b.respond (.listQueueBindings "v" "q") = (.ok ["k", "l", "k"], b) := rfl
  obtain ⟨keys, hrespond, hperm, heach⟩ := (listings_agree hb "v").2 "q" hq
  obtain rfl : ["k", "l", "k"] = keys := by
    rw [hkeys] at hrespond
    exact Except.ok.inj (congrArg Prod.fst hrespond)
  have hx : (⟨"v", "x"⟩ : Address) ∈ b.exchangesOn "v" := by decide
  exact ⟨hb, hq, hkeys, hperm, by decide, (heach _ hx).2⟩

end Broker

end BrokerControl
