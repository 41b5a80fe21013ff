import BrokerControl.Proofs.Broker.Topology
import Mathlib.Data.String.Basic

/-! # The order of routes

A listing of an exchange groups its keys by queue. Gone through from the start, it is the routes of
the exchange sorted by queue, and the sorting is stable: the keys of a queue keep their order. -/

namespace BrokerControl.Broker

abbrev Route := String × String

/-- The routes of queues with their keys, one queue after the other. -/
def flattened (queues : List (String × List String)) : List Route :=
  queues.flatMap fun (queue, keys) => keys.map fun key => (queue, key)

/-! ## Lists sorted by queue -/

section Sorted

variable {l l' : List Route}

/-- A list sorted by queue starts with a queue that comes before all the others. -/
theorem first_le {a : Route} (h : (a :: l).Pairwise (·.1 ≤ ·.1)) {r : Route} (hr : r ∈ a :: l) :
    a.1 ≤ r.1 := by
  rcases List.mem_cons.1 hr with rfl | hr
  · exact String.le_refl r.1
  · exact (List.pairwise_cons.1 h).1 r hr

/-- A list sorted by queue is determined by what it has of each queue. -/
theorem eq_of_filter_eq (h : l.Pairwise (·.1 ≤ ·.1)) (h' : l'.Pairwise (·.1 ≤ ·.1))
    (heq : ∀ q, (l.filter fun r => r.1 = q) = l'.filter fun r => r.1 = q) : l = l' := by
  have hmem (r : Route) : r ∈ l ↔ r ∈ l' := by
    have hr := congrArg (r ∈ ·) (heq r.1)
    simpa using hr
  induction l generalizing l' with
  | nil => exact (List.eq_nil_iff_forall_not_mem.2 fun r hr => by simpa using (hmem r).2 hr).symm
  | cons a l ih =>
    cases l' with
    | nil => simpa using hmem a
    | cons b l' =>
      have hqueue : a.1 = b.1 :=
        String.le_antisymm (first_le h ((hmem b).2 List.mem_cons_self))
          (first_le h' ((hmem a).1 List.mem_cons_self))
      have hhead : a = b := by
        have hat := heq a.1
        rw [List.filter_cons_of_pos (by simp), List.filter_cons_of_pos (by simp [hqueue])] at hat
        exact (List.cons.inj hat).1
      subst hhead
      have htail (q : String) : (l.filter fun r => r.1 = q) = l'.filter fun r => r.1 = q := by
        have hat := heq q
        by_cases hq : a.1 = q <;> simpa [hq] using hat
      have hrest (r : Route) : r ∈ l ↔ r ∈ l' := by
        have hr := congrArg (r ∈ ·) (htail r.1)
        simpa using hr
      exact congrArg (a :: ·) (ih h.of_cons h'.of_cons htail hrest)

end Sorted

/-! ## Listings -/

namespace BindingsByQueue

/-- The listing of routes that were made one after the other. -/
def ofRoutes (routes : List Route) : BindingsByQueue :=
  routes.foldl (fun d r => d.push r.1 r.2) ∅

theorem get?_foldl_push (routes : List Route) (d : BindingsByQueue) (q : String) :
    ((routes.foldl (fun d r => d.push r.1 r.2) d).get? q).getD [] =
      (d.get? q).getD [] ++ (routes.filter fun r => r.1 = q).map (·.2) := by
  induction routes generalizing d with
  | nil => simp
  | cons r routes ih =>
    rw [List.foldl_cons, ih, push, Directory.get?_insert]
    by_cases hq : r.1 = q <;> simp [hq]

variable (d : BindingsByQueue)

theorem sorted_flattened : (flattened d.toList).Pairwise (·.1 ≤ ·.1) := by
  refine List.pairwise_flatMap.2 ⟨fun e _ => ?_, d.sorted.imp fun {e e'} hlt r hr r' hr' => ?_⟩
  · exact List.pairwise_map.2 (List.pairwise_of_forall fun _ _ => String.le_refl e.1)
  · obtain ⟨key, -, rfl⟩ := List.mem_map.1 hr
    obtain ⟨key', -, rfl⟩ := List.mem_map.1 hr'
    exact le_of_lt (compare_lt_iff_lt.1 hlt)

/-- A queue has its keys in one place, where they stand in order. -/
theorem filter_flattened (q : String) :
    ((flattened d.toList).filter fun r => r.1 = q) =
      ((d.get? q).getD []).map fun key => (q, key) := by
  obtain ⟨entries, hsorted⟩ := d
  change ((entries.flatMap _).filter _) = ((Directory.find? q entries).getD []).map _
  induction entries with
  | nil => rfl
  | cons e entries ih =>
    obtain ⟨hfirst, hrest⟩ := List.pairwise_cons.1 hsorted
    rw [List.flatMap_cons, List.filter_append, ih hrest, Directory.find?]
    by_cases hq : q = e.1
    · subst hq
      have hat : ((e.2.map fun key => (e.1, key)).filter fun r => r.1 = e.1) =
          e.2.map fun key => (e.1, key) :=
        List.filter_eq_self.2 fun r hr => by
          obtain ⟨key, -, rfl⟩ := List.mem_map.1 hr
          simp
      simp [Directory.find?_of_forall_lt hfirst, hat]
    · have hne : ¬compare q e.1 = .eq := fun hc => hq (Std.LawfulEqCmp.eq_of_compare hc)
      rw [if_neg hne]
      simp [Ne.symm hq]

end BindingsByQueue

/-! ## Sorted routes -/

/-- Whether the queue of one route comes before that of another, or is the same. -/
def byQueue (r r' : Route) : Bool := r.1 ≤ r'.1

theorem byQueue_iff {r r' : Route} : byQueue r r' = true ↔ r.1 ≤ r'.1 := decide_eq_true_iff

theorem byQueue_trans (r₁ r₂ r₃ : Route) (h : byQueue r₁ r₂ = true) (h' : byQueue r₂ r₃ = true) :
    byQueue r₁ r₃ = true :=
  byQueue_iff.2 (String.le_trans (byQueue_iff.1 h) (byQueue_iff.1 h'))

theorem byQueue_total (r r' : Route) : (byQueue r r' || byQueue r' r) = true := by
  simpa [byQueue] using String.le_total r.1 r'.1

variable (b : Broker) (a : Address)

/-- The routes of an exchange with the queues in order, and the keys of each queue as they were
bound. -/
def sortedRoutes : List Route := (b.routes a).mergeSort byQueue

theorem sorted_sortedRoutes : (b.sortedRoutes a).Pairwise (·.1 ≤ ·.1) :=
  (List.pairwise_mergeSort byQueue_trans byQueue_total (b.routes a)).imp byQueue_iff.1

/-- Sorting keeps the routes of each queue in order. -/
theorem filter_sortedRoutes (q : String) :
    ((b.sortedRoutes a).filter fun r => r.1 = q) = (b.routes a).filter fun r => r.1 = q := by
  have hsame : ((b.routes a).filter fun r => r.1 = q).Pairwise fun r r' => byQueue r r' = true := by
    refine List.pairwise_of_forall_mem_list fun r hr r' hr' => ?_
    have hq : r.1 = q := of_decide_eq_true (List.mem_filter.1 hr).2
    have hq' : r'.1 = q := of_decide_eq_true (List.mem_filter.1 hr').2
    exact byQueue_iff.2 (le_of_eq (hq.trans hq'.symm))
  have hsub : ((b.routes a).filter fun r => r.1 = q).Sublist (b.sortedRoutes a) :=
    List.sublist_mergeSort byQueue_trans byQueue_total hsame List.filter_sublist
  have hfilter := hsub.filter fun r => r.1 = q
  rw [List.filter_filter] at hfilter
  simp only [Bool.and_self] at hfilter
  exact (hfilter.eq_of_length ((List.mergeSort_perm _ _).filter _).length_eq.symm).symm

/-- A listing has the routes in their order. -/
theorem flattened_ofRoutes :
    flattened (BindingsByQueue.ofRoutes (b.routes a)).toList = b.sortedRoutes a := by
  refine eq_of_filter_eq (BindingsByQueue.sorted_flattened _) (b.sorted_sortedRoutes a) fun q => ?_
  rw [filter_sortedRoutes, BindingsByQueue.filter_flattened, BindingsByQueue.ofRoutes,
    BindingsByQueue.get?_foldl_push]
  simp only [Directory.get?_empty, Option.getD_none, List.nil_append, List.map_map]
  refine (List.map_congr_left fun r hr => ?_).trans (List.map_id _)
  have hq : r.1 = q := of_decide_eq_true (List.mem_filter.1 hr).2
  simp [← hq]

theorem respond_listing {b : Broker} {vhost name : String}
    (h : b.exchanges.contains ⟨vhost, name⟩ = true) :
    b.respond (.listExchangeBindings vhost name) =
      (.ok (.ofRoutes (b.routes ⟨vhost, name⟩)), b) := by
  have hown : (b.bindings.filter fun x => x.vhost == vhost && x.exchange == name) =
      b.bindings.filter fun x => x.source = ⟨vhost, name⟩ :=
    List.filter_congr fun x _ => by
      rw [Bool.eq_iff_iff]
      simp [Binding.source]
  rw [respond_listExchangeBindings, if_pos h, hown, BindingsByQueue.ofRoutes, routes,
    List.foldl_map]

end BrokerControl.Broker
