import Mathlib.Data.List.Nodup

/-! # Additions to lists without repetition

An element is added at the end of a list unless it is there already. Adding several in turn appends
those that are new, each at its first occurrence. -/

namespace BrokerControl

variable {α β : Type} [DecidableEq α] [DecidableEq β]

/-- A list with an element put at its end, unless it is there already. -/
def addLast (xs : List α) (x : α) : List α := if x ∈ xs then xs else xs ++ [x]

/-- A list with elements added one after the other. -/
def addAll (xs ys : List α) : List α := ys.foldl addLast xs

theorem addLast_of_mem {xs : List α} {x : α} (h : x ∈ xs) : addLast xs x = xs := if_pos h

theorem addLast_of_notMem {xs : List α} {x : α} (h : x ∉ xs) : addLast xs x = xs ++ [x] := if_neg h

@[simp] theorem addAll_cons (xs : List α) (y : α) (ys : List α) :
    addAll xs (y :: ys) = addAll (addLast xs y) ys := rfl

/-! ## Elements -/

@[simp] theorem mem_addLast {xs : List α} {x y : α} : y ∈ addLast xs x ↔ y ∈ xs ∨ y = x := by
  by_cases h : x ∈ xs
  · rw [addLast_of_mem h]
    constructor
    · exact .inl
    · rintro (hy | rfl)
      · exact hy
      · exact h
  · simp [addLast_of_notMem h]

@[simp] theorem mem_addAll {xs ys : List α} {y : α} : y ∈ addAll xs ys ↔ y ∈ xs ∨ y ∈ ys := by
  induction ys generalizing xs with
  | nil => simp [addAll]
  | cons z ys ih => rw [addAll_cons, ih, mem_addLast, List.mem_cons, or_assoc]

theorem prefix_addLast (xs : List α) (x : α) : xs <+: addLast xs x := by
  unfold addLast
  split
  · exact List.prefix_rfl
  · exact List.prefix_append xs [x]

theorem nodup_addLast {xs : List α} (h : xs.Nodup) (x : α) : (addLast xs x).Nodup := by
  by_cases hx : x ∈ xs
  · rwa [addLast_of_mem hx]
  · rw [addLast_of_notMem hx, ← List.concat_eq_append]
    exact h.concat hx

/-- Only elements that are there already add nothing. -/
theorem addAll_eq_self_iff {xs ys : List α} : addAll xs ys = xs ↔ ∀ y ∈ ys, y ∈ xs := by
  constructor
  · intro h y hy
    rw [← h]
    exact mem_addAll.2 (.inr hy)
  · intro h
    induction ys with
    | nil => rfl
    | cons y ys ih =>
      rw [addAll_cons, addLast_of_mem (h y (by simp))]
      exact ih fun z hz => h z (by simp [hz])

/-! ## What is appended -/

/-- The new elements are appended, each at its first occurrence. -/
theorem addAll_eq_append (xs ys : List α) :
    addAll xs ys = xs ++ (ys.removeAll xs).eraseDups := by
  induction ys generalizing xs with
  | nil => simp [addAll, List.removeAll]
  | cons y ys ih =>
    rw [addAll_cons, ih, List.cons_removeAll]
    by_cases hy : y ∈ xs
    · simp [addLast_of_mem hy, hy]
    · have hrest : ys.removeAll (xs ++ [y]) = (ys.removeAll xs).filter fun z => !z == y := by
        simp only [List.removeAll, List.filter_filter]
        refine List.filter_congr fun z _ => ?_
        by_cases hz : z = y <;> simp [hz]
      rw [addLast_of_notMem hy, hrest, if_pos (by simpa using hy), List.eraseDups_cons]
      simp

theorem addAll_nil_eq (ys : List α) : addAll [] ys = ys.eraseDups := by
  rw [addAll_eq_append, List.removeAll_nil, List.nil_append]

/-! ## Parts of the list -/

/-- Elements outside a part leave the part alone. -/
theorem filter_addAll_of_not {p : α → Bool} {xs ys : List α} (h : ∀ y ∈ ys, p y = false) :
    (addAll xs ys).filter p = xs.filter p := by
  have hnone : (ys.removeAll xs).eraseDups.filter p = [] := by
    refine List.filter_eq_nil_iff.2 fun y hy => ?_
    have hmem : y ∈ ys := (List.mem_filter.1 (List.mem_eraseDups.1 hy)).1
    simp [h y hmem]
  rw [addAll_eq_append, List.filter_append, hnone, List.append_nil]

theorem filter_addLast_of_not {p : α → Bool} {x : α} (xs : List α) (h : p x = false) :
    (addLast xs x).filter p = xs.filter p := by
  have hx : ∀ y ∈ [x], p y = false := by simp [h]
  exact filter_addAll_of_not hx

/-- Inside a part whose elements a function tells apart, adding elements adds their values. -/
theorem map_filter_addAll {p : α → Bool} {f : α → β} {xs ys : List α}
    (hp : ∀ y ∈ ys, p y = true)
    (hf : ∀ x ∈ xs ++ ys, ∀ y ∈ ys, p x = true → f x = f y → x = y) :
    ((addAll xs ys).filter p).map f = addAll ((xs.filter p).map f) (ys.map f) := by
  induction ys generalizing xs with
  | nil => rfl
  | cons y ys ih =>
    have hy : p y = true := hp y (by simp)
    have hstep : ((addLast xs y).filter p).map f = addLast ((xs.filter p).map f) (f y) := by
      by_cases hmem : y ∈ xs
      · have hval : f y ∈ (xs.filter p).map f :=
          List.mem_map_of_mem (List.mem_filter.2 ⟨hmem, hy⟩)
        rw [addLast_of_mem hmem, addLast_of_mem hval]
      · have hval : f y ∉ (xs.filter p).map f := by
          intro hval
          obtain ⟨x, hx, hxy⟩ := List.mem_map.1 hval
          obtain ⟨hx, hpx⟩ := List.mem_filter.1 hx
          exact hmem (hf x (by simp [hx]) y (by simp) hpx hxy ▸ hx)
        rw [addLast_of_notMem hmem, addLast_of_notMem hval]
        simp [hy]
    rw [addAll_cons, List.map_cons, addAll_cons, ← hstep]
    refine ih (fun z hz => hp z (by simp [hz])) fun x hx z hz => ?_
    refine hf x ?_ z (by simp [hz])
    simpa [or_assoc] using hx

end BrokerControl
