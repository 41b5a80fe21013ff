/-!
# Directories

Finite maps whose entries are kept in the order of their keys, each key once. Two directories with
the same answers to every lookup are equal.
-/

namespace BrokerControl

variable {κ ν : Type} [Ord κ]

structure Directory (κ ν : Type) [Ord κ] where
  entries : List (κ × ν)
  sorted : entries.Pairwise (fun a b => compare a.1 b.1 = .lt)

namespace Directory

/-! ## Operations -/

def empty : Directory κ ν := ⟨[], .nil⟩

instance : EmptyCollection (Directory κ ν) := ⟨empty⟩

instance : Inhabited (Directory κ ν) := ⟨empty⟩

/-- The value in an entry list. -/
def find? (k : κ) : List (κ × ν) → Option ν
  | [] => none
  | (k', v) :: rest => if compare k k' = .eq then some v else find? k rest

def get? (d : Directory κ ν) (k : κ) : Option ν := find? k d.entries

def contains (d : Directory κ ν) (k : κ) : Bool := (d.get? k).isSome

def toList (d : Directory κ ν) : List (κ × ν) := d.entries

def keys (d : Directory κ ν) : List κ := d.entries.map Prod.fst

def isEmpty (d : Directory κ ν) : Bool := d.entries.isEmpty

/-- An entry list with a new entry in its place, or with the value of the old one replaced. -/
def put (k : κ) (v : ν) : List (κ × ν) → List (κ × ν)
  | [] => [(k, v)]
  | (k', v') :: rest => match compare k k' with
    | .lt => (k, v) :: (k', v') :: rest
    | .eq => (k, v) :: rest
    | .gt => (k', v') :: put k v rest

theorem mem_of_mem_put {k : κ} {v : ν} {e : κ × ν} {l : List (κ × ν)} (h : e ∈ put k v l) :
    e = (k, v) ∨ e ∈ l := by
  induction l with
  | nil => exact .inl (List.mem_singleton.1 h)
  | cons a l ih =>
    obtain ⟨k', v'⟩ := a
    simp only [put] at h
    split at h
    · rcases List.mem_cons.1 h with h | h
      · exact .inl h
      · exact .inr h
    · rcases List.mem_cons.1 h with h | h
      · exact .inl h
      · exact .inr (List.mem_cons_of_mem _ h)
    · rcases List.mem_cons.1 h with h | h
      · exact .inr (h ▸ List.mem_cons_self)
      · exact (ih h).imp_right (List.mem_cons_of_mem _)

variable [Std.TransOrd κ] [Std.LawfulEqOrd κ]

theorem pairwise_put {k : κ} {v : ν} {l : List (κ × ν)}
    (h : l.Pairwise (fun a b => compare a.1 b.1 = .lt)) :
    (put k v l).Pairwise (fun a b => compare a.1 b.1 = .lt) := by
  induction l with
  | nil => exact List.pairwise_singleton _ _
  | cons a l ih =>
    obtain ⟨k', v'⟩ := a
    have hl := List.pairwise_cons.1 h
    simp only [put]
    split
    · next hc =>
      refine List.pairwise_cons.2 ⟨fun e he => ?_, h⟩
      rcases List.mem_cons.1 he with rfl | he
      · exact hc
      · exact Std.TransCmp.lt_trans hc (hl.1 e he)
    · next hc =>
      obtain rfl := Std.LawfulEqCmp.eq_of_compare hc
      exact List.pairwise_cons.2 ⟨hl.1, hl.2⟩
    · next hc =>
      refine List.pairwise_cons.2 ⟨fun e he => ?_, ih hl.2⟩
      rcases mem_of_mem_put he with rfl | he
      · exact Std.OrientedCmp.lt_of_gt hc
      · exact hl.1 e he

def insert (d : Directory κ ν) (k : κ) (v : ν) : Directory κ ν :=
  ⟨put k v d.entries, pairwise_put d.sorted⟩

omit [Std.TransOrd κ] [Std.LawfulEqOrd κ] in
theorem pairwise_drop {k : κ} {l : List (κ × ν)}
    (h : l.Pairwise (fun a b => compare a.1 b.1 = .lt)) :
    (l.filter fun e => compare k e.1 != .eq).Pairwise (fun a b => compare a.1 b.1 = .lt) :=
  h.sublist List.filter_sublist

def erase (d : Directory κ ν) (k : κ) : Directory κ ν :=
  ⟨d.entries.filter fun e => compare k e.1 != .eq, pairwise_drop d.sorted⟩

/-- The directory with the pairs put in one after the other. -/
def ofList (l : List (κ × ν)) : Directory κ ν :=
  l.foldl (fun d e => d.insert e.1 e.2) empty

/-! ## Lookups -/

omit [Std.TransOrd κ] [Std.LawfulEqOrd κ] in
@[simp] theorem get?_empty (k : κ) : (∅ : Directory κ ν).get? k = none := rfl

section DecidableKeys

variable [DecidableEq κ]

omit [Std.TransOrd κ] in
theorem find?_put (k : κ) (v : ν) (k' : κ) (l : List (κ × ν)) :
    find? k' (put k v l) = if k = k' then some v else find? k' l := by
  induction l with
  | nil =>
    by_cases h : k = k'
    · subst h; simp [put, find?, Std.ReflCmp.compare_self]
    · have : ¬compare k' k = .eq := fun hc => h (Std.LawfulEqCmp.eq_of_compare hc).symm
      simp [put, find?, h, this]
  | cons a l ih =>
    obtain ⟨k₂, v₂⟩ := a
    by_cases h : k = k'
    · subst h
      simp only [put, if_true] at ih ⊢
      split
      · simp [find?, Std.ReflCmp.compare_self]
      · simp [find?, Std.ReflCmp.compare_self]
      · next hc =>
        have : ¬compare k k₂ = .eq := by simp [hc]
        simp [find?, this, ih]
    · have hk : ¬compare k' k = .eq := fun hc => h (Std.LawfulEqCmp.eq_of_compare hc).symm
      simp only [h, if_false] at ih ⊢
      simp only [put]
      split
      · simp [find?, hk]
      · next hc =>
        obtain rfl := Std.LawfulEqCmp.eq_of_compare hc
        simp [find?, hk]
      · simp [find?, ih]

theorem get?_insert (d : Directory κ ν) (k : κ) (v : ν) (k' : κ) :
    (d.insert k v).get? k' = if k = k' then some v else d.get? k' :=
  find?_put k v k' d.entries

@[simp] theorem get?_insert_self (d : Directory κ ν) (k : κ) (v : ν) :
    (d.insert k v).get? k = some v := by
  simp [get?_insert]

omit [Std.TransOrd κ] in
theorem find?_filter (k k' : κ) (l : List (κ × ν)) :
    find? k' (l.filter fun e => compare k e.1 != .eq) = if k = k' then none else find? k' l := by
  induction l with
  | nil => simp [find?]
  | cons a l ih =>
    obtain ⟨k₂, v₂⟩ := a
    by_cases h₂ : compare k k₂ = .eq
    · obtain rfl := Std.LawfulEqCmp.eq_of_compare h₂
      rw [List.filter_cons_of_neg (by simp [Std.ReflCmp.compare_self]), ih]
      by_cases h : k = k'
      · simp [h]
      · have : ¬compare k' k = .eq := fun hc => h (Std.LawfulEqCmp.eq_of_compare hc).symm
        simp [h, find?, this]
    · have hf : (compare k k₂ != .eq) = true := by simp [h₂]
      rw [List.filter_cons_of_pos (by simp [hf])]
      by_cases h : k = k'
      · subst h
        simp only [find?, h₂, if_false, ih, if_true]
      · simp [find?, ih, h]

omit [Std.TransOrd κ] in
theorem get?_erase (d : Directory κ ν) (k k' : κ) :
    (d.erase k).get? k' = if k = k' then none else d.get? k' :=
  find?_filter k k' d.entries

omit [Std.TransOrd κ] [Std.LawfulEqOrd κ] [DecidableEq κ] in
theorem contains_iff {d : Directory κ ν} {k : κ} :
    d.contains k = true ↔ ∃ v, d.get? k = some v := by
  simp [contains, Option.isSome_iff_exists]

omit [Std.TransOrd κ] [Std.LawfulEqOrd κ] [DecidableEq κ] in
@[simp] theorem contains_empty (k : κ) : (∅ : Directory κ ν).contains k = false := rfl

theorem contains_insert (d : Directory κ ν) (k : κ) (v : ν) (k' : κ) :
    (d.insert k v).contains k' = (decide (k = k') || d.contains k') := by
  by_cases h : k = k' <;> simp [contains, get?_insert, h]

omit [Std.TransOrd κ] in
theorem contains_erase (d : Directory κ ν) (k k' : κ) :
    (d.erase k).contains k' = (decide (k ≠ k') && d.contains k') := by
  by_cases h : k = k' <;> simp [contains, get?_erase, h]

end DecidableKeys

/-! ## Membership -/

omit [Std.TransOrd κ] in
theorem find?_eq_some_iff {k : κ} {v : ν} {l : List (κ × ν)}
    (h : l.Pairwise (fun a b => compare a.1 b.1 = .lt)) :
    find? k l = some v ↔ (k, v) ∈ l := by
  induction l with
  | nil => simp [find?]
  | cons a l ih =>
    obtain ⟨k', v'⟩ := a
    have hl := List.pairwise_cons.1 h
    simp only [find?, List.mem_cons, Prod.mk.injEq]
    split
    · next hc =>
      obtain rfl := Std.LawfulEqCmp.eq_of_compare hc
      constructor
      · rintro ⟨⟩; simp
      · rintro (⟨-, rfl⟩ | hm)
        · rfl
        · have := hl.1 _ hm
          simp [Std.ReflCmp.compare_self] at this
    · next hc =>
      rw [ih hl.2]
      constructor
      · exact .inr
      · rintro (⟨rfl, -⟩ | hm)
        · exact absurd Std.ReflCmp.compare_self hc
        · exact hm

omit [Std.TransOrd κ] in
theorem get?_eq_some_iff {d : Directory κ ν} {k : κ} {v : ν} :
    d.get? k = some v ↔ (k, v) ∈ d.toList :=
  find?_eq_some_iff d.sorted

omit [Std.TransOrd κ] in
theorem mem_keys {d : Directory κ ν} {k : κ} : k ∈ d.keys ↔ d.contains k = true := by
  rw [contains_iff, keys, List.mem_map]
  constructor
  · rintro ⟨e, he, rfl⟩
    exact ⟨e.2, get?_eq_some_iff.2 he⟩
  · rintro ⟨v, hv⟩
    exact ⟨(k, v), get?_eq_some_iff.1 hv, rfl⟩

omit [Std.LawfulEqOrd κ] in
theorem nodup_keys (d : Directory κ ν) : d.keys.Nodup := by
  refine List.pairwise_map.2 (d.sorted.imp fun {e e'} hlt he => ?_)
  have hrefl : compare e'.1 e'.1 = .eq := Std.ReflCmp.compare_self
  rw [he, hrefl] at hlt
  cases hlt

omit [Std.TransOrd κ] [Std.LawfulEqOrd κ] in
/-- A key that comes before all the entries is not among them. -/
theorem find?_of_forall_lt {k : κ} {l : List (κ × ν)} (h : ∀ e ∈ l, compare k e.1 = .lt) :
    find? k l = none := by
  induction l with
  | nil => rfl
  | cons e l ih =>
    have hne : ¬compare k e.1 = .eq := by simp [h e List.mem_cons_self]
    rw [find?, if_neg hne]
    exact ih fun e' he' => h e' (List.mem_cons_of_mem _ he')

/-! ## Extensionality -/

omit [Std.LawfulEqOrd κ] in
theorem eq_of_forall_mem {l₁ l₂ : List (κ × ν)}
    (h₁ : l₁.Pairwise (fun a b => compare a.1 b.1 = .lt))
    (h₂ : l₂.Pairwise (fun a b => compare a.1 b.1 = .lt)) (h : ∀ e, e ∈ l₁ ↔ e ∈ l₂) :
    l₁ = l₂ := by
  induction l₁ generalizing l₂ with
  | nil =>
    cases l₂ with
    | nil => rfl
    | cons a l₂ => exact absurd ((h a).2 List.mem_cons_self) (by simp)
  | cons a l₁ ih =>
    cases l₂ with
    | nil => exact absurd ((h a).1 List.mem_cons_self) (by simp)
    | cons b l₂ =>
      have p₁ := List.pairwise_cons.1 h₁
      have p₂ := List.pairwise_cons.1 h₂
      have irrefl : ∀ x : κ × ν, ¬compare x.1 x.1 = .lt := fun x hx => by
        simp [Std.ReflCmp.compare_self] at hx
      have hab : a = b := by
        rcases List.mem_cons.1 ((h a).1 List.mem_cons_self) with hab | ha
        · exact hab
        · rcases List.mem_cons.1 ((h b).2 List.mem_cons_self) with hba | hb
          · exact hba.symm
          · exact absurd (Std.TransCmp.lt_trans (p₁.1 b hb) (p₂.1 a ha)) (irrefl a)
      subst hab
      refine congrArg (a :: ·) (ih p₁.2 p₂.2 fun e => ⟨fun he => ?_, fun he => ?_⟩)
      · rcases List.mem_cons.1 ((h e).1 (List.mem_cons_of_mem _ he)) with rfl | he'
        · exact absurd (p₁.1 _ he) (irrefl _)
        · exact he'
      · rcases List.mem_cons.1 ((h e).2 (List.mem_cons_of_mem _ he)) with rfl | he'
        · exact absurd (p₂.1 _ he) (irrefl _)
        · exact he'

theorem ext_get? {d₁ d₂ : Directory κ ν} (h : ∀ k, d₁.get? k = d₂.get? k) : d₁ = d₂ := by
  obtain ⟨l₁, h₁⟩ := d₁
  obtain ⟨l₂, h₂⟩ := d₂
  congr
  refine eq_of_forall_mem h₁ h₂ fun ⟨k, v⟩ => ?_
  rw [← find?_eq_some_iff h₁, ← find?_eq_some_iff h₂]
  exact iff_of_eq (congrArg (· = some v) (h k))

/-- Directories without values are equal if they have the same keys. -/
theorem ext_contains {d₁ d₂ : Directory κ Unit}
    (h : ∀ k, d₁.contains k = true ↔ d₂.contains k = true) : d₁ = d₂ := by
  refine ext_get? fun k => ?_
  have hk := h k
  simp only [contains] at hk
  cases h₁ : d₁.get? k <;> cases h₂ : d₂.get? k <;> simp_all

/-- Taking out a key that was just put in, and was not there before, leaves what there was. -/
theorem erase_insert {d : Directory κ ν} {k : κ} {v : ν} (h : d.get? k = none) :
    (d.insert k v).erase k = d := by
  classical
  refine ext_get? fun k' => ?_
  by_cases hk : k = k'
  · subst hk; simp [get?_erase, h]
  · simp [get?_erase, get?_insert, hk]

/-- Taking out a key that is not there changes nothing. -/
theorem erase_of_not_contains {d : Directory κ ν} {k : κ} (h : d.contains k = false) :
    d.erase k = d := by
  classical
  refine ext_get? fun k' => ?_
  by_cases hk : k = k'
  · subst hk
    have hn : d.get? k = none := by simpa [contains] using h
    simp [get?_erase, hn]
  · simp [get?_erase, hk]

theorem insert_get? {d : Directory κ ν} {k : κ} {v : ν} (h : d.get? k = some v) :
    d.insert k v = d := by
  classical
  refine ext_get? fun k' => ?_
  by_cases hk : k = k'
  · subst hk; simp [h]
  · simp [get?_insert, hk]

/-- What is put in last stays. -/
theorem insert_insert (d : Directory κ ν) (k : κ) (v v' : ν) :
    (d.insert k v).insert k v' = d.insert k v' := by
  classical
  refine ext_get? fun k' => ?_
  by_cases hk : k = k'
  · subst hk; simp
  · simp [get?_insert, hk]

theorem get?_foldl_insert {l : List (κ × ν)}
    (h : l.Pairwise (fun a b => compare a.1 b.1 = .lt)) (d : Directory κ ν) (k : κ) :
    (l.foldl (fun d e => d.insert e.1 e.2) d).get? k = (find? k l).or (d.get? k) := by
  classical
  induction l generalizing d with
  | nil => rfl
  | cons e l ih =>
    obtain ⟨hfirst, hrest⟩ := List.pairwise_cons.1 h
    rw [List.foldl_cons, ih hrest, get?_insert, find?]
    by_cases hk : e.1 = k
    · subst hk
      simp [find?_of_forall_lt hfirst, Std.ReflCmp.compare_self]
    · have hne : ¬compare k e.1 = .eq := fun hc => hk (Std.LawfulEqCmp.eq_of_compare hc).symm
      rw [if_neg hk, if_neg hne]

/-- The entries of a directory make it up again. -/
theorem ofList_toList (d : Directory κ ν) : ofList d.toList = d :=
  ext_get? fun k => (get?_foldl_insert d.sorted empty k).trans Option.or_none

end Directory

end BrokerControl
