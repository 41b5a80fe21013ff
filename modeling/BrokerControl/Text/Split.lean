/-!
# Splitting at a separator

`split sep` cuts a string at every occurrence of a character and keeps empty parts, so a string
with `n` separators has `n + 1` parts; `join sep` puts them together again. `lastPlace? sep` is where
the last separator stands.
-/

namespace BrokerControl.Text

/-- The maximal runs between separators, in order. -/
def pieces (sep : Char) : List Char → List (List Char)
  | [] => [[]]
  | c :: cs =>
    if c = sep then [] :: pieces sep cs
    else match pieces sep cs with
      | [] => [[c]]
      | p :: ps => (c :: p) :: ps

/-- The parts with one separator between neighbours. -/
def unpieces (sep : Char) : List (List Char) → List Char
  | [] => []
  | [p] => p
  | p :: ps => p ++ sep :: unpieces sep ps

def split (sep : Char) (s : String) : List String := (pieces sep s.toList).map String.ofList

def join (sep : Char) (parts : List String) : String :=
  String.ofList (unpieces sep (parts.map String.toList))

/-- The text before and after the first occurrence of a character. -/
def cut? (sep : Char) : List Char → Option (List Char × List Char)
  | [] => none
  | c :: cs => if c = sep then some ([], cs) else (cut? sep cs).map fun (a, b) => (c :: a, b)

/-- The text before and after the last occurrence of a character. -/
def cutLast? (sep : Char) : List Char → Option (List Char × List Char)
  | [] => none
  | c :: cs => match cutLast? sep cs with
    | some (a, b) => some (c :: a, b)
    | none => if c = sep then some ([], cs) else none

/-! ## Splitting and joining -/

theorem pieces_ne_nil (sep : Char) (cs : List Char) : pieces sep cs ≠ [] := by
  cases cs with
  | nil => simp [pieces]
  | cons c cs =>
    simp only [pieces]
    split
    · simp
    · split <;> simp

theorem unpieces_pieces (sep : Char) (cs : List Char) : unpieces sep (pieces sep cs) = cs := by
  induction cs with
  | nil => rfl
  | cons c cs ih =>
    simp only [pieces]
    split
    · next h =>
      subst h
      cases hp : pieces c cs with
      | nil => exact absurd hp (pieces_ne_nil c cs)
      | cons p ps => simp [unpieces, ← hp, ih]
    · cases hp : pieces sep cs with
      | nil => exact absurd hp (pieces_ne_nil sep cs)
      | cons p ps =>
        rw [hp] at ih
        cases ps with
        | nil => simpa [unpieces] using ih
        | cons q qs => simpa [unpieces] using ih

theorem pieces_eq_singleton {sep : Char} {p : List Char} (h : sep ∉ p) :
    pieces sep p = [p] := by
  induction p with
  | nil => rfl
  | cons c p ih =>
    simp only [List.mem_cons, not_or] at h
    simp [pieces, Ne.symm h.1, ih h.2]

theorem sep_notMem_of_mem_pieces {sep : Char} {cs p : List Char} (h : p ∈ pieces sep cs) :
    sep ∉ p := by
  induction cs generalizing p with
  | nil => simp_all [pieces]
  | cons c cs ih =>
    simp only [pieces] at h
    split at h
    · rcases List.mem_cons.1 h with rfl | h
      · simp
      · exact ih h
    · next hc =>
      cases hp : pieces sep cs with
      | nil => exact absurd hp (pieces_ne_nil sep cs)
      | cons q qs =>
        rw [hp] at h ih
        rcases List.mem_cons.1 h with rfl | h
        · have := ih (p := q) (by simp)
          simp [Ne.symm hc, this]
        · exact ih (List.mem_cons_of_mem _ h)

theorem join_split (sep : Char) (s : String) : join sep (split sep s) = s := by
  simp [join, split, Function.comp_def, unpieces_pieces]

theorem sep_notMem_of_mem_split {sep : Char} {s p : String} (h : p ∈ split sep s) :
    sep ∉ p.toList := by
  obtain ⟨cs, hcs, rfl⟩ := List.mem_map.1 h
  rw [String.toList_ofList]
  exact sep_notMem_of_mem_pieces hcs

theorem split_ne_nil (sep : Char) (s : String) : split sep s ≠ [] := by
  simpa [split] using pieces_ne_nil sep s.toList

/-! ## Joining parts that have separators of their own -/

/-- A separator ends a part wherever it stands. -/
theorem pieces_append_sep (sep : Char) (cs ds : List Char) :
    pieces sep (cs ++ sep :: ds) = pieces sep cs ++ pieces sep ds := by
  induction cs with
  | nil => simp [pieces]
  | cons c cs ih =>
    simp only [List.cons_append, pieces, ih]
    by_cases hc : c = sep
    · simp [hc]
    · cases hp : pieces sep cs with
      | nil => exact absurd hp (pieces_ne_nil sep cs)
      | cons p ps => simp [hc]

theorem pieces_unpieces_flatMap {sep : Char} {ps : List (List Char)} (hne : ps ≠ []) :
    pieces sep (unpieces sep ps) = ps.flatMap (pieces sep) := by
  induction ps with
  | nil => exact absurd rfl hne
  | cons p ps ih =>
    cases ps with
    | nil => simp [unpieces]
    | cons q qs =>
      have hrest := ih (List.cons_ne_nil q qs)
      have hcons : unpieces sep (p :: q :: qs) = p ++ sep :: unpieces sep (q :: qs) := rfl
      rw [hcons, pieces_append_sep, hrest]
      rfl

/-- Splitting what was joined gives the parts of each part in turn. -/
theorem split_join_flatMap {sep : Char} {parts : List String} (hne : parts ≠ []) :
    split sep (join sep parts) = parts.flatMap (split sep) := by
  have hparts : parts.map String.toList ≠ [] := by simpa using hne
  simp only [split, join, String.toList_ofList]
  rw [pieces_unpieces_flatMap hparts, List.flatMap_map, List.map_flatMap]
  rfl

theorem split_eq_singleton {sep : Char} {s : String} (h : sep ∉ s.toList) : split sep s = [s] := by
  rw [split, pieces_eq_singleton h]
  simp

/-- Parts without separators are not split any further. -/
theorem flatMap_split {sep : Char} {parts : List String} (h : ∀ p ∈ parts, sep ∉ p.toList) :
    parts.flatMap (split sep) = parts := by
  rw [List.flatMap_def, List.map_congr_left fun p hp => split_eq_singleton (h p hp),
    ← List.flatMap_def, List.flatMap_singleton']

theorem split_join {sep : Char} {parts : List String} (hne : parts ≠ [])
    (h : ∀ p ∈ parts, sep ∉ p.toList) : split sep (join sep parts) = parts := by
  rw [split_join_flatMap hne, flatMap_split h]

/-- Only a text without separators is its own single part. -/
theorem split_eq_singleton_iff {sep : Char} {s : String} : split sep s = [s] ↔ sep ∉ s.toList := by
  constructor
  · intro h
    have hmem : s ∈ split sep s := by rw [h]; exact List.mem_singleton_self s
    exact sep_notMem_of_mem_split hmem
  · exact split_eq_singleton

/-- Joining brings in separators and nothing else. -/
theorem mem_unpieces {sep c : Char} (hc : c ≠ sep) {ps : List (List Char)} :
    c ∈ unpieces sep ps ↔ ∃ p ∈ ps, c ∈ p := by
  induction ps with
  | nil => simp [unpieces]
  | cons p ps ih =>
    cases ps with
    | nil => simp [unpieces]
    | cons q qs =>
      have hcons : unpieces sep (p :: q :: qs) = p ++ sep :: unpieces sep (q :: qs) := rfl
      rw [hcons, List.mem_append, List.mem_cons, ih]
      simp [hc]

theorem mem_join {sep c : Char} (hc : c ≠ sep) {parts : List String} :
    c ∈ (join sep parts).toList ↔ ∃ p ∈ parts, c ∈ p.toList := by
  rw [join, String.toList_ofList, mem_unpieces hc]
  constructor
  · rintro ⟨_, hmem, h⟩
    obtain ⟨p, hp, rfl⟩ := List.mem_map.1 hmem
    exact ⟨p, hp, h⟩
  · rintro ⟨p, hp, h⟩
    exact ⟨p.toList, List.mem_map_of_mem hp, h⟩

/-- A text is determined by its parts. -/
theorem eq_of_split_eq {sep : Char} {s t : String} (h : split sep s = split sep t) : s = t := by
  calc
    s = join sep (split sep s) := (join_split sep s).symm
    _ = join sep (split sep t) := by rw [h]
    _ = t := join_split sep t

/-! ## The last separator -/

theorem cutLast?_eq_none_iff {sep : Char} {cs : List Char} :
    cutLast? sep cs = none ↔ sep ∉ cs := by
  induction cs with
  | nil => simp [cutLast?]
  | cons c cs ih =>
    rw [cutLast?, List.mem_cons, not_or, ← ih]
    cases cutLast? sep cs <;> simp [eq_comm]

theorem of_cutLast?_eq_some {sep : Char} {cs a b : List Char}
    (h : cutLast? sep cs = some (a, b)) : cs = a ++ sep :: b ∧ sep ∉ b := by
  induction cs generalizing a b with
  | nil => cases h
  | cons c cs ih =>
    rw [cutLast?] at h
    split at h
    · next hcut =>
      cases h
      obtain ⟨hcs, hb⟩ := ih hcut
      exact ⟨congrArg (c :: ·) hcs, hb⟩
    · next hcut =>
      split at h <;> cases h
      next hc => exact ⟨congrArg (· :: cs) hc, cutLast?_eq_none_iff.1 hcut⟩

theorem eq_append_of_cutLast? {sep : Char} {s : String} {a b : List Char}
    (h : cutLast? sep s.toList = some (a, b)) :
    s = String.ofList a ++ (String.singleton sep ++ String.ofList b) := by
  rw [← String.toList_inj, (of_cutLast?_eq_some h).1]
  simp

/-- The place of the last occurrence of a character in a text. -/
def lastPlace? (sep : Char) (s : String) : Option s.Pos :=
  match h : cutLast? sep s.toList with
  | some (_, _) => some (.ofEqAppend (eq_append_of_cutLast? h))
  | none => none

theorem lastPlace?_eq_none_iff {sep : Char} {s : String} :
    lastPlace? sep s = none ↔ sep ∉ s.toList := by
  rw [← cutLast?_eq_none_iff]
  unfold lastPlace?
  split <;> simp [*]

/-- At the last separator the text splits into what is before it, the separator, and what has none
of them. -/
theorem splits_of_lastPlace? {sep : Char} {s : String} {p : s.Pos}
    (h : lastPlace? sep s = some p) :
    ∃ last, sep ∉ last.toList ∧ p.Splits (s.sliceTo p).copy (String.singleton sep ++ last) := by
  unfold lastPlace? at h
  split at h <;> cases h
  next a b hcut =>
  have hlast : sep ∉ (String.ofList b).toList := by
    rw [String.toList_ofList]
    exact (of_cutLast?_eq_some hcut).2
  have hsplits := String.Pos.splits_ofEqAppend (eq_append_of_cutLast? hcut)
  exact ⟨String.ofList b, hlast, hsplits.eq_left (String.Pos.splits _) ▸ hsplits⟩

end BrokerControl.Text
