import BrokerControl.Text.Blank
import BrokerControl.Text.Split

/-! # Splitting, joining and trimming in the words of the library

Splitting and joining are those of the library's strings, and a text is blank if trimming leaves
nothing of it. What is left of a text when some of its parts are left out is never longer than the
text. -/

namespace BrokerControl.Text

variable (sep : Char)

theorem pieces_eq_splitOn (cs : List Char) : pieces sep cs = cs.splitOn sep := by
  induction cs with
  | nil => rfl
  | cons c cs ih =>
    rw [List.splitOn_cons_eq_if_modifyHead, ← ih, pieces]
    by_cases hc : c = sep
    · simp [hc]
    · cases hp : pieces sep cs with
      | nil => exact absurd hp (pieces_ne_nil sep cs)
      | cons p ps => simp [hc]

theorem unpieces_eq_intercalate (ps : List (List Char)) :
    unpieces sep ps = [sep].intercalate ps := by
  induction ps with
  | nil => rfl
  | cons p ps ih =>
    cases ps with
    | nil => simp [unpieces]
    | cons q qs => simp [unpieces, ← ih]

theorem split_eq (s : String) : split sep s = (s.split sep).toList.map String.Slice.copy := by
  rw [split, pieces_eq_splitOn, String.toList_split_char]

theorem join_eq (parts : List String) : join sep parts = (String.singleton sep).intercalate parts := by
  rw [join, unpieces_eq_intercalate, ← String.toList_inj, String.toList_ofList,
    String.toList_intercalate, String.toList_singleton]

variable {sep}

theorem join_append (s p : String) (ps : List String) :
    join sep ((s ++ p) :: ps) = s ++ join sep (p :: ps) := by
  rw [join_eq, String.intercalate_cons_append, ← join_eq]

/-- Text without separators that is put in front becomes a part of the first part. -/
theorem split_append {s t p : String} {ps : List String} (hs : sep ∉ s.toList)
    (ht : split sep t = p :: ps) : split sep (s ++ t) = (s ++ p) :: ps := by
  have hjoin : s ++ t = join sep ((s ++ p) :: ps) := by rw [join_append, ← ht, join_split]
  rw [hjoin]
  apply split_join (List.cons_ne_nil _ _)
  intro part hpart
  have hparts : ∀ q ∈ p :: ps, sep ∉ q.toList := by
    rw [← ht]
    exact fun q hq => sep_notMem_of_mem_split hq
  rcases List.mem_cons.1 hpart with rfl | hpart
  · simpa [hs] using hparts p List.mem_cons_self
  · exact hparts part (List.mem_cons_of_mem _ hpart)

theorem unpieces_sublist {ps qs : List (List Char)} (h : ps.Sublist qs) :
    (unpieces sep ps).Sublist (unpieces sep qs) := by
  induction h with
  | slnil => exact List.Sublist.refl _
  | @cons ps qs p h ih =>
    cases qs with
    | nil => rw [List.sublist_nil.1 h]; exact List.nil_sublist _
    | cons q qs => exact (ih.cons sep).trans (List.sublist_append_right p _)
  | @cons_cons ps qs p h ih =>
    match ps, qs with
    | [], [] => exact List.Sublist.refl _
    | [], _ :: _ => exact List.sublist_append_left p _
    | _ :: _, [] => exact absurd h (by simp)
    | _ :: _, _ :: _ => exact (ih.cons_cons sep).append_left p

/-- A text without some of its parts is not longer. -/
theorem length_join_le {parts parts' : List String} (h : parts.Sublist parts') :
    (join sep parts).length ≤ (join sep parts').length := by
  have hsublist : (unpieces sep _).Sublist (unpieces sep _) := unpieces_sublist (h.map String.toList)
  simpa [join] using hsublist.length_le

theorem length_toList_split (sep : Char) (s : String) :
    (s.split sep).toList.length = (split sep s).length := by
  rw [split_eq, List.length_map]

/-! ## Blank texts -/

/-- A text without the white space at its ends. -/
def trim (s : String.Slice) : String.Slice := (s.dropWhile isWhiteSpace).dropEndWhile isWhiteSpace

theorem isBlank_copy (s : String.Slice) : isBlank s.copy = (trim s).isEmpty := by
  have hall : isBlank s.copy = (s.dropWhile isWhiteSpace).copy.isEmpty := by
    rw [String.Slice.isEmpty_copy, String.Slice.isEmpty_dropWhile, String.Slice.all_bool_eq, isBlank]
  -- what is left after leading white space does not start with any
  have hstart : (s.dropWhile isWhiteSpace).copy.toList.head?.any isWhiteSpace = false := by
    rw [← String.Slice.startsWith_bool_eq_head?, String.Slice.startsWith_dropWhile]
  rw [hall, trim, String.Slice.isEmpty_dropEndWhile, String.Slice.revAll_bool_eq]
  cases hrest : (s.dropWhile isWhiteSpace).copy.toList with
  | nil => rw [String.toList_eq_nil_iff.1 hrest]; rfl
  | cons c cs =>
    have hne : (s.dropWhile isWhiteSpace).copy ≠ "" := fun he => by simp [he] at hrest
    rw [hrest, List.head?_cons, Option.any_some] at hstart
    rw [String.isEmpty_eq_false_iff.2 hne, List.all_cons, hstart, Bool.false_and]

theorem isEmpty_trim (s : String) : (trim s.toSlice).isEmpty = isBlank s := by
  rw [← isBlank_copy, String.copy_toSlice]

end BrokerControl.Text
