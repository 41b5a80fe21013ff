import BrokerControl.Access.AdaptorId
import BrokerControl.Access.Grant

/-! # Ids in grants

Adding an id to a right makes room for it by taking a wildcard away. No mention of an adaptor is
lost by that, so that the right mentions an adaptor that is added more often than before. -/

namespace BrokerControl.Access

theorem withoutWildcard?_eq_none {s : String} (h : '*' ∉ s.toList) : withoutWildcard? s = none := by
  unfold withoutWildcard?
  split
  · next hs => simp [hs] at h
  · rfl

theorem withoutWildcard?_eq_some_iff {s rest : String} :
    withoutWildcard? s = some rest ↔ s = wildcard ++ rest := by
  rw [← String.toList_inj, String.toList_append, show wildcard.toList = ['.', '*'] from rfl]
  unfold withoutWildcard?
  split
  · next cs hs => simp [hs, ← String.toList_inj]
  · next hs => simpa using hs rest.toList

theorem withoutWildcard?_eq_none_iff {s : String} :
    withoutWildcard? s = none ↔ s.startsWith wildcard = false := by
  rw [String.startsWith_string_eq_false_iff, Option.eq_none_iff_forall_ne_some]
  constructor
  · rintro h ⟨cs, hs⟩
    refine h (String.ofList cs) (withoutWildcard?_eq_some_iff.2 ?_)
    rw [← String.toList_inj, String.toList_append, String.toList_ofList, hs]
  · intro h rest hrest
    rw [withoutWildcard?_eq_some_iff.1 hrest, String.toList_append] at h
    exact h (List.prefix_append _ _)

/-- Only what precedes a slash can make a text begin like a wildcard. -/
theorem withoutWildcard?_slash (cs ds : List Char) :
    withoutWildcard? (String.ofList (cs ++ '/' :: ds)) = none ↔
      withoutWildcard? (String.ofList cs) = none := by
  match cs with
  | [] => simp [withoutWildcard?]
  | [c] => simp [withoutWildcard?]
  | c :: c' :: cs =>
    simp only [withoutWildcard?, String.toList_ofList, List.cons_append]
    split <;> simp_all

namespace AdaptorId

variable (id : AdaptorId)

theorem text_ne_empty : id.text ≠ "" := by
  intro h
  have hvalid := id.valid
  rw [h] at hvalid
  revert hvalid
  decide

theorem notMem_text {c : Char} (hc : isAdaptorChar c = false) : c ∉ id.text.toList := by
  intro h
  have hvalid := id.valid
  simp only [isAdaptorId, Bool.and_eq_true, List.all_eq_true] at hvalid
  rw [hvalid.1 _ h] at hc
  cases hc

theorem withoutWildcard?_text : withoutWildcard? id.text = none :=
  withoutWildcard?_eq_none (id.notMem_text (by decide))

end AdaptorId

namespace ResourceSet

theorem count_le_count_kept (id : AdaptorId) (entries : List String) :
    entries.count id.text ≤ (kept entries).count id.text := by
  cases entries with
  | nil => exact Nat.le_refl _
  | cons first rest =>
    by_cases hfirst : first = id.text
    · subst hfirst
      simp [kept, id.withoutWildcard?_text, id.text_ne_empty]
    · simp only [kept]
      split
      · next h => simp [h.2, hfirst]
      · rw [List.count_cons_of_ne hfirst]
        exact List.count_le_count_cons

theorem count_lt_count_add (g : ResourceSet) (id : AdaptorId) :
    g.entries.count id.text < (g.add id.text).entries.count id.text := by
  have hkept := count_le_count_kept id g.entries
  simp only [add, List.count_append, List.count_singleton_self]
  omega

/-! ## Plain sets -/

/-- No entry is empty or begins like a wildcard, so adding to the set takes nothing away. -/
def IsPlain (g : ResourceSet) : Prop := ∀ e ∈ g.entries, e ≠ "" ∧ withoutWildcard? e = none

variable {g : ResourceSet}

theorem entries_add_of_plain (h : g.IsPlain) (id : String) :
    (g.add id).entries = g.entries ++ [id] := by
  have hkept : kept g.entries = g.entries := by
    cases hg : g.entries with
    | nil => rfl
    | cons first rest =>
      obtain ⟨hne, hbare⟩ := h first (by simp [hg])
      simp [kept, hbare, hne]
  rw [add, hkept]

theorem isWildcard_of_plain (h : g.IsPlain) : g.isWildcard = false := by
  unfold isWildcard
  split
  · next first rest hg => rw [(h first (by simp [hg])).2]; rfl
  · rfl

theorem IsPlain.add (h : g.IsPlain) {id : String} (hne : id ≠ "")
    (hid : withoutWildcard? id = none) : (g.add id).IsPlain := by
  intro e he
  rw [entries_add_of_plain h] at he
  rcases List.mem_append.1 he with he | he
  · exact h e he
  · rw [List.mem_singleton.1 he]
    exact ⟨hne, hid⟩

theorem IsPlain.remove (h : g.IsPlain) (id : String) : (g.remove id).IsPlain :=
  fun e he => h e (List.mem_filter.1 he).1

/-! ## Membership -/

theorem contains_iff {id : String} : g.contains id = true ↔ id ∈ g.entries := by
  simp [contains]

theorem contains_add_self (g : ResourceSet) (id : String) : (g.add id).contains id = true := by
  simp [contains, add]

theorem contains_add_of_plain (h : g.IsPlain) {id id' : String} (hid : g.contains id = true) :
    (g.add id').contains id = true := by
  rw [contains_iff, entries_add_of_plain h]
  exact List.mem_append_left _ (contains_iff.1 hid)

theorem contains_remove_of_ne {id id' : String} (hne : id ≠ id') (hid : g.contains id = true) :
    (g.remove id').contains id = true := by
  rw [contains_iff] at hid ⊢
  exact List.mem_filter.2 ⟨hid, by simpa using hne⟩

/-! ## Written forms -/

/-- A set is read back from its pattern unless a separator hides in an entry, or all there is is one
empty entry. -/
theorem ofPattern_toPattern (hbar : ∀ e ∈ g.entries, '|' ∉ e.toList) (hne : g.entries ≠ [""]) :
    ofPattern g.toPattern = g := by
  obtain ⟨entries⟩ := g
  cases entries with
  | nil => rfl
  | cons first rest =>
    have hsplit : Text.split '|' (Text.join '|' (first :: rest)) = first :: rest :=
      Text.split_join (by simp) hbar
    have htext : toPattern ⟨first :: rest⟩ ≠ "" := by
      intro h
      rw [toPattern] at h
      rw [h] at hsplit
      exact hne hsplit.symm
    rw [ofPattern, if_neg htext, toPattern, hsplit]

theorem bar_notMem_of_mem_ofPattern {pattern e : String} (h : e ∈ (ofPattern pattern).entries) :
    '|' ∉ e.toList := by
  unfold ofPattern at h
  split at h
  · cases h
  · exact Text.sep_notMem_of_mem_split h

/-- The only pattern of one empty entry is the empty one, which has no entries. -/
theorem entries_ofPattern_ne (pattern : String) : (ofPattern pattern).entries ≠ [""] := by
  unfold ofPattern
  split
  · nofun
  · next hpattern =>
    intro h
    exact hpattern (@Text.eq_of_split_eq '|' pattern "" h)

/-- What a set has to be to be read back from its pattern. -/
theorem ofPattern_toPattern_iff :
    ofPattern g.toPattern = g ↔ (∀ e ∈ g.entries, '|' ∉ e.toList) ∧ g.entries ≠ [""] := by
  constructor
  · intro h
    rw [← h]
    exact ⟨fun e he => bar_notMem_of_mem_ofPattern he, entries_ofPattern_ne _⟩
  · rintro ⟨hbar, hne⟩
    exact ofPattern_toPattern hbar hne

theorem bar_notMem_of_mem_kept {entries : List String} (h : ∀ e ∈ entries, '|' ∉ e.toList) :
    ∀ e ∈ kept entries, '|' ∉ e.toList := by
  cases entries with
  | nil => nofun
  | cons first rest =>
    have hfirst := h first List.mem_cons_self
    have hbare : '|' ∉ ((withoutWildcard? first).getD first).toList := by
      cases hwild : withoutWildcard? first with
      | none => exact hfirst
      | some bare =>
        rw [withoutWildcard?_eq_some_iff.1 hwild, String.toList_append] at hfirst
        exact fun hmem => hfirst (List.mem_append_right _ hmem)
    intro e he
    simp only [kept] at he
    split at he
    · cases he
    · rcases List.mem_cons.1 he with rfl | he
      · exact hbare
      · exact h e (List.mem_cons_of_mem _ he)

/-- An id that has bars is read back in pieces, each an entry of its own. -/
theorem ofPattern_toPattern_add (h : ∀ e ∈ g.entries, '|' ∉ e.toList) {id : String} (hid : id ≠ "") :
    ofPattern (g.add id).toPattern = ⟨kept g.entries ++ Text.split '|' id⟩ := by
  have hkept : (kept g.entries).flatMap (Text.split '|') = kept g.entries :=
    Text.flatMap_split (bar_notMem_of_mem_kept h)
  have hsplit : Text.split '|' (g.add id).toPattern = kept g.entries ++ Text.split '|' id := by
    rw [toPattern, add, Text.split_join_flatMap (by simp), List.flatMap_append, hkept]
    simp
  have htext : (g.add id).toPattern ≠ "" := by
    intro hempty
    rw [hempty] at hsplit
    have hpieces := congrArg List.length hsplit
    have hparts := List.length_pos_iff.2 (Text.split_ne_nil '|' id)
    rw [List.length_append, show (Text.split '|' "").length = 1 from rfl] at hpieces
    have hnone : kept g.entries = [] := List.length_eq_zero_iff.1 (by omega)
    rw [hnone, List.nil_append] at hsplit
    exact hid (Text.eq_of_split_eq hsplit.symm)
  rw [ofPattern, if_neg htext, hsplit]

end ResourceSet

/-! ## Edits -/

/-- No edit is about the right to configure. -/
theorem Edit.right_ne_configure (e : Edit) : e.right ≠ .configure := by
  cases e <;> nofun

theorem Grant.right_apply_self (g : Grant) (edit : Edit) (resource : String) :
    (g.apply edit resource).right edit.right = (g.right edit.right).edit edit resource :=
  g.right_setRight_self _ _

/-- An edit leaves the rights alone that it is not about. -/
theorem Grant.right_apply_of_ne (g : Grant) {edit : Edit} {r : Right} (h : edit.right ≠ r)
    (resource : String) : (g.apply edit resource).right r = g.right r :=
  g.right_setRight_of_ne h _

/-- There is nothing to take back where nothing is allowed. -/
theorem Grant.apply_denyAll {edit : Edit} (h : edit.isGrant = false) (resource : String) :
    Grant.denyAll.apply edit resource = .denyAll := by
  cases edit with
  | addRead | addWrite => cases h
  | deleteRead | deleteWrite => rfl

end BrokerControl.Access
