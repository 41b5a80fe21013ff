import BrokerControl.Proofs.Access.Grant
import BrokerControl.Proofs.Text.Split

/-! # Patterns as texts

A right's pattern is edited as a list of ids. As a text, an id is added behind a bar, or in place of
a wildcard that was all there was, and taken out between the bars. Reading a pattern and writing a
set undo each other except where an id has a bar of its own, or where one empty id stands alone. So
an addition can be taken back exactly if it took no wildcard away, and its id has no bar and was not
listed before. -/

namespace BrokerControl.Access

/-! ## Wildcards in front -/

theorem startsWith_wildcard_append (rest : String) :
    (wildcard ++ rest).startsWith wildcard = true := by
  rw [String.startsWith_string_iff, String.toList_append]
  exact List.prefix_append _ _

/-- A text without the wildcard in front, if it has one. -/
def bare (s : String) : String := (s.dropPrefix wildcard).copy

theorem bare_eq_self {s : String} (h : s.startsWith wildcard = false) : bare s = s := by
  rw [← String.startsWith_toSlice, ← String.Slice.dropPrefix?_eq_none_iff] at h
  rw [bare, String.dropPrefix, String.Slice.dropPrefix, h, Option.getD_none, String.copy_toSlice]

theorem bare_append (rest : String) : bare (wildcard ++ rest) = rest := by
  have hsome : (wildcard ++ rest).dropPrefix? wildcard ≠ none := by
    rw [String.dropPrefix?_eq_dropPrefix?_toSlice, Ne, String.Slice.dropPrefix?_eq_none_iff,
      String.startsWith_toSlice, startsWith_wildcard_append]
    nofun
  obtain ⟨slice, hslice⟩ := Option.ne_none_iff_exists'.1 hsome
  have happend := String.eq_append_of_dropPrefix?_string_eq_some hslice
  have hbare : bare (wildcard ++ rest) = slice.copy := by
    rw [String.dropPrefix?_eq_dropPrefix?_toSlice] at hslice
    rw [bare, String.dropPrefix, String.Slice.dropPrefix, hslice, Option.getD_some]
  rw [hbare]
  exact (String.append_right_inj wildcard |>.1 happend).symm

theorem bare_eq (s : String) : bare s = (withoutWildcard? s).getD s := by
  cases h : withoutWildcard? s with
  | none => exact bare_eq_self (withoutWildcard?_eq_none_iff.1 h)
  | some rest => rw [withoutWildcard?_eq_some_iff.1 h, bare_append, Option.getD_some]

namespace ResourceSet

theorem toPattern_ofPattern (w : String) : (ofPattern w).toPattern = w := by
  unfold ofPattern
  split
  · next h => exact h.symm
  · exact Text.join_split '|' w

theorem entries_ofPattern {w : String} (h : w ≠ "") : (ofPattern w).entries = Text.split '|' w := by
  rw [ofPattern, if_neg h]

/-- The first id begins like a wildcard only if the pattern does. -/
theorem withoutWildcard?_head {w first : String} {rest : List String}
    (hw : withoutWildcard? w = none) (hentries : (ofPattern w).entries = first :: rest) :
    withoutWildcard? first = none := by
  rw [Option.eq_none_iff_forall_ne_some]
  intro b hfirst
  obtain rfl := withoutWildcard?_eq_some_iff.1 hfirst
  have hpattern : w = wildcard ++ Text.join '|' (b :: rest) := by
    rw [← Text.join_append, ← hentries]
    exact (toPattern_ofPattern w).symm
  rw [withoutWildcard?_eq_some_iff.2 hpattern] at hw
  cases hw

/-- What stays when an id is added is what is read without the wildcard. -/
theorem kept_ofPattern (w : String) : kept (ofPattern w).entries = (ofPattern (bare w)).entries := by
  cases hw : withoutWildcard? w with
  | some rest =>
    obtain rfl := withoutWildcard?_eq_some_iff.1 hw
    obtain ⟨p, ps, hrest⟩ := List.exists_cons_of_ne_nil (Text.split_ne_nil '|' rest)
    have hentries : (ofPattern (wildcard ++ rest)).entries = (wildcard ++ p) :: ps := by
      rw [entries_ofPattern (by simp [wildcard]), Text.split_append (by decide) hrest]
    have hfirst : withoutWildcard? (wildcard ++ p) = some p := withoutWildcard?_eq_some_iff.2 rfl
    rw [hentries, bare_append]
    simp only [kept, hfirst, Option.getD_some]
    by_cases hempty : rest = ""
    · subst hempty
      obtain ⟨rfl, rfl⟩ := List.cons.inj (hrest.symm.trans (Text.split_eq_singleton (by simp)))
      rfl
    · rw [entries_ofPattern hempty, hrest, if_neg]
      rintro ⟨rfl, rfl⟩
      exact hempty (@Text.eq_of_split_eq '|' rest "" hrest)
  | none =>
    rw [bare_eq, hw, Option.getD_none]
    cases hentries : (ofPattern w).entries with
    | nil => rfl
    | cons first rest =>
      simp only [kept, withoutWildcard?_head hw hentries, Option.getD_none]
      rw [if_neg]
      rintro ⟨rfl, rfl⟩
      exact entries_ofPattern_ne w hentries

/-- Nothing is read that was not written, if what was written has no bars. -/
theorem mem_of_mem_ofPattern_toPattern {g : ResourceSet} (hbar : ∀ e ∈ g.entries, '|' ∉ e.toList)
    {e : String} (he : e ∈ (ofPattern g.toPattern).entries) : e ∈ g.entries := by
  by_cases hg : g.entries = [""]
  · rw [toPattern, hg] at he
    cases he
  · rwa [ofPattern_toPattern hbar hg] at he

theorem remove_eq_self {g : ResourceSet} {id : String} (h : id ∉ g.entries) : g.remove id = g := by
  have hentries : g.entries.filter (· != id) = g.entries := by
    rw [List.filter_eq_self]
    intro e he
    simpa using ne_of_mem_of_not_mem he h
  rw [remove, hentries]

theorem notMem_remove (g : ResourceSet) (id : String) : id ∉ (g.remove id).entries := by
  simp [remove]

theorem remove_remove (g : ResourceSet) (id : String) : (g.remove id).remove id = g.remove id :=
  remove_eq_self (g.notMem_remove id)

theorem bar_notMem_of_mem_remove {w id e : String} (he : e ∈ ((ofPattern w).remove id).entries) :
    '|' ∉ e.toList :=
  bar_notMem_of_mem_ofPattern (List.mem_filter.1 he).1

/-- Writing undoes reading; reading undoes writing exactly where no id has a bar and what there is
is not one empty id. -/
theorem pattern_inverse :
    (∀ w, (ofPattern w).toPattern = w) ∧
      ∀ g, ofPattern g.toPattern = g ↔ (∀ e ∈ g.entries, '|' ∉ e.toList) ∧ g.entries ≠ [""] :=
  ⟨toPattern_ofPattern, fun _ => ofPattern_toPattern_iff⟩

end ResourceSet

/-! ## Edits -/

open ResourceSet (ofPattern)

/-- A pattern after an edit of its text: an id is added behind a bar, or alone if there is nothing
left without the wildcard; it is deleted wherever it fills the room between two bars. -/
def editText (existing : String) (e : Edit) (id : String) : String :=
  match e with
  | .addRead | .addWrite => if bare existing = "" then id else bare existing ++ "|" ++ id
  | .deleteRead | .deleteWrite =>
    "|".intercalate (((existing.split '|').toList.map String.Slice.copy).filter (· ≠ id))

theorem toPattern_add_ofPattern (w id : String) :
    ((ofPattern w).add id).toPattern =
      if bare w = "" then id else bare w ++ "|" ++ id := by
  rw [ResourceSet.toPattern, ResourceSet.add, ResourceSet.kept_ofPattern, Text.join_eq]
  split
  · next h => rw [h]; exact String.intercalate_singleton
  · next h =>
    rw [ResourceSet.entries_ofPattern h,
      String.intercalate_append_of_ne_nil (Text.split_ne_nil _ _) (List.cons_ne_nil _ _),
      ← Text.join_eq, Text.join_split, String.intercalate_singleton]
    rfl

theorem toPattern_remove_ofPattern (w id : String) :
    ((ofPattern w).remove id).toPattern =
      "|".intercalate (((w.split '|').toList.map String.Slice.copy).filter (· ≠ id)) := by
  rw [← Text.split_eq, ResourceSet.toPattern, ResourceSet.remove, Text.join_eq]
  simp only [bne_eq, decide_not]
  by_cases h : w = ""
  · -- Nothing is read where the text has one part, which is empty.
    subst h
    have hread : (ofPattern "").entries = [] := rfl
    rw [hread, Text.split_eq_singleton (by simp)]
    by_cases hid : "" = id <;> simp [hid]
  · rw [ResourceSet.entries_ofPattern h]
    rfl

/-- An edit of the ids that are read from a pattern is an edit of its text. -/
theorem editPattern_eq_editText (existing : String) (e : Edit) (id : String) :
    editPattern existing e id = editText existing e id := by
  cases e with
  | addRead | addWrite => exact toPattern_add_ofPattern existing id
  | deleteRead | deleteWrite => exact toPattern_remove_ofPattern existing id

-- One wildcard goes, and the bar behind it stays.
example : editPattern ".*|a" .addRead "x" = "|a|x" := by decide

/-! ## Edits that are taken back -/

section

variable {revoke : Edit} (hrevoke : revoke.isGrant = false)

include hrevoke

theorem editPattern_revoke (w id : String) :
    editPattern w revoke id = ((ofPattern w).remove id).toPattern := by
  rw [editPattern, ResourceSet.edit, hrevoke, if_neg Bool.false_ne_true]

/-- Deleting from a written form is deleting from what was written, even if that is one empty id. -/
theorem editPattern_toPattern {g : ResourceSet} (hbar : ∀ e ∈ g.entries, '|' ∉ e.toList)
    (id : String) : editPattern g.toPattern revoke id = (g.remove id).toPattern := by
  rw [editPattern_revoke hrevoke]
  by_cases hg : g.entries = [""]
  · have hread : (ofPattern g.toPattern).entries = [] := by
      rw [ResourceSet.toPattern, hg]
      rfl
    rw [ResourceSet.remove, ResourceSet.remove, hread, hg]
    by_cases hid : "" = id <;> simp [hid, ResourceSet.toPattern, Text.join, Text.unpieces]
  · rw [ResourceSet.ofPattern_toPattern hbar hg]

theorem contains_editPattern (w id : String) :
    (ofPattern (editPattern w revoke id)).contains id = false := by
  rw [editPattern_revoke hrevoke, ← Bool.not_eq_true, ResourceSet.contains_iff]
  intro hmem
  exact ResourceSet.notMem_remove _ id
    (ResourceSet.mem_of_mem_ofPattern_toPattern (fun e => ResourceSet.bar_notMem_of_mem_remove) hmem)

theorem editPattern_revoke_again (w id : String) :
    editPattern (editPattern w revoke id) revoke id = editPattern w revoke id := by
  rw [editPattern_revoke hrevoke w,
    editPattern_toPattern hrevoke fun e => ResourceSet.bar_notMem_of_mem_remove,
    ResourceSet.remove_remove]

theorem editPattern_revoke_eq_self_iff (w id : String) :
    editPattern w revoke id = w ↔ (ofPattern w).contains id = false := by
  constructor
  · intro h
    have hcontains := contains_editPattern hrevoke w id
    rwa [h] at hcontains
  · intro h
    rw [← Bool.not_eq_true, ResourceSet.contains_iff] at h
    rw [editPattern_revoke hrevoke, ResourceSet.remove_eq_self h, ResourceSet.toPattern_ofPattern]

theorem length_editPattern_revoke_le (w id : String) :
    (editPattern w revoke id).length ≤ w.length := by
  calc
    (editPattern w revoke id).length = ((ofPattern w).remove id).toPattern.length := by
      rw [editPattern_revoke hrevoke]
    _ ≤ (ofPattern w).toPattern.length := Text.length_join_le List.filter_sublist
    _ = w.length := by rw [ResourceSet.toPattern_ofPattern]

end

theorem editPattern_grant {grant : Edit} (hgrant : grant.isGrant = true) (w id : String) :
    editPattern w grant id = ((ofPattern w).add id).toPattern := by
  rw [editPattern, ResourceSet.edit, if_pos hgrant]

/-- Once an id without bars is added and deleted, only the wildcard is gone, and the id wherever it
was listed. -/
theorem editPattern_grant_revoke {grant revoke : Edit} (hgrant : grant.isGrant = true)
    (hrevoke : revoke.isGrant = false) {id : String} (hid : '|' ∉ id.toList) (w : String) :
    editPattern (editPattern w grant id) revoke id = editPattern (bare w) revoke id := by
  have hbar : ∀ e ∈ ((ofPattern w).add id).entries, '|' ∉ e.toList := by
    intro e he
    rcases List.mem_append.1 he with he | he
    · exact ResourceSet.bar_notMem_of_mem_kept
        (fun e he => ResourceSet.bar_notMem_of_mem_ofPattern he) e he
    · rwa [List.mem_singleton.1 he]
  have hremove : ((ofPattern w).add id).remove id =
      (ofPattern (bare w)).remove id := by
    simp [ResourceSet.remove, ResourceSet.add, ResourceSet.kept_ofPattern]
  rw [editPattern_grant hgrant, editPattern_toPattern hrevoke hbar, hremove,
    editPattern_revoke hrevoke]

theorem count_bar_bare (w : String) : (bare w).toList.count '|' = w.toList.count '|' := by
  rw [bare_eq]
  cases hw : withoutWildcard? w with
  | none => rfl
  | some rest =>
    rw [withoutWildcard?_eq_some_iff.1 hw, String.toList_append, List.count_append]
    simp [wildcard]

/-- An id with a bar brings the bar into the pattern. -/
theorem count_bar_lt_editPattern {grant : Edit} (hgrant : grant.isGrant = true) {id : String}
    (hid : '|' ∈ id.toList) (w : String) :
    w.toList.count '|' < (editPattern w grant id).toList.count '|' := by
  have hpos := List.count_pos_iff.2 hid
  rw [editPattern_grant hgrant, toPattern_add_ofPattern, ← count_bar_bare w]
  split
  · next h => simpa [h] using hid
  · simp only [String.toList_append, List.count_append]
    omega

/-- An id that has been added and deleted again leaves no trace exactly if it has no bar, no wildcard
had to go and the id was not listed before. A deleted id is not listed, and there is no more to
delete. -/
theorem editPattern_restores_iff {grant revoke : Edit} (hgrant : grant.isGrant = true)
    (hrevoke : revoke.isGrant = false) (w id : String) :
    (editPattern (editPattern w grant id) revoke id = w ↔
        '|' ∉ id.toList ∧ w.startsWith wildcard = false ∧
          (ofPattern w).contains id = false) ∧
      (ofPattern (editPattern w revoke id)).contains id = false ∧
      editPattern (editPattern w revoke id) revoke id = editPattern w revoke id := by
  refine ⟨?_, contains_editPattern hrevoke w id, editPattern_revoke_again hrevoke w id⟩
  by_cases hid : '|' ∈ id.toList
  · -- No id that is read from a pattern has a bar, so nothing is deleted.
    have hunlisted : (ofPattern (editPattern w grant id)).contains id = false := by
      rw [← Bool.not_eq_true, ResourceSet.contains_iff]
      exact fun hmem => ResourceSet.bar_notMem_of_mem_ofPattern hmem hid
    have hbars := count_bar_lt_editPattern hgrant hid w
    rw [(editPattern_revoke_eq_self_iff hrevoke _ id).2 hunlisted]
    constructor
    · intro h
      rw [h] at hbars
      exact absurd hbars (Nat.lt_irrefl _)
    · exact fun h => absurd hid h.1
  · rw [editPattern_grant_revoke hgrant hrevoke hid]
    cases hw : withoutWildcard? w with
    | none =>
      have hstart := withoutWildcard?_eq_none_iff.1 hw
      rw [bare_eq_self hstart, editPattern_revoke_eq_self_iff hrevoke]
      simp [hid, hstart]
    | some rest =>
      obtain rfl := withoutWildcard?_eq_some_iff.1 hw
      have hlength := length_editPattern_revoke_le hrevoke rest id
      rw [bare_append]
      constructor
      · -- The wildcard is missing, and deleting only shortens the rest.
        intro h
        rw [h, String.length_append, show wildcard.length = 2 from rfl] at hlength
        omega
      · intro h
        rw [startsWith_wildcard_append] at h
        cases h.2.1

/-- An empty id in the middle does not prevent it, a wildcard in front does. -/
theorem editPattern_restores_around_empty :
    Edit.addWrite.isGrant = true ∧ Edit.deleteWrite.isGrant = false ∧
      editPattern (editPattern "a||b" .addWrite "c") .deleteWrite "c" = "a||b" ∧
      editPattern (editPattern ".*|a" .addWrite "c") .deleteWrite "c" ≠ ".*|a" := by
  refine ⟨rfl, rfl, ?_, ?_⟩
  · have hplain : "a||b".startsWith wildcard = false := withoutWildcard?_eq_none_iff.1 (by decide)
    exact (editPattern_restores_iff rfl rfl "a||b" "c").1.2 ⟨by decide, hplain, by decide⟩
  · intro h
    have hplain := ((editPattern_restores_iff rfl rfl ".*|a" "c").1.1 h).2.1
    exact absurd (withoutWildcard?_eq_none_iff.2 hplain) (by decide)

end BrokerControl.Access
