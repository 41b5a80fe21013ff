import BrokerControl.Proofs.Access.Pattern

/-! # Grants as the history of their edits

Edits do not merge ids and do not reorder them. So the ids of a right are those of its history: what
was listed at first and what was added, in order, without what was deleted later. This needs ids that
no addition takes anything away from. -/

namespace BrokerControl.Access

/-- Whether an id stays whole when others are added: it is not empty and has no wildcard in front. -/
def Whole (id : String) : Prop := id ≠ "" ∧ id.startsWith wildcard = false

theorem whole_iff {id : String} : Whole id ↔ id ≠ "" ∧ withoutWildcard? id = none := by
  rw [Whole, withoutWildcard?_eq_none_iff]

/-- The ids that a history of edits, each with its id, adds by one edit and does not delete by the
other later on. -/
def standing (adding deleting : Edit) : List (Edit × String) → List String
  | [] => []
  | (e, id) :: later =>
    if e = adding ∧ (deleting, id) ∉ later then id :: standing adding deleting later
    else standing adding deleting later

theorem standing_cons_of_ne {adding e : Edit} (he : e ≠ adding) (deleting : Edit) (id : String)
    (later : List (Edit × String)) :
    standing adding deleting ((e, id) :: later) = standing adding deleting later := by
  rw [standing, if_neg fun h => he h.1]

/-- Edits of different rights, or an addition and a deletion of different ids. -/
def Independent (step step' : Edit × String) : Prop :=
  step.1.right ≠ step'.1.right ∨ step.1.isGrant ≠ step'.1.isGrant ∧ step.2 ≠ step'.2

theorem Independent.symm {step step' : Edit × String} (h : Independent step step') :
    Independent step' step :=
  h.imp Ne.symm (And.imp Ne.symm Ne.symm)

/-- The grant after edits, the first one first. -/
def Grant.after (g : Grant) (steps : List (Edit × String)) : Grant :=
  steps.foldl (fun g step => g.apply step.1 step.2) g

/-! ## The two edits of a right -/

/-- A right is added to by one edit and deleted from by the other. -/
structure Edits (r : Right) (adding deleting : Edit) : Prop where
  adding_right : adding.right = r
  deleting_right : deleting.right = r
  adds : adding.isGrant = true
  deletes : deleting.isGrant = false

namespace Edits

theorem read : Edits .read .addRead .deleteRead := ⟨rfl, rfl, rfl, rfl⟩

theorem write : Edits .write .addWrite .deleteWrite := ⟨rfl, rfl, rfl, rfl⟩

variable {r : Right} {adding deleting : Edit} (h : Edits r adding deleting)

include h

theorem ne : deleting ≠ adding := by
  rintro rfl
  cases h.deletes.symm.trans h.adds

theorem eq_or_eq {e : Edit} (he : e.right = r) : e = adding ∨ e = deleting := by
  obtain ⟨rfl, hdeleting, hadds, hdeletes⟩ := h
  cases e <;> cases adding <;> cases deleting <;> simp_all [Edit.right, Edit.isGrant]

/-! ## What a history leaves -/

theorem standing_adding (ids : List String) (later : List (Edit × String)) :
    standing adding deleting (ids.map (adding, ·) ++ later) =
      ids.filter (fun id => (deleting, id) ∉ later) ++ standing adding deleting later := by
  induction ids with
  | nil => rfl
  | cons id ids ih =>
    have hids : (deleting, id) ∉ ids.map (adding, ·) := by
      simp [h.ne.symm]
    simp only [List.map_cons, List.cons_append, standing, ih, List.filter_cons, List.mem_append,
      hids, false_or, true_and]
    by_cases hlater : (deleting, id) ∈ later <;> simp [hlater]

theorem standing_deleting (ids : List String) (id : String) (later : List (Edit × String)) :
    standing adding deleting (ids.map (adding, ·) ++ (deleting, id) :: later) =
      standing adding deleting ((ids.filter (· != id)).map (adding, ·) ++ later) := by
  rw [h.standing_adding, h.standing_adding, standing_cons_of_ne h.ne, List.filter_filter]
  congr 2
  funext id'
  by_cases hid : id' = id <;> simp [hid]

theorem standing_other {e : Edit} (he : e.right ≠ r) (ids : List String) (id : String)
    (later : List (Edit × String)) :
    standing adding deleting (ids.map (adding, ·) ++ (e, id) :: later) =
      standing adding deleting (ids.map (adding, ·) ++ later) := by
  have hadding : e ≠ adding := by
    rintro rfl
    exact he h.adding_right
  have hdeleting : deleting ≠ e := by
    rintro rfl
    exact he h.deleting_right
  rw [h.standing_adding, h.standing_adding, standing_cons_of_ne hadding]
  simp [hdeleting]

theorem standing_swap_adding {e : Edit} {id id' : String} (he : e ≠ adding)
    (hsteps : Independent (adding, id) (e, id')) (later : List (Edit × String)) :
    standing adding deleting ((adding, id) :: (e, id') :: later) =
      standing adding deleting ((e, id') :: (adding, id) :: later) := by
  have hid : (deleting, id) ≠ (e, id') := by
    intro heq
    obtain ⟨rfl, rfl⟩ := Prod.mk.inj heq
    exact hsteps.elim (absurd (h.adding_right.trans h.deleting_right.symm)) fun hids => hids.2 rfl
  rw [standing, standing_cons_of_ne he, standing_cons_of_ne he, standing]
  simp [hid]

/-- Edits that are independent may change places in a history. -/
theorem standing_swap {step step' : Edit × String} (hsteps : Independent step step')
    (earlier later : List (Edit × String)) :
    standing adding deleting (earlier ++ step :: step' :: later) =
      standing adding deleting (earlier ++ step' :: step :: later) := by
  induction earlier with
  | nil =>
    obtain ⟨e, id⟩ := step
    obtain ⟨e', id'⟩ := step'
    by_cases he : e = adding
    · subst he
      have he' : e' ≠ e := by
        rintro rfl
        exact hsteps.elim (absurd rfl) fun hids => hids.1 rfl
      exact h.standing_swap_adding he' hsteps later
    · by_cases he' : e' = adding
      · subst he'
        exact (h.standing_swap_adding he hsteps.symm later).symm
      · simp only [List.nil_append, standing_cons_of_ne he, standing_cons_of_ne he']
  | cons first earlier ih =>
    obtain ⟨e, id⟩ := first
    have hmem : (deleting, id) ∈ earlier ++ step :: step' :: later ↔
        (deleting, id) ∈ earlier ++ step' :: step :: later := by
      simp [or_left_comm]
    simp only [List.cons_append, standing, hmem, ih]

/-! ## What a grant becomes -/

/-- Carrying out the first edit of a history leaves the ids that it allows as they are. -/
theorem standing_apply {g : Grant} (hg : (g.right r).IsPlain) (e : Edit) (id : String)
    (later : List (Edit × String)) :
    standing adding deleting (((g.apply e id).right r).entries.map (adding, ·) ++ later) =
      standing adding deleting ((g.right r).entries.map (adding, ·) ++ (e, id) :: later) := by
  by_cases he : e.right = r
  · have hedited : (g.apply e id).right r = (g.right r).edit e id := he ▸ g.right_apply_self e id
    rw [hedited, ResourceSet.edit]
    rcases h.eq_or_eq he with rfl | rfl
    · rw [if_pos h.adds, ResourceSet.entries_add_of_plain hg]
      simp
    · rw [h.deletes, if_neg Bool.false_ne_true, h.standing_deleting]
      rfl
  · rw [g.right_apply_of_ne he, h.standing_other he]

end Edits

/-- A set of whole ids stays one. -/
theorem Grant.isPlain_apply {g : Grant} {r : Right} (hg : (g.right r).IsPlain) (e : Edit) {id : String}
    (hid : Whole id) : ((g.apply e id).right r).IsPlain := by
  by_cases he : e.right = r
  · subst he
    rw [g.right_apply_self, ResourceSet.edit]
    split
    · exact hg.add (whole_iff.1 hid).1 (whole_iff.1 hid).2
    · exact hg.remove id
  · rwa [g.right_apply_of_ne he]

/-- The ids of a right after edits are those that the history allows. -/
theorem Edits.entries_after {r : Right} {adding deleting : Edit} (h : Edits r adding deleting)
    {g : Grant} (hg : (g.right r).IsPlain) {steps : List (Edit × String)}
    (hsteps : ∀ step ∈ steps, Whole step.2) :
    ((g.after steps).right r).entries =
      standing adding deleting ((g.right r).entries.map (adding, ·) ++ steps) := by
  induction steps generalizing g with
  | nil =>
    rw [h.standing_adding, standing, List.append_nil]
    exact (List.filter_eq_self.2 (by simp)).symm
  | cons step steps ih =>
    obtain ⟨e, id⟩ := step
    have hid : Whole id := hsteps (e, id) List.mem_cons_self
    calc
      ((g.after ((e, id) :: steps)).right r).entries =
          (((g.apply e id).after steps).right r).entries := rfl
      _ = standing adding deleting (((g.apply e id).right r).entries.map (adding, ·) ++ steps) :=
        ih (g.isPlain_apply hg e hid) fun step hstep => hsteps step (List.mem_cons_of_mem _ hstep)
      _ = standing adding deleting ((g.right r).entries.map (adding, ·) ++ (e, id) :: steps) :=
        h.standing_apply hg e id steps

/-- Independent edits that follow one another may be carried out in the other order. -/
theorem Edits.entries_after_swap {r : Right} {adding deleting : Edit} (h : Edits r adding deleting)
    {g : Grant} (hg : (g.right r).IsPlain) {earlier later : List (Edit × String)}
    {step step' : Edit × String} (hind : Independent step step')
    (hsteps : ∀ s ∈ earlier ++ step :: step' :: later, Whole s.2) :
    ((g.after (earlier ++ step' :: step :: later)).right r).entries =
      ((g.after (earlier ++ step :: step' :: later)).right r).entries := by
  -- The history decides the ids, so that the two change places there and not in the grant.
  have hswapped : ∀ s ∈ earlier ++ step' :: step :: later, Whole s.2 := by
    intro s hs
    apply hsteps
    simpa [or_left_comm] using hs
  rw [h.entries_after hg hswapped, h.entries_after hg hsteps, ← List.append_assoc,
    ← List.append_assoc, h.standing_swap hind]

namespace Grant

variable {g : Grant}

theorem eq_of_entries_eq {g' : Grant} (hconfigure : g.configure = g'.configure)
    (hwrite : g.write.entries = g'.write.entries) (hread : g.read.entries = g'.read.entries) :
    g = g' := by
  obtain ⟨c, ⟨w⟩, ⟨r⟩⟩ := g
  obtain ⟨c', ⟨w'⟩, ⟨r'⟩⟩ := g'
  simp_all

theorem configure_after (g : Grant) (steps : List (Edit × String)) :
    (g.after steps).configure = g.configure := by
  induction steps generalizing g with
  | nil => rfl
  | cons step steps ih =>
    calc
      (g.after (step :: steps)).configure = ((g.apply step.1 step.2).after steps).configure := rfl
      _ = (g.apply step.1 step.2).configure := ih _
      _ = g.configure := g.right_apply_of_ne step.1.right_ne_configure step.2

theorem isPlain_right_iff {r : Right} :
    (g.right r).IsPlain ↔ ∀ id ∈ (g.right r).entries, Whole id := by
  simp only [ResourceSet.IsPlain, whole_iff]

/-- A grant after edits lists, for each right, what was listed at first and what was added, in order,
without what was deleted later; the right to configure stays. So neighbouring edits may change places
if they are independent. -/
theorem after_eq_history (hg : ∀ r, ∀ id ∈ (g.right r).entries, Whole id)
    {steps : List (Edit × String)} (hsteps : ∀ step ∈ steps, Whole step.2) :
    (g.after steps).read.entries =
        standing .addRead .deleteRead (g.read.entries.map (.addRead, ·) ++ steps) ∧
      (g.after steps).write.entries =
        standing .addWrite .deleteWrite (g.write.entries.map (.addWrite, ·) ++ steps) ∧
      (g.after steps).configure = g.configure ∧
      ∀ earlier step step' later, steps = earlier ++ step :: step' :: later →
        Independent step step' → g.after (earlier ++ step' :: step :: later) = g.after steps := by
  have hread : g.read.IsPlain := isPlain_right_iff.2 (hg .read)
  have hwrite : g.write.IsPlain := isPlain_right_iff.2 (hg .write)
  refine ⟨Edits.read.entries_after hread hsteps, Edits.write.entries_after hwrite hsteps,
    g.configure_after steps, ?_⟩
  rintro earlier step step' later rfl hind
  exact eq_of_entries_eq ((g.configure_after _).trans (g.configure_after _).symm)
    (Edits.write.entries_after_swap hwrite hind hsteps)
    (Edits.read.entries_after_swap hread hind hsteps)

/-- An id that was listed twice is deleted and added once; what is deleted from another right might be
deleted before everything else. -/
theorem after_eq_history_taken_back :
    let g : Grant := ⟨∅, ⟨["x"]⟩, ⟨["a", "b", "a"]⟩⟩
    let steps : List (Edit × String) :=
      [(.addRead, "c"), (.deleteWrite, "x"), (.deleteRead, "a"), (.addRead, "a"), (.addRead, "c")]
    (∀ r, ∀ id ∈ (g.right r).entries, Whole id) ∧ (∀ step ∈ steps, Whole step.2) ∧
      (g.after steps).read.entries = ["b", "c", "a", "c"] ∧ (g.after steps).write.entries = [] ∧
      g.after [(.deleteWrite, "x"), (.addRead, "c"), (.deleteRead, "a"), (.addRead, "a"),
        (.addRead, "c")] = g.after steps := by
  intro g steps
  have hg : ∀ r, ∀ id ∈ (g.right r).entries, Whole id := by
    simp only [whole_iff]
    intro r
    cases r <;> decide
  have hsteps : ∀ step ∈ steps, Whole step.2 := by
    simp only [whole_iff]
    decide
  obtain ⟨hread, hwrite, -, hswap⟩ := after_eq_history hg hsteps
  refine ⟨hg, hsteps, hread, hwrite, ?_⟩
  exact hswap [] _ _ _ rfl (.inl (by decide))

end Grant

end BrokerControl.Access
