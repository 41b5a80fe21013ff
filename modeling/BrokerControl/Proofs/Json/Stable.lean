import BrokerControl.Proofs.Json.ReadBack
import Mathlib.Data.List.Nodup

/-! # Types that keep what they read

What a type reads can be written and is read as the same again. This is a property of the values
that were read: a type may have others that no text stands for, which reading would change. A record
has it if each of its fields does. -/

namespace BrokerControl.Json

variable {α β : Type}

theorem of_bind_eq_ok {ε : Type} {x : Except ε α} {f : α → Except ε β} {b : β}
    (h : x >>= f = .ok b) : ∃ a, x = .ok a ∧ f a = .ok b := by
  cases x with
  | error e => cases h
  | ok a => exact ⟨a, rfl, h⟩

/-- The value has a text, and the text stands for it. -/
structure Canonical [Wire α] (a : α) : Prop where
  plain : (encode a).isPlain = true
  reread : decode (encode a) = .ok a

/-- Whatever is read is canonical. -/
class Stable (α : Type) [Wire α] : Prop where
  canonical {j : Json} {a : α} : decode j = .ok a → Canonical a

theorem Stable.of_forall [Wire α] (h : ∀ a : α, Canonical a) : Stable α := ⟨fun {_ a} _ => h a⟩

/-! ## Texts -/

theorem decodeText_eq_ok_iff [Wire α] {text : String} {a : α} :
    decodeText α text = .ok a ↔ decode (read text).1 = .ok a ∧ (read text).2 = true := by
  unfold decodeText
  cases hdecode : (decode (read text).1 : Except DecodeError α) <;>
    cases hended : (read text).2 <;>
    simp [hdecode, hended, Bind.bind, Except.bind, pure, Except.pure, throw, throwThe,
      MonadExceptOf.throw]

theorem decodeText_eq_error [Wire α] {text : String} {e : DecodeError}
    (h : (decode (read text).1 : Except DecodeError α) = .error e) :
    decodeText α text = .error e := by
  change (decode (read text).1 >>= fun a =>
    if (read text).2 = true then pure a else throw DecodeError.mismatch) = _
  rw [h]
  rfl

theorem Canonical.decodeText [Wire α] {a : α} (h : Canonical a) :
    Json.decodeText α (encodeText a) = .ok a :=
  (decodeText_encodeText h.plain).trans h.reread

/-- What was read from one text is read from its own. -/
theorem decodeText_encodeText_of_decodeText [Wire α] [Stable α] {text : String} {a : α}
    (h : decodeText α text = .ok a) : decodeText α (encodeText a) = .ok a :=
  (Stable.canonical (decodeText_eq_ok_iff.1 h).1).decodeText

/-! ## Basic types -/

theorem canonical_string (s : String) : Canonical s := ⟨rfl, rfl⟩

instance : Stable String := .of_forall canonical_string

instance : Stable Bool := .of_forall fun _ => ⟨rfl, rfl⟩

theorem decodeBelow_natural {bound n : Nat} (h : n < bound) :
    decodeBelow bound (.natural n) = .ok n :=
  if_pos h

instance : Stable UInt16 := .of_forall fun n => ⟨rfl, by
  change (decodeBelow UInt16.size (.natural n.toNat)).map UInt16.ofNat = .ok n
  rw [decodeBelow_natural n.toNat_lt_size]
  exact congrArg Except.ok UInt16.ofNat_toNat⟩

instance : Stable UInt64 := .of_forall fun n => ⟨rfl, by
  change (decodeBelow UInt64.size (.natural n.toNat)).map UInt64.ofNat = .ok n
  rw [decodeBelow_natural n.toNat_lt_size]
  exact congrArg Except.ok UInt64.ofNat_toNat⟩

section Lists

variable [Wire α]

theorem canonical_of_decodeItems [Stable α] {js : List Json} {as : List α}
    (h : decodeItems js = .ok as) : ∀ a ∈ as, Canonical a := by
  induction js generalizing as with
  | nil =>
    cases h
    nofun
  | cons j js ih =>
    obtain ⟨b, hdecode, h⟩ := of_bind_eq_ok h
    obtain ⟨bs, hitems, h⟩ := of_bind_eq_ok h
    cases h
    exact List.forall_mem_cons.2 ⟨Stable.canonical hdecode, ih hitems⟩

/-- A list is canonical if its items are. -/
theorem canonical_list {as : List α} (h : ∀ a ∈ as, Canonical a) : Canonical as := by
  suffices hitems : plainItems (as.map encode) = true ∧ decodeItems (as.map encode) = .ok as from
    ⟨hitems.1, hitems.2⟩
  induction as with
  | nil => exact ⟨rfl, rfl⟩
  | cons a as ih =>
    obtain ⟨ha, has⟩ := List.forall_mem_cons.1 h
    obtain ⟨hplain, hreread⟩ := ih has
    constructor
    · simp [plainItems, ha.plain, hplain]
    · simp only [List.map_cons, decodeItems, ha.reread, hreread]
      rfl

theorem canonical_strings (ss : List String) : Canonical ss :=
  canonical_list fun s _ => canonical_string s

instance [Stable α] : Stable (List α) where
  canonical {j as} h := by
    cases j with
    | array js => exact canonical_list (canonical_of_decodeItems h)
    | _ => cases h

theorem canonical_none : Canonical (none : Option α) := ⟨rfl, rfl⟩

theorem decode_option {j : Json} (h : j ≠ .null) :
    (decode j : Except DecodeError (Option α)) = (decode j).map some := by
  cases j with
  | null => exact absurd rfl h
  | _ => rfl

/-- A value that is there must not be written like one that is not. -/
theorem canonical_some {a : α} (h : Canonical a) (hnull : encode a ≠ .null) :
    Canonical (some a) := by
  refine ⟨h.plain, ?_⟩
  change decode (encode a) = _
  rw [decode_option hnull, h.reread]
  rfl

end Lists

instance : Stable (Option String) := .of_forall fun
  | none => canonical_none
  | some s => canonical_some (canonical_string s) nofun

/-! ## Records -/

theorem plainFields_iff {fs : List (String × Json)} :
    plainFields fs = true ↔ ∀ f ∈ fs, f.2.isPlain = true := by
  induction fs with
  | nil => simp [plainFields]
  | cons f fs ih => rw [plainFields, Bool.and_eq_true, ih, List.forall_mem_cons]

/-- The first entry of a name is the only one where names are not repeated. -/
theorem lookup_of_mem {l : List (String × β)} (hnames : (l.map Prod.fst).Nodup) {name : String}
    {b : β} (h : (name, b) ∈ l) : l.lookup name = some b := by
  obtain ⟨l₁, l₂, rfl⟩ := List.append_of_mem h
  refine List.lookup_eq_some_iff.2 ⟨l₁, l₂, rfl, fun p hp => ?_⟩
  rw [List.map_append, List.nodup_append] at hnames
  have hne : p.1 ≠ name :=
    hnames.2.2 p.1 (List.mem_map_of_mem hp) name (List.mem_cons_self ..)
  simpa using hne.symm

namespace Record

/-- The fields are those of the record in their order, each of its type, and put together they are
the value. -/
structure Writes (r : Record α) (fs : List (String × Json)) (a : α) : Prop where
  names : fs.map Prod.fst = r.fields.map Prod.fst
  plain : ∀ f ∈ fs, f.2.isPlain = true
  tests : ∀ f ∈ fs, ∃ test, (f.1, test) ∈ r.fields ∧ test f.2 = .ok ()
  value : ∀ values : String → Option Json, (∀ f ∈ fs, values f.1 = some f.2) →
    r.ofNames values = .ok a

namespace Writes

variable {r : Record α} {fs : List (String × Json)} {a : α}

/-- One more field of the record and of the object. -/
theorem extend [Wire β] {r : Record (β → α)} {f : β → α} {b : β} {name : String}
    {extended : Record α} (h : r.Writes fs f) (hb : Canonical b)
    (hfields : extended.fields =
      r.fields ++ [(name, fun j => (Json.decode j : Except DecodeError β).map fun _ => ())])
    (hvalue : ∀ values, r.ofNames values = .ok f → values name = some (encode b) →
      extended.ofNames values = .ok (f b)) :
    extended.Writes (fs ++ [(name, encode b)]) (f b) where
  names := by rw [hfields, List.map_append, List.map_append, h.names, List.map_singleton]; rfl
  plain := List.forall_mem_append.2 ⟨h.plain, List.forall_mem_singleton.2 hb.plain⟩
  tests := by
    rw [hfields]
    refine List.forall_mem_append.2 ⟨fun g hg => ?_, List.forall_mem_singleton.2 ?_⟩
    · obtain ⟨test, hmem, htest⟩ := h.tests g hg
      exact ⟨test, List.mem_append_left _ hmem, htest⟩
    · refine ⟨_, List.mem_append_right _ List.mem_cons_self, ?_⟩
      rw [hb.reread]
      rfl
  value values hvalues := by
    rw [List.forall_mem_append] at hvalues
    exact hvalue values (h.value values hvalues.1) (hvalues.2 _ List.mem_cons_self)

theorem required [Wire β] {r : Record (β → α)} {f : β → α} {b : β} (h : r.Writes fs f)
    (hb : Canonical b) (name : String) :
    (r.required name).Writes (fs ++ [(name, encode b)]) (f b) :=
  h.extend hb rfl fun values hf hj => by
    simp only [Record.required, hf, hj, hb.reread, Bind.bind, Except.bind]
    rfl

theorem optional [Wire β] {r : Record (β → α)} {f : β → α} {b : β} (h : r.Writes fs f)
    (hb : Canonical b) (name : String) (absent : β) :
    (r.optional name absent).Writes (fs ++ [(name, encode b)]) (f b) :=
  h.extend hb rfl fun values hf hj => by
    simp only [Record.optional, hf, hj, hb.reread, Bind.bind, Except.bind]
    rfl

/-- Every field is declared and of its type, so nothing stops the check. -/
theorem check_eq_ok {gs : List (String × Json)} {seen : List String}
    (htests : ∀ g ∈ gs, ∃ test, r.fields.lookup g.1 = some test ∧ test g.2 = .ok ())
    (hnames : (gs.map Prod.fst).Nodup) (hseen : ∀ g ∈ gs, g.1 ∉ seen) :
    r.check gs seen = .ok () := by
  induction gs generalizing seen with
  | nil => rfl
  | cons g gs ih =>
    obtain ⟨⟨test, hlookup, htest⟩, hrest⟩ := List.forall_mem_cons.1 htests
    obtain ⟨hfresh, hnames⟩ := List.nodup_cons.1 hnames
    obtain ⟨hnew, hseen⟩ := List.forall_mem_cons.1 hseen
    rw [check, hlookup]
    simp only [if_neg hnew, htest]
    -- the name that was just seen does not come again
    refine ih hrest hnames fun g' hg' => ?_
    rw [List.mem_cons, not_or]
    exact ⟨fun heq => hfresh (heq ▸ List.mem_map_of_mem hg'), hseen g' hg'⟩

theorem decode_eq_ok (h : r.Writes fs a) (hnames : (r.fields.map Prod.fst).Nodup) :
    r.decode (.object fs) = .ok a := by
  have hfs : (fs.map Prod.fst).Nodup := h.names ▸ hnames
  have hcheck : r.check fs [] = .ok () := by
    refine check_eq_ok (fun f hf => ?_) hfs fun _ _ => List.not_mem_nil
    obtain ⟨test, hmem, htest⟩ := h.tests f hf
    exact ⟨test, lookup_of_mem hnames hmem, htest⟩
  simp only [decode, hcheck]
  exact h.value _ fun f hf => lookup_of_mem hfs hf

theorem canonical [Wire α] (h : r.Writes fs a) (hnames : (r.fields.map Prod.fst).Nodup)
    (hdecode : ∀ j, (Json.decode j : Except DecodeError α) = r.decode j)
    (hencode : encode a = .object fs) : Canonical a where
  plain := by
    rw [hencode]
    exact plainFields_iff.2 h.plain
  reread := by
    rw [hencode, hdecode]
    exact h.decode_eq_ok hnames

end Writes

/-- Whatever the record is put together to is what some fields write, and the two are as in `Q`. A
record that lacks its last fields is followed with a `Q` about any values of theirs. -/
structure Yields (r : Record α) (Q : List (String × Json) → α → Prop) : Prop where
  ofNames : ∀ values a, r.ofNames values = .ok a → ∃ fs, r.Writes fs a ∧ Q fs a
  ofItems : ∀ js a rest, r.ofItems js = .ok (a, rest) → ∃ fs, r.Writes fs a ∧ Q fs a

namespace Yields

variable {r : Record α} {Q : List (String × Json) → α → Prop} {name : String}

theorem of {a : α} (h : Q [] a) : (Record.of a).Yields Q := by
  have hwrites : (Record.of a).Writes [] a := ⟨rfl, nofun, nofun, fun _ _ => rfl⟩
  constructor
  · rintro values b ⟨⟩
    exact ⟨[], hwrites, h⟩
  · rintro js b rest ⟨⟩
    exact ⟨[], hwrites, h⟩

/-- One more field: what is put together is what was put together before, applied to a canonical
value. -/
theorem extend [Wire β] {r : Record (β → α)} {extended : Record α}
    (h : r.Yields fun fs f => ∀ b, Q (fs ++ [(name, encode b)]) (f b))
    (hwrites : ∀ {fs f b}, r.Writes fs f → Canonical b →
      extended.Writes (fs ++ [(name, encode b)]) (f b))
    (hnames : ∀ values a, extended.ofNames values = .ok a →
      ∃ f b, r.ofNames values = .ok f ∧ Canonical b ∧ a = f b)
    (hitems : ∀ js a rest, extended.ofItems js = .ok (a, rest) →
      ∃ f b js', r.ofItems js = .ok (f, js') ∧ Canonical b ∧ a = f b) :
    extended.Yields Q := by
  constructor
  · intro values a ha
    obtain ⟨f, b, hf, hb, rfl⟩ := hnames values a ha
    obtain ⟨fs, hfs, hQ⟩ := h.ofNames values f hf
    exact ⟨_, hwrites hfs hb, hQ b⟩
  · intro js a rest ha
    obtain ⟨f, b, js', hf, hb, rfl⟩ := hitems js a rest ha
    obtain ⟨fs, hfs, hQ⟩ := h.ofItems js f js' hf
    exact ⟨_, hwrites hfs hb, hQ b⟩

theorem required [Wire β] [Stable β] {r : Record (β → α)}
    (h : r.Yields fun fs f => ∀ b, Q (fs ++ [(name, encode b)]) (f b)) :
    (r.required name).Yields Q := by
  refine h.extend (fun hwrites hb => hwrites.required hb name) (fun values a ha => ?_)
    fun js a rest ha => ?_
  · obtain ⟨f, hf, ha⟩ := of_bind_eq_ok ha
    split at ha
    · obtain ⟨b, hb, ⟨⟩⟩ := of_bind_eq_ok ha
      exact ⟨f, b, hf, Stable.canonical hb, rfl⟩
    · cases ha
  · obtain ⟨⟨f, js'⟩, hf, ha⟩ := of_bind_eq_ok ha
    dsimp only at ha
    split at ha
    · obtain ⟨b, hb, ⟨⟩⟩ := of_bind_eq_ok ha
      exact ⟨f, b, _, hf, Stable.canonical hb, rfl⟩
    · cases ha

theorem optional [Wire β] [Stable β] {r : Record (β → α)} {absent : β} (habsent : Canonical absent)
    (h : r.Yields fun fs f => ∀ b, Q (fs ++ [(name, encode b)]) (f b)) :
    (r.optional name absent).Yields Q := by
  refine h.extend (fun hwrites hb => hwrites.optional hb name absent) (fun values a ha => ?_)
    fun js a rest ha => ?_
  · obtain ⟨f, hf, ha⟩ := of_bind_eq_ok ha
    split at ha
    · obtain ⟨b, hb, ⟨⟩⟩ := of_bind_eq_ok ha
      exact ⟨f, b, hf, Stable.canonical hb, rfl⟩
    · cases ha
      exact ⟨f, absent, hf, habsent, rfl⟩
  · obtain ⟨⟨f, js'⟩, hf, ha⟩ := of_bind_eq_ok ha
    dsimp only at ha
    split at ha
    · obtain ⟨b, hb, ⟨⟩⟩ := of_bind_eq_ok ha
      exact ⟨f, b, _, hf, Stable.canonical hb, rfl⟩
    -- the array is too short, and nothing is left of it for the fields that follow
    · cases ha
      exact ⟨f, absent, _, hf, habsent, rfl⟩

theorem of_decode (h : r.Yields Q) {j : Json} {a : α} (ha : r.decode j = .ok a) :
    ∃ fs, r.Writes fs a ∧ Q fs a := by
  cases j with
  | object fields =>
    obtain ⟨-, -, ha⟩ := of_bind_eq_ok ha
    exact h.ofNames _ a ha
  | array js =>
    obtain ⟨⟨b, rest⟩, hitems, ha⟩ := of_bind_eq_ok ha
    dsimp only at ha
    split at ha
    · cases ha
      exact h.ofItems js a rest hitems
    · cases ha
  | _ => cases ha

end Yields

end Record

/-- A type that is read as a record is stable if the record's fields are what it is written as. -/
theorem Stable.of_record [Wire α] {r : Record α}
    (hdecode : ∀ j, (decode j : Except DecodeError α) = r.decode j)
    (hnames : (r.fields.map Prod.fst).Nodup) (h : r.Yields fun fs a => encode a = .object fs) :
    Stable α where
  canonical ha := by
    rw [hdecode] at ha
    obtain ⟨fs, hwrites, hencode⟩ := h.of_decode ha
    exact hwrites.canonical hnames hdecode hencode

end BrokerControl.Json
