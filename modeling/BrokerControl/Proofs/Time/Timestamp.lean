import BrokerControl.Time.Timestamp
import Mathlib.Algebra.Ring.Nat
import Mathlib.Data.List.Basic
import Mathlib.Data.List.TakeDrop

/-! # Timestamps are read back

The text of a timestamp is read as that timestamp: each part takes exactly its own characters off
the front, whatever follows. -/

namespace BrokerControl.Timestamp

/-! ## Digits -/

theorem value_eq_ofDigitChars (ds : List Char) : value ds = Nat.ofDigitChars 10 ds 0 := by
  rw [Nat.ofDigitChars_eq_foldl]
  rfl

theorem value_append_zeros (ds : List Char) (k : Nat) :
    value (ds ++ List.replicate k '0') = value ds * 10 ^ k := by
  induction k with
  | zero => simp
  | succ k ih =>
    rw [List.replicate_succ', ← List.append_assoc, value, List.foldl_append, ← value, ih]
    simp only [List.foldl_cons, List.foldl_nil, Nat.sub_self, Nat.add_zero]
    rw [Nat.pow_succ, Nat.mul_comm, Nat.mul_assoc]

theorem toList_padded (width n : Nat) : (padded width n).toList =
    List.replicate (width - (Nat.toDigits 10 n).length) '0' ++ Nat.toDigits 10 n :=
  String.toList_ofList

theorem value_padded (width n : Nat) : value (padded width n).toList = n := by
  rw [toList_padded, value_eq_ofDigitChars, Nat.ofDigitChars_append,
    Nat.ofDigitChars_replicate_zero]
  simp [Nat.ofDigitChars_ten_toDigits]

theorem isDigit_of_mem_padded {width n : Nat} {c : Char} (h : c ∈ (padded width n).toList) :
    isDigit c = true := by
  rw [toList_padded] at h
  rcases List.mem_append.1 h with h | h
  · rw [(List.mem_replicate.1 h).2]
    rfl
  · exact Nat.isDigit_of_mem_toDigits (by decide) (by decide) h

/-- A number that fits is written with exactly as many digits as the width says. -/
theorem length_padded {width n : Nat} (hwidth : 0 < width) (h : n < 10 ^ width) :
    (padded width n).toList.length = width := by
  have hle : (Nat.toDigits 10 n).length ≤ width :=
    (Nat.length_toDigits_le_iff (by decide) hwidth).2 h
  rw [toList_padded, List.length_append, List.length_replicate]
  omega

theorem padded_ne_nil (width n : Nat) : (padded width n).toList ≠ [] := by
  rw [toList_padded]
  simp [Nat.toDigits_ne_nil]

/-! ## Parts -/

variable {rest : List Char}

/-- A part that was read is followed by the rest of the reading. -/
theorem run_bind {α β : Type} {part : Reader α} {next : α → Reader β} {cs : List Char} {a : α}
    (h : part.run cs = some (a, rest)) : (part >>= next).run cs = (next a).run rest := by
  rw [StateT.run_bind, h]
  rfl

theorem get_run {cs : List Char} : (get : Reader (List Char)).run cs = some (cs, cs) := rfl

theorem guard_run {p : Prop} [Decidable p] (h : p) :
    (guard p : Reader Unit).run rest = some ((), rest) := by
  rw [guard, if_pos h]
  rfl

/-- What is left does not begin with a character of some kind. -/
def Ahead (kind : Char → Bool) (cs : List Char) : Prop := ∀ c ∈ cs.head?, kind c = false

theorem ahead_cons {kind : Char → Bool} {c : Char} (h : kind c = false) :
    Ahead kind (c :: rest) := by
  rintro d hd
  obtain rfl : c = d := Option.some.inj hd
  exact h

theorem span_append {kind : Char → Bool} {ds : List Char} (hds : ∀ c ∈ ds, kind c = true)
    (hrest : Ahead kind rest) :
    (ds ++ rest).takeWhile kind = ds ∧ (ds ++ rest).dropWhile kind = rest := by
  have hno : rest.takeWhile kind = [] ∧ rest.dropWhile kind = rest := by
    cases rest with
    | nil => exact ⟨rfl, rfl⟩
    | cons c cs => simp [hrest c rfl]
  rw [List.takeWhile_append_of_pos hds, List.dropWhile_append_of_pos hds, hno.1, hno.2,
    List.append_nil]
  exact ⟨rfl, rfl⟩

theorem blanks_run {cs : List Char} (h : Ahead Text.isWhiteSpace cs) :
    blanks.run cs = some ((), cs) := by
  have htrim : Text.trimStart cs = cs := by
    cases cs with
    | nil => rfl
    | cons c cs => simp [Text.trimStart, h c rfl]
  simp [blanks, htrim]

theorem isWhiteSpace_of_isDigit {c : Char} (h : isDigit c = true) :
    Text.isWhiteSpace c = false := by
  have hrange : 48 ≤ c.toNat ∧ c.toNat ≤ 57 := by
    simpa [isDigit, Char.le_def, UInt32.le_iff_toNat_le] using h
  simp only [Text.isWhiteSpace, Bool.or_eq_false_iff, Bool.and_eq_false_iff,
    decide_eq_false_iff_not, beq_eq_false_iff_ne]
  omega

theorem ahead_padded {kind : Char → Bool} (hkind : ∀ c, isDigit c = true → kind c = false)
    (width n : Nat) : Ahead kind ((padded width n).toList ++ rest) := by
  obtain ⟨d, ds, hds⟩ := List.exists_cons_of_ne_nil (padded_ne_nil width n)
  have hd : d ∈ (padded width n).toList := hds ▸ List.mem_cons_self
  rw [hds]
  exact ahead_cons (hkind d (isDigit_of_mem_padded hd))

theorem digitsUpTo_run {width n : Nat} (hwidth : 0 < width) (h : n < 10 ^ width) :
    (digitsUpTo width).run ((padded width n).toList ++ rest) = some (n, rest) := by
  have htake : (((padded width n).toList ++ rest).take width).takeWhile isDigit =
      (padded width n).toList := by
    rw [List.take_left' (length_padded hwidth h)]
    have hall : ((padded width n).toList ++ []).takeWhile isDigit =
        (padded width n).toList ++ [].takeWhile isDigit :=
      List.takeWhile_append_of_pos fun _ => isDigit_of_mem_padded
    simpa using hall
  have hsome : (!(padded width n).toList.isEmpty) = true := by simpa using padded_ne_nil width n
  rw [digitsUpTo, run_bind get_run]
  dsimp only
  rw [htake, run_bind (guard_run hsome), value_padded]
  exact congrArg (fun rest => some (n, rest)) (List.drop_left ..)

theorem allDigits_run (width n : Nat) (hrest : Ahead isDigit rest) :
    allDigits.run ((padded width n).toList ++ rest) = some ((padded width n).toList, rest) := by
  have hsome : (!(padded width n).toList.isEmpty) = true := by simpa using padded_ne_nil width n
  have hds : ∀ c ∈ (padded width n).toList, isDigit c = true := fun _ => isDigit_of_mem_padded
  have hspan := span_append hds hrest
  rw [allDigits, run_bind get_run, List.span_eq_takeWhile_dropWhile, hspan.1, hspan.2]
  dsimp only
  rw [run_bind (guard_run hsome)]
  rfl

theorem field_run {n : Nat} (h : n < 100) :
    field.run ((padded 2 n).toList ++ rest) = some (n, rest) := by
  rw [field, run_bind (blanks_run (ahead_padded (fun _ => isWhiteSpace_of_isDigit) 2 n)),
    digitsUpTo_run (by decide) h]

theorem oneOf_run {allowed : List Char} {c : Char} (h : c ∈ allowed) :
    (oneOf allowed).run (c :: rest) = some (c, rest) := by
  rw [oneOf, run_bind get_run]
  dsimp only
  rw [run_bind (guard_run (by simpa using h))]
  rfl

theorem discard_oneOf_run {allowed : List Char} {c : Char} (h : c ∈ allowed) :
    (discard (oneOf allowed)).run (c :: rest) = some ((), rest) := by
  have hmap : (discard (oneOf allowed)).run (c :: rest) =
      ((oneOf allowed).run (c :: rest)).bind fun x => some ((), x.2) := rfl
  rw [hmap, oneOf_run h, Option.bind_some]

theorem mark_run {c : Char} (h : Text.isWhiteSpace c = false) :
    (mark c).run (c :: rest) = some ((), rest) := by
  rw [mark, run_bind (blanks_run (ahead_cons h))]
  exact discard_oneOf_run List.mem_cons_self

theorem optionalOneOf_run_of_mem {allowed : List Char} {c : Char} (h : c ∈ allowed) :
    (optionalOneOf allowed).run (c :: rest) = some (some c, rest) := by
  simp [optionalOneOf, h]

theorem optionalOneOf_run_of_ahead {allowed cs : List Char} (h : Ahead allowed.contains cs) :
    (optionalOneOf allowed).run cs = some (none, cs) := by
  cases cs with
  | nil => rfl
  | cons c cs =>
    have hc : c ∉ allowed := by simpa using h c rfl
    simp [optionalOneOf, hc]

/-- A year of four digits has no sign. -/
theorem year_run_unsigned {n : Nat} (h : n < 10 ^ 4) :
    year.run ((padded 4 n).toList ++ rest) = some ((n : Int), rest) := by
  have hsign : Ahead ['+', '-'].contains ((padded 4 n).toList ++ rest) := by
    refine ahead_padded (fun c hc => ?_) 4 n
    have hplus : c ≠ '+' := by rintro rfl; cases hc
    have hminus : c ≠ '-' := by rintro rfl; cases hc
    simp [hplus, hminus]
  rw [year, run_bind (blanks_run (ahead_padded (fun _ => isWhiteSpace_of_isDigit) 4 n)),
    run_bind (optionalOneOf_run_of_ahead hsign), run_bind (digitsUpTo_run (by decide) h)]
  rfl

/-- After a sign all digits up to the next character belong to the year. -/
theorem year_run_signed {sign : Char} (hsign : sign = '+' ∨ sign = '-') (n : Nat)
    (hrest : Ahead isDigit rest) :
    year.run (sign :: ((padded 4 n).toList ++ rest)) =
      some (if sign = '-' then -(n : Int) else n, rest) := by
  have hblanks : Ahead Text.isWhiteSpace (sign :: ((padded 4 n).toList ++ rest)) :=
    ahead_cons (by rcases hsign with rfl | rfl <;> rfl)
  have hmem : sign ∈ ['+', '-'] := by simpa using hsign
  rw [year, run_bind (blanks_run hblanks), run_bind (optionalOneOf_run_of_mem hmem),
    run_bind (allDigits_run 4 n hrest), value_padded]
  rfl

theorem year_run (y : Int) (hrest : Ahead isDigit rest) :
    year.run ((yearText y).toList ++ rest) = some (y, rest) := by
  unfold yearText
  split
  · next hneg =>
    have habs : -(y.natAbs : Int) = y := by omega
    rw [String.toList_append]
    refine (year_run_signed (.inr rfl) y.natAbs hrest).trans ?_
    rw [if_pos rfl, habs]
  · next hneg =>
    have habs : (y.natAbs : Int) = y := by omega
    split
    · rw [String.toList_append]
      refine (year_run_signed (.inl rfl) y.natAbs hrest).trans ?_
      rw [if_neg (by decide), habs]
    · refine (year_run_unsigned (by omega)).trans ?_
      rw [habs]

/-- A fraction counts in nanoseconds, however many digits are written. -/
theorem fraction_run_padded {width n : Nat} (hwidth : 0 < width) (hle : width ≤ 9)
    (h : n < 10 ^ width) (hrest : Ahead isDigit rest) :
    fraction.run ('.' :: ((padded width n).toList ++ rest)) =
      some (n * 10 ^ (9 - width), rest) := by
  have hlength := length_padded hwidth h
  have htake : (padded width n).toList.take 9 = (padded width n).toList :=
    List.take_of_length_le (by omega)
  have hpoint : '.' ∈ ['.'] := List.mem_cons_self
  rw [fraction, run_bind (optionalOneOf_run_of_mem hpoint),
    run_bind (allDigits_run width n hrest), htake]
  dsimp only
  rw [hlength, value_append_zeros, value_padded]
  rfl

theorem fraction_run {n : Nat} (h : n < 1000000000) (hdigit : Ahead isDigit rest)
    (hpoint : Ahead ['.'].contains rest) :
    fraction.run ((fractionText n).toList ++ rest) = some (n, rest) := by
  unfold fractionText
  split
  · next hzero =>
    subst hzero
    rw [String.toList_empty, List.nil_append, fraction,
      run_bind (optionalOneOf_run_of_ahead hpoint)]
    rfl
  · split
    · next hmillis =>
      rw [String.toList_append]
      refine (fraction_run_padded (by decide) (by decide) (by omega) hdigit).trans ?_
      rw [show n / 1000000 * 10 ^ (9 - 3) = n by omega]
    · split
      · next hmicros =>
        rw [String.toList_append]
        refine (fraction_run_padded (by decide) (by decide) (by omega) hdigit).trans ?_
        rw [show n / 1000 * 10 ^ (9 - 6) = n by omega]
      · rw [String.toList_append]
        refine (fraction_run_padded (by decide) (by decide) (by omega) hdigit).trans ?_
        rw [show n * 10 ^ (9 - 9) = n by omega]

theorem offset_run : offset.run ['Z'] = some (0, []) := by
  decide

theorem ofLocal?_utc (t : Timestamp) :
    ofLocal? t.date t.minute t.second t.nanosecond 0 = some t := by
  obtain ⟨hminute, -, -⟩ := t.valid
  have hday : ¬((t.minute : Int) - 0 < 0) ∧ ¬((t.minute : Int) - 0 ≥ 1440) := by omega
  have hutc : (((t.minute : Int) - 0) % 1440).toNat = t.minute := by omega
  simp only [ofLocal?, hday.1, hday.2, if_false, hutc, Option.bind_eq_bind, Option.bind_some,
    dif_pos t.valid]
  rfl

/-! ## Timestamps -/

theorem daysInMonth_le (year : Int) (month : Nat) : daysInMonth year month ≤ 31 := by
  unfold daysInMonth
  split_ifs <;> decide

/-- A timestamp is read back from its text. -/
theorem ofString?_text (t : Timestamp) : ofString? t.text = some t := by
  obtain ⟨hminute, hsecond, hnano⟩ := t.valid
  have hmonth : t.date.month < 100 ∧ t.date.day < 100 := by
    have hdate := t.date.valid
    simp only [isDate, Bool.and_eq_true, decide_eq_true_eq] at hdate
    have hdays := daysInMonth_le t.date.year t.date.month
    omega
  have htext : t.text.toList = (yearText t.date.year).toList ++ '-' ::
      ((padded 2 t.date.month).toList ++ '-' :: ((padded 2 t.date.day).toList ++ 'T' ::
        ((padded 2 (t.minute / 60)).toList ++ ':' :: ((padded 2 (t.minute % 60)).toList ++ ':' ::
          ((padded 2 t.second).toList ++ ((fractionText t.nanosecond).toList ++ ['Z'])))))) := by
    simp [text]
  have hblank : Text.isWhiteSpace '-' = false ∧ Text.isWhiteSpace ':' = false := by decide
  have hT : 'T' ∈ ['t', 'T', ' '] := by decide
  have hdate : Date.of? t.date.year t.date.month t.date.day = some t.date := by
    rw [Date.of?, dif_pos t.date.valid]
  have hhour : t.minute / 60 < 24 ∧ t.minute % 60 < 60 := by omega
  have hday : 60 * (t.minute / 60) + t.minute % 60 = t.minute := Nat.div_add_mod ..
  have hnothing : blanks.run [] = some ((), []) := rfl
  -- one part after the other, in the order of the reader
  rw [ofString?, htext, timestamp, run_bind (year_run _ (ahead_cons rfl)),
    run_bind (mark_run hblank.1), run_bind (field_run hmonth.1), run_bind (mark_run hblank.1),
    run_bind (field_run hmonth.2), run_bind (discard_oneOf_run hT),
    run_bind (field_run (by omega)), run_bind (mark_run hblank.2),
    run_bind (field_run (by omega)), run_bind (mark_run hblank.2),
    run_bind (field_run (by omega)),
    run_bind (fraction_run hnano (ahead_cons rfl) (ahead_cons rfl)),
    run_bind (blanks_run (ahead_cons rfl)), run_bind offset_run, run_bind hnothing, hdate, hday]
  have hguard : (decide (t.minute / 60 < 24) && decide (t.minute % 60 < 60) &&
      ([] : List Char).isEmpty) = true := by
    simpa using hhour
  rw [run_bind get_run, run_bind (guard_run hguard)]
  have hlocal : (liftM (ofLocal? t.date t.minute t.second t.nanosecond 0) : Reader Timestamp).run
      [] = some (t, []) := by
    rw [ofLocal?_utc]
    rfl
  exact congrArg (Option.map Prod.fst) hlocal

end BrokerControl.Timestamp
