import BrokerControl.Json.Wire
import Mathlib.Data.List.Basic
import Mathlib.Data.List.TakeDrop

/-! # Reading what was written

The compact text of a value is read as that value again. This holds of plain values, those that have
a text of their own and one only: no number literal kept as it was written, and no mark of a text
that could not be read. -/

namespace BrokerControl.Json

/-! ## Plain values -/

mutual

/-- Whether a value is made of literals, natural numbers and strings. -/
def isPlain : Json → Bool
  | .null | .bool _ | .natural _ | .string _ => true
  | .array items => plainItems items
  | .object fields => plainFields fields
  | _ => false

def plainItems : List Json → Bool
  | [] => true
  | j :: js => isPlain j && plainItems js

def plainFields : List (String × Json) → Bool
  | [] => true
  | (_, j) :: fs => isPlain j && plainFields fs

end

/-! ## String literals -/

/-- The pieces of a literal in which another one stands first. -/
def withPiece (p : Piece) (x : Option (List Piece × List Char)) : Option (List Piece × List Char) :=
  x.map fun x => (p :: x.1, x.2)

theorem pieces?_escape {e c : Char} (he : unescape? e = some c) (cs : List Char) :
    pieces? ('\\' :: e :: cs) = withPiece (.char c) (pieces? cs) := by
  have hu : e ≠ 'u' := by
    rintro rfl
    cases he
  rw [pieces?.eq_def]
  simp only [↓reduceIte, Char.reduceEq]
  split
  · next heq => exact absurd (List.cons.inj heq).1 hu
  · next heq =>
    obtain ⟨rfl, rfl⟩ := List.cons.inj heq
    rw [he]
    cases pieces? cs <;> rfl
  · next heq => cases heq

theorem pieces?_unit {w x y z : Char} {n : Nat} (hn : codeUnit? w x y z = some n) (cs : List Char) :
    pieces? ('\\' :: 'u' :: w :: x :: y :: z :: cs) = withPiece (.unit n) (pieces? cs) := by
  rw [pieces?.eq_def]
  simp only [Char.reduceEq, ↓reduceIte, hn]
  cases pieces? cs <;> rfl

theorem pieces?_char {c : Char} (hquote : c ≠ '"') (hbackslash : c ≠ '\\') (hc : ¬c.toNat < 0x20)
    (cs : List Char) : pieces? (c :: cs) = withPiece (.char c) (pieces? cs) := by
  rw [pieces?.eq_def]
  simp only [hquote, hbackslash, hc, if_false]
  cases pieces? cs <;> rfl

theorem text?_control {n : Nat} (hn : n < 0x20) (ps : List Piece) :
    text? (.unit n :: ps) = (text? ps).map (Char.ofNat n :: ·) := by
  have hhigh : isHighSurrogate n = false := by
    simp only [isHighSurrogate, Bool.and_eq_false_iff, decide_eq_false_iff_not]
    omega
  have hlow : isLowSurrogate n = false := by
    simp only [isLowSurrogate, Bool.and_eq_false_iff, decide_eq_false_iff_not]
    omega
  rw [text?.eq_def]
  simp only [hhigh, hlow, Bool.false_eq_true, if_false]

theorem codeUnit?_control {n : Nat} (hn : n < 0x20) :
    codeUnit? '0' '0' (Text.hexDigit (n / 16)) (Text.hexDigit (n % 16)) = some n := by
  have hzero : Text.hexValue? '0' = some 0 := by decide
  have hvalue : ((0 * 16 + 0) * 16 + n / 16) * 16 + n % 16 = n := by omega
  simp only [codeUnit?, hzero, Text.hexValue?_hexDigit (show n / 16 < 16 by omega),
    Text.hexValue?_hexDigit (show n % 16 < 16 by omega), Option.pure_def, Option.bind_eq_bind,
    Option.bind_some, hvalue]

/-- A character is written with a letter for it, as a code unit, or as it is. -/
theorem quoteChar_cases (c : Char) :
    (∃ e, unescape? e = some c ∧ quoteChar c = ['\\', e]) ∨
      (c.toNat < 0x20 ∧ quoteChar c =
        ['\\', 'u', '0', '0', Text.hexDigit (c.toNat / 16), Text.hexDigit (c.toNat % 16)]) ∨
      (c ≠ '"' ∧ c ≠ '\\' ∧ ¬c.toNat < 0x20) ∧ quoteChar c = [c] := by
  unfold quoteChar
  split_ifs with h h h h h h h hc
  all_goals first
    | exact .inl ⟨_, by rw [h]; rfl, rfl⟩
    | exact .inr (.inl ⟨hc, rfl⟩)
    | exact .inr (.inr ⟨⟨‹_›, ‹_›, hc⟩, rfl⟩)

/-- A written character is one piece of a literal, and that piece is read as the character. -/
theorem pieces?_quoteChar (c : Char) (cs : List Char) :
    ∃ p, pieces? (quoteChar c ++ cs) = withPiece p (pieces? cs) ∧
      ∀ ps, text? (p :: ps) = (text? ps).map (c :: ·) := by
  rcases quoteChar_cases c with ⟨e, he, hquote⟩ | ⟨hc, hquote⟩ | ⟨⟨h, h', hc⟩, hquote⟩ <;> rw [hquote]
  · exact ⟨.char c, pieces?_escape he cs, fun _ => rfl⟩
  · refine ⟨.unit c.toNat, pieces?_unit (codeUnit?_control hc) cs, fun ps => ?_⟩
    rw [text?_control hc, Char.ofNat_toNat]
  · exact ⟨.char c, pieces?_char h h' hc cs, fun _ => rfl⟩

/-- A literal that was written is read as its text. -/
theorem pieces?_quote (cs rest : List Char) :
    ∃ ps, pieces? (cs.flatMap quoteChar ++ '"' :: rest) = some (ps, rest) ∧
      text? ps = some cs := by
  induction cs with
  | nil => exact ⟨[], pieces?.eq_def _, rfl⟩
  | cons c cs ih =>
    obtain ⟨ps, hps, htext⟩ := ih
    obtain ⟨p, hp, hc⟩ := pieces?_quoteChar c (cs.flatMap quoteChar ++ '"' :: rest)
    refine ⟨p :: ps, ?_, ?_⟩
    · rw [List.flatMap_cons, List.append_assoc, hp, hps]
      rfl
    · rw [hc, htext]
      rfl

/-! ## Numbers -/

/-- Whether a text begins with what may follow a value inside an array or an object. -/
def Delimited : List Char → Prop
  | [] => True
  | c :: _ => c = ',' ∨ c = ']' ∨ c = '\x7d'

theorem leadingDigits_append {ds rest : List Char} (hds : ∀ c ∈ ds, c.isDigit = true)
    (hrest : Delimited rest) : leadingDigits (ds ++ rest) = (ds, rest) := by
  have hno : rest.takeWhile Char.isDigit = [] ∧ rest.dropWhile Char.isDigit = rest := by
    cases rest with
    | nil => exact ⟨rfl, rfl⟩
    | cons c cs =>
      have hc : c.isDigit = false := by
        rcases hrest with rfl | rfl | rfl <;> decide
      simp [hc]
  rw [leadingDigits, List.span_eq_takeWhile_dropWhile, List.takeWhile_append_of_pos hds,
    List.dropWhile_append_of_pos hds, hno.1, hno.2, List.append_nil]

theorem fraction?_of_delimited {rest : List Char} (h : Delimited rest) :
    fraction? rest = some ([], rest) := by
  cases rest with
  | nil => rfl
  | cons c cs => rcases h with rfl | rfl | rfl <;> rfl

theorem exponent?_of_delimited {rest : List Char} (h : Delimited rest) :
    exponent? rest = some ([], rest) := by
  cases rest with
  | nil => rfl
  | cons c cs => rcases h with rfl | rfl | rfl <;> rfl

theorem ofDigits_digits (n : Nat) : ofDigits (natural.digits n) = n := by
  have hfold : ofDigits (natural.digits n) = Nat.ofDigitChars 10 (natural.digits n) 0 := by
    rw [Nat.ofDigitChars_eq_foldl, ofDigits]
    congr 1
    funext k d
    rw [Nat.mul_comm]
    rfl
  rw [hfold, natural.digits, Nat.ofDigitChars_ten_toDigits]

/-- Only zero is written with a zero in front. -/
theorem digits_of_head?_zero {n : Nat} (h : (natural.digits n).head? = some '0') : n = 0 := by
  induction n using Nat.strongRecOn with
  | _ n ih =>
    by_cases hn : n < 10
    · rw [natural.digits, Nat.toDigits_of_lt_base hn] at h
      have hdigit : ∀ m < 10, Nat.digitChar m = '0' → m = 0 := by decide
      exact hdigit n hn (Option.some.inj h)
    · have hlt : n / 10 < n := by omega
      rw [natural.digits, Nat.toDigits_of_base_le (by decide) (by omega),
        List.head?_append_of_ne_nil _ Nat.toDigits_ne_nil] at h
      have hzero := ih (n / 10) hlt h
      omega

theorem number_digits (n : Nat) {rest : List Char} (h : Delimited rest) :
    number (natural.digits n ++ rest) = (.natural n, rest) := by
  have hdigits : ∀ c ∈ natural.digits n, c.isDigit = true :=
    fun c hc => Nat.isDigit_of_mem_toDigits (by decide) (by decide) hc
  have hne : natural.digits n ≠ [] := Nat.toDigits_ne_nil
  have hplain : ¬((natural.digits n).head? = some '0' ∧ natural.digits n ≠ ['0']) := by
    rintro ⟨hhead, hother⟩
    rw [digits_of_head?_zero hhead] at hother
    exact hother rfl
  have hsign : ∀ r, natural.digits n ++ rest ≠ '-' :: r := by
    intro r hr
    obtain ⟨d, ds, hds⟩ := List.exists_cons_of_ne_nil hne
    rw [hds, List.cons_append] at hr
    have hd := hdigits d (by simp [hds])
    rw [(List.cons.inj hr).1] at hd
    exact absurd hd (by decide)
  unfold number
  split
  next sign cs' heq =>
  split at heq
  · next r hr => exact absurd hr (hsign r)
  · cases heq
    rw [leadingDigits_append hdigits h]
    simp only [hne, hplain, or_self, if_false, fraction?_of_delimited h,
      exponent?_of_delimited h, and_self, if_true, ofDigits_digits]

/-! ## Values -/

theorem skipSpace_cons {c : Char} (h : isSpace c = false) (cs : List Char) :
    skipSpace (c :: cs) = c :: cs := List.dropWhile_cons_of_neg (by simp [h])

theorem isSpace_of_isDigit {c : Char} (h : c.isDigit = true) : isSpace c = false := by
  by_contra hspace
  simp only [isSpace, Bool.not_eq_false, Bool.or_eq_true, beq_iff_eq] at hspace
  rcases hspace with ((rfl | rfl) | rfl) | rfl <;> exact absurd h (by decide)

theorem value_digits (m n : Nat) {rest : List Char} (h : Delimited rest) :
    value (n + 1) (natural.digits m ++ rest) = (.natural m, rest) := by
  obtain ⟨d, ds, hds⟩ := List.exists_cons_of_ne_nil (Nat.toDigits_ne_nil (n := m) (b := 10))
  have hdigits : natural.digits m = d :: ds := hds
  have hd : d.isDigit = true :=
    Nat.isDigit_of_mem_toDigits (by decide) (by decide) (hds ▸ List.mem_cons_self)
  have hother {c : Char} (hc : c.isDigit = false) : d ≠ c := by
    rintro rfl
    rw [hd] at hc
    cases hc
  have hnumber := number_digits m h
  rw [hdigits, List.cons_append] at hnumber ⊢
  rw [value, skipSpace_cons (isSpace_of_isDigit hd)]
  simp only [hother (c := '"') (by decide), hother (c := '[') (by decide),
    hother (c := '\x7b') (by decide), hother (c := 'n') (by decide),
    hother (c := 't') (by decide), hother (c := 'f') (by decide), if_false, hnumber]

theorem quote_append (s : String) (rest : List Char) :
    quote s ++ rest = '"' :: (s.toList.flatMap quoteChar ++ '"' :: rest) := by
  simp [quote]

theorem value_quote (s : String) (n : Nat) (rest : List Char) :
    value (n + 1) (quote s ++ rest) = (.string s, rest) := by
  obtain ⟨ps, hps, htext⟩ := pieces?_quote s.toList rest
  rw [quote_append, value, skipSpace_cons rfl]
  simp only [if_true, hps, htext, String.ofList_toList]

/-- A plain value is written with a first character that is neither space nor a closing bracket. -/
theorem compact_head {j : Json} (h : j.isPlain = true) :
    ∃ c cs, compact j = c :: cs ∧ isSpace c = false ∧ c ≠ ']' := by
  cases j with
  | null => exact ⟨_, _, rfl, rfl, by decide⟩
  | bool b => cases b <;> exact ⟨_, _, rfl, rfl, by decide⟩
  | natural n =>
    obtain ⟨d, ds, hds⟩ := List.exists_cons_of_ne_nil (Nat.toDigits_ne_nil (n := n) (b := 10))
    have hd : d.isDigit = true :=
      Nat.isDigit_of_mem_toDigits (by decide) (by decide) (hds ▸ List.mem_cons_self)
    refine ⟨d, ds, hds, isSpace_of_isDigit hd, ?_⟩
    rintro rfl
    exact absurd hd (by decide)
  | string s => exact ⟨_, _, rfl, rfl, by decide⟩
  | array items => cases items <;> exact ⟨_, _, rfl, rfl, by decide⟩
  | object fields => cases fields <;> exact ⟨_, _, rfl, rfl, by decide⟩
  | numeral | unpaired | nameless | cut => cases h

theorem value_word {c : Char} {cs : List Char} {j : Json} (n : Nat) (rest : List Char)
    (h : (c = 'n' ∧ cs = ['u', 'l', 'l'] ∧ j = .null) ∨
      (c = 't' ∧ cs = ['r', 'u', 'e'] ∧ j = .bool true) ∨
      (c = 'f' ∧ cs = ['a', 'l', 's', 'e'] ∧ j = .bool false)) :
    value (n + 1) (c :: cs ++ rest) = (j, rest) := by
  rcases h with ⟨rfl, rfl, rfl⟩ | ⟨rfl, rfl, rfl⟩ | ⟨rfl, rfl, rfl⟩ <;>
    rw [value, List.cons_append, skipSpace_cons rfl] <;>
    simp [word]

/-- An array is read by its items. -/
theorem value_items {c : Char} (hspace : isSpace c = false) (hclose : c ≠ ']') (cs : List Char)
    (n : Nat) :
    value (n + 1) ('[' :: c :: cs) = (.array (items n (c :: cs)).1, (items n (c :: cs)).2) := by
  rw [value, skipSpace_cons rfl]
  simp only [Char.reduceEq, if_false, if_true, skipSpace_cons hspace]
  split
  · next heq => exact absurd (List.cons.inj heq).1 hclose
  · rfl

/-- An object is read by its fields. -/
theorem value_fields {cs rest : List Char} {fs : List (String × Json)} {n : Nat}
    (h : fields n ('"' :: cs) = (some fs, rest)) :
    value (n + 1) ('\x7b' :: '"' :: cs) = (.object fs, rest) := by
  rw [value, skipSpace_cons rfl]
  simp only [Char.reduceEq, if_false, if_true, skipSpace_cons (c := '"') rfl, h]
  split
  · next heq => exact absurd (List.cons.inj heq).1 (by decide)
  · rfl

/-- What follows an item is a comma with further items, or the end. -/
theorem delimited_items (js : List Json) (rest : List Char) :
    Delimited (compactItems js ++ ']' :: rest) := by
  cases js with
  | nil => exact .inr (.inl rfl)
  | cons j js => exact .inl rfl

theorem delimited_fields (fs : List (String × Json)) (rest : List Char) :
    Delimited (compactFields fs ++ '\x7d' :: rest) := by
  cases fs with
  | nil => exact .inr (.inr rfl)
  | cons f fs => exact .inl rfl

/-- Within a bound, plain values are read back from their texts, which may be followed by more. -/
structure ReadsBack (n : Nat) : Prop where
  value : ∀ (j : Json) (rest : List Char), j.isPlain = true → 2 * (compact j).length ≤ n →
    Delimited rest → value n (compact j ++ rest) = (j, rest)
  items : ∀ (j : Json) (js : List Json) (rest : List Char), plainItems (j :: js) = true →
    2 * (compact j ++ compactItems js).length < n →
      items n (compact j ++ (compactItems js ++ ']' :: rest)) = (j :: js, rest)
  fields : ∀ (k : String) (j : Json) (fs : List (String × Json)) (rest : List Char),
    plainFields ((k, j) :: fs) = true → 2 * (compact j ++ compactFields fs).length < n →
      fields n (quote k ++ ':' :: (compact j ++ (compactFields fs ++ '\x7d' :: rest))) =
        (some ((k, j) :: fs), rest)

namespace ReadsBack

variable {n : Nat} (ih : ReadsBack n)

include ih

theorem value_succ {j : Json} {rest : List Char} (h : j.isPlain = true)
    (hn : 2 * (compact j).length ≤ n + 1) (hrest : Delimited rest) :
    Json.value (n + 1) (compact j ++ rest) = (j, rest) := by
  match j with
  | .null => exact value_word n rest (.inl ⟨rfl, rfl, rfl⟩)
  | .bool true => exact value_word n rest (.inr (.inl ⟨rfl, rfl, rfl⟩))
  | .bool false => exact value_word n rest (.inr (.inr ⟨rfl, rfl, rfl⟩))
  | .natural m => exact value_digits m n hrest
  | .string s => exact value_quote s n rest
  | .array [] => rfl
  | .array (j :: js) =>
    obtain ⟨d, ds, hd, hspace, hclose⟩ := compact_head (Bool.and_eq_true_iff.1 h).1
    have hlength : 2 * (compact j ++ compactItems js).length < n := by
      simp only [compact, List.length_cons, List.length_append, List.length_nil] at hn ⊢
      omega
    have hread := ih.items j js rest h hlength
    have htext : compact (.array (j :: js)) ++ rest =
        '[' :: (compact j ++ (compactItems js ++ ']' :: rest)) := by
      simp [compact]
    rw [htext]
    rw [hd, List.cons_append] at hread ⊢
    rw [value_items hspace hclose, hread]
  | .object [] => rfl
  | .object ((k, j) :: fs) =>
    have hlength : 2 * (compact j ++ compactFields fs).length < n := by
      simp only [compact, List.length_cons, List.length_append, List.length_nil] at hn ⊢
      omega
    have htext : compact (.object ((k, j) :: fs)) ++ rest =
        '\x7b' :: (quote k ++ ':' :: (compact j ++ (compactFields fs ++ '\x7d' :: rest))) := by
      simp [compact]
    rw [htext]
    exact value_fields (ih.fields k j fs rest h hlength)

theorem items_succ {j : Json} {js : List Json} {rest : List Char}
    (h : plainItems (j :: js) = true)
    (hn : 2 * (compact j ++ compactItems js).length < n + 1) :
    Json.items (n + 1) (compact j ++ (compactItems js ++ ']' :: rest)) = (j :: js, rest) := by
  obtain ⟨hj, hjs⟩ := Bool.and_eq_true_iff.1 h
  rw [List.length_append] at hn
  rw [Json.items, ih.value j _ hj (by omega) (delimited_items js rest)]
  cases js with
  | nil => rfl
  | cons j' js =>
    have htext : compactItems (j' :: js) ++ ']' :: rest =
        ',' :: (compact j' ++ (compactItems js ++ ']' :: rest)) := by
      simp [compactItems]
    have hlength : 2 * (compact j' ++ compactItems js).length < n := by
      simp only [compactItems, List.length_cons] at hn
      omega
    simp only [htext, skipSpace_cons (c := ',') rfl, ih.items j' js rest hjs hlength]

theorem fields_succ {k : String} {j : Json} {fs : List (String × Json)} {rest : List Char}
    (h : plainFields ((k, j) :: fs) = true)
    (hn : 2 * (compact j ++ compactFields fs).length < n + 1) :
    Json.fields (n + 1) (quote k ++ ':' :: (compact j ++ (compactFields fs ++ '\x7d' :: rest))) =
      (some ((k, j) :: fs), rest) := by
  obtain ⟨hj, hfs⟩ := Bool.and_eq_true_iff.1 h
  rw [List.length_append] at hn
  obtain ⟨ps, hps, htext⟩ := pieces?_quote k.toList
    (':' :: (compact j ++ (compactFields fs ++ '\x7d' :: rest)))
  rw [quote_append, Json.fields, skipSpace_cons rfl]
  simp only [hps, htext, skipSpace_cons (c := ':') rfl, String.ofList_toList,
    ih.value j _ hj (by omega) (delimited_fields fs rest)]
  cases fs with
  | nil => rfl
  | cons field fs =>
    obtain ⟨k', j'⟩ := field
    have hmore : compactFields ((k', j') :: fs) ++ '\x7d' :: rest =
        ',' :: (quote k' ++ ':' :: (compact j' ++ (compactFields fs ++ '\x7d' :: rest))) := by
      simp [compactFields]
    have hlength : 2 * (compact j' ++ compactFields fs).length < n := by
      simp only [compactFields, List.length_cons, List.length_append] at hn ⊢
      omega
    simp only [hmore, skipSpace_cons (c := ',') rfl, ih.fields k' j' fs rest hfs hlength]

end ReadsBack

theorem readsBack (n : Nat) : ReadsBack n := by
  induction n with
  | zero =>
    refine ⟨fun j rest h hn _ => ?_, fun _ _ _ _ hn => absurd hn (Nat.not_lt_zero _),
      fun _ _ _ _ _ hn => absurd hn (Nat.not_lt_zero _)⟩
    obtain ⟨c, cs, hc, -, -⟩ := compact_head h
    rw [hc, List.length_cons] at hn
    omega
  | succ n ih =>
    exact ⟨fun _ _ h hn hrest => ih.value_succ h hn hrest, fun _ _ _ h hn => ih.items_succ h hn,
      fun _ _ _ _ h hn => ih.fields_succ h hn⟩

/-- Reading what was printed gives the value, with nothing left over. -/
theorem read_print {j : Json} (h : j.isPlain = true) : read (print j) = (j, true) := by
  have hvalue := (readsBack (2 * (compact j).length + 1)).value j [] h (by omega) trivial
  rw [List.append_nil] at hvalue
  rw [read, print, String.toList_ofList, hvalue]
  rfl

theorem parse?_print {j : Json} (h : j.isPlain = true) (hwhole : j.isWhole = true) :
    parse? (print j) = some j := by
  rw [parse?, read_print h]
  exact if_pos hwhole

/-- A type reads its text as it reads its JSON form. -/
theorem decodeText_encodeText {α : Type} [Wire α] {a : α} (h : (encode a).isPlain = true) :
    decodeText α (encodeText a) = decode (encode a) := by
  rw [decodeText, encodeText, read_print h]
  cases hdecode : (decode (encode a) : Except DecodeError α) <;> simp only [hdecode] <;> rfl

/-- Texts are sent as bytes. -/
theorem fromUTF8?_toUTF8 (s : String) : String.fromUTF8? s.toUTF8 = some s := by
  rw [String.fromUTF8?, String.toUTF8_eq_toByteArray, dif_pos s.isValidUTF8]
  rfl

end BrokerControl.Json
