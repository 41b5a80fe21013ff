import BrokerControl.Text.Percent
import Mathlib.Data.List.Basic

/-! # Percent-encoding is undone by reading

An encoding that does not keep the percent sign is read back to the text it was made from, and has
nothing in it but the characters that are kept, percent signs and digits. Where only ASCII
characters are kept it is made of the bytes of the text one by one. -/

namespace BrokerControl.Text.Percent

variable {keep : Char → Bool}

/-! ## Reading back -/

theorem bytes_escape_append (b : UInt8) (rest : List Char) :
    bytes (escape b ++ rest) = b :: bytes rest := by
  obtain ⟨hi, lo⟩ := nibbles_lt b
  have hescape : escape b ++ rest =
      '%' :: hexDigitUpper (b.toNat / 16) :: hexDigitUpper (b.toNat % 16) :: rest := rfl
  rw [hescape, bytes, hexValue?_hexDigitUpper hi, hexValue?_hexDigitUpper lo]
  exact congrArg (· :: bytes rest) (ofNat_nibbles b)

theorem bytes_flatMap_escape_append (bs : List UInt8) (rest : List Char) :
    bytes (bs.flatMap escape ++ rest) = bs ++ bytes rest := by
  induction bs with
  | nil => rfl
  | cons b bs ih => rw [List.flatMap_cons, List.append_assoc, bytes_escape_append, ih]; rfl

theorem bytes_cons_of_ne {c : Char} (h : c ≠ '%') (rest : List Char) :
    bytes (c :: rest) = String.utf8EncodeChar c ++ bytes rest := by
  rw [bytes]
  rintro a b cs rfl
  exact absurd rfl h

/-- A character stands for its own bytes, written as itself or as digits. -/
theorem bytes_encodeChar_append (hkeep : keep '%' = false) (c : Char) (rest : List Char) :
    bytes (encodeChar keep c ++ rest) = String.utf8EncodeChar c ++ bytes rest := by
  unfold encodeChar
  split
  · next hc =>
    refine bytes_cons_of_ne ?_ rest
    rintro rfl
    exact absurd hc (by simp [hkeep])
  · exact bytes_flatMap_escape_append _ rest

theorem bytes_encodeChars (hkeep : keep '%' = false) (cs : List Char) :
    bytes (encodeChars keep cs) = cs.flatMap String.utf8EncodeChar := by
  induction cs with
  | nil => rfl
  | cons c cs ih =>
    have hcons : encodeChars keep (c :: cs) = encodeChar keep c ++ encodeChars keep cs := rfl
    rw [hcons, bytes_encodeChar_append hkeep, ih]
    rfl

/-- Reading gives the text back, whatever is kept besides. -/
theorem decode?_encode (hkeep : keep '%' = false) (s : String) :
    decode? (encode keep s) = some s := by
  have hbytes : ⟨(s.toList.flatMap String.utf8EncodeChar).toArray⟩ = s.toByteArray := by
    rw [← String.utf8Encode_toList]
    exact ByteArray.ext List.data_toByteArray.symm
  rw [decode?, encode, String.toList_ofList, bytes_encodeChars hkeep, hbytes, String.fromUTF8?,
    dif_pos s.isValidUTF8]
  rfl

/-! ## Characters of an encoding -/

theorem of_mem_escape {b : UInt8} {c : Char} (h : c ∈ escape b) :
    c = '%' ∨ ∃ n : Fin 16, c = hexDigitUpper n := by
  obtain ⟨hi, lo⟩ := nibbles_lt b
  simp only [escape, List.mem_cons, List.not_mem_nil, or_false] at h
  rcases h with rfl | rfl | rfl
  · exact .inl rfl
  · exact .inr ⟨⟨_, hi⟩, rfl⟩
  · exact .inr ⟨⟨_, lo⟩, rfl⟩

theorem of_mem_encode {c : Char} {s : String} (h : c ∈ (encode keep s).toList) :
    keep c ∨ c = '%' ∨ ∃ n : Fin 16, c = hexDigitUpper n := by
  rw [encode, String.toList_ofList, encodeChars, List.mem_flatMap] at h
  obtain ⟨d, -, hc⟩ := h
  unfold encodeChar at hc
  split at hc
  · next hd =>
    obtain rfl := List.mem_singleton.1 hc
    exact .inl hd
  · obtain ⟨b, -, hc⟩ := List.mem_flatMap.1 hc
    exact .inr (of_mem_escape hc)

/-! ## Byte by byte -/

/-- One byte of a text: the character with its number if that is kept, and otherwise its escape. -/
def encodeByte (keep : Char → Bool) (b : UInt8) : List Char :=
  if keep (.ofUInt8 b) then [.ofUInt8 b] else escape b

theorem toNat_ofUInt8 (b : UInt8) : (Char.ofUInt8 b).toNat = b.toNat := UInt8.toNat_toUInt32 b

theorem utf8EncodeChar_of_ascii {c : Char} (h : c.toNat < 128) :
    ∃ b, String.utf8EncodeChar c = [b] ∧ Char.ofUInt8 b = c := by
  have hv : c.val.toNat = c.toNat := rfl
  refine ⟨.ofNat c.toNat, ?_, ?_⟩
  · rw [String.utf8EncodeChar, if_pos (by omega), hv]
  · rw [← Char.toNat_inj, toNat_ofUInt8, UInt8.toNat_ofNat']
    omega

/-- Beyond ASCII no byte has the number of an ASCII character. -/
theorem le_toNat_of_mem_utf8EncodeChar {c : Char} (h : 128 ≤ c.toNat) {b : UInt8}
    (hb : b ∈ String.utf8EncodeChar c) : 128 ≤ b.toNat := by
  have hv : c.val.toNat = c.toNat := rfl
  unfold String.utf8EncodeChar at hb
  rw [if_neg (by omega)] at hb
  split at hb
  · simp only [List.mem_cons, List.not_mem_nil, or_false] at hb
    rcases hb with rfl | rfl <;> rw [UInt8.toNat_ofNat'] <;> omega
  · split at hb <;> simp only [List.mem_cons, List.not_mem_nil, or_false] at hb
    · rcases hb with rfl | rfl | rfl <;> rw [UInt8.toNat_ofNat'] <;> omega
    · rcases hb with rfl | rfl | rfl | rfl <;> rw [UInt8.toNat_ofNat'] <;> omega

theorem encodeChar_eq_flatMap (hascii : ∀ c, keep c → c.toNat < 128) (c : Char) :
    encodeChar keep c = (String.utf8EncodeChar c).flatMap (encodeByte keep) := by
  by_cases hc : c.toNat < 128
  · obtain ⟨b, hbytes, rfl⟩ := utf8EncodeChar_of_ascii hc
    simp only [encodeChar, hbytes, encodeByte, List.flatMap_singleton]
  · rw [encodeChar, if_neg fun h => hc (hascii c h)]
    refine List.flatMap_congr fun b hb => ?_
    have hb : 128 ≤ b.toNat := le_toNat_of_mem_utf8EncodeChar (by omega) hb
    have hkeep : ¬ keep (.ofUInt8 b) := by
      intro h
      have := hascii _ h
      rw [toNat_ofUInt8] at this
      omega
    rw [encodeByte, if_neg hkeep]

theorem toList_encode (hascii : ∀ c, keep c → c.toNat < 128) (s : String) :
    (encode keep s).toList = s.toUTF8.data.toList.flatMap (encodeByte keep) := by
  have hbytes : s.toUTF8.data.toList = s.toList.flatMap String.utf8EncodeChar := by
    rw [String.toUTF8_eq_toByteArray, ← String.utf8Encode_toList]
    exact List.toList_data_toByteArray
  rw [encode, String.toList_ofList, encodeChars, hbytes, List.flatMap_assoc]
  exact List.flatMap_congr fun c _ => encodeChar_eq_flatMap hascii c

/-! ## Bounds of classes -/

theorem toNat_of_isAsciiAlphanumeric {c : Char} (h : isAsciiAlphanumeric c) :
    '0'.toNat ≤ c.toNat ∧ c.toNat ≤ 'z'.toNat := by
  simp only [isAsciiAlphanumeric, Bool.or_eq_true, Bool.and_eq_true, decide_eq_true_eq,
    Char.le_def, UInt32.le_iff_toNat_le] at h
  rcases h with (hrange | hrange) | hrange <;>
    exact ⟨Nat.le_trans (by decide) hrange.1, Nat.le_trans hrange.2 (by decide)⟩

theorem toNat_of_isUnreserved {c : Char} (h : isUnreserved c) : c.toNat ≤ '~'.toNat := by
  simp only [isUnreserved, Bool.or_eq_true, beq_iff_eq] at h
  rcases h with (((halpha | rfl) | rfl) | rfl) | rfl
  · exact Nat.le_trans (toNat_of_isAsciiAlphanumeric halpha).2 (by decide)
  all_goals decide

end BrokerControl.Text.Percent
