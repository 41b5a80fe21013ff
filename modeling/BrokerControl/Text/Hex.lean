/-!
# Hexadecimal digits
-/

namespace BrokerControl.Text

/-- The sixteen digits in lower case. -/
def hexDigit (n : Nat) : Char :=
  if n < 10 then Char.ofNat (48 + n) else Char.ofNat (87 + n)

/-- The sixteen digits in upper case. -/
def hexDigitUpper (n : Nat) : Char :=
  if n < 10 then Char.ofNat (48 + n) else Char.ofNat (55 + n)

/-- The value of a digit in either case. -/
def hexValue? (c : Char) : Option Nat :=
  let n := c.toNat
  if 48 ≤ n ∧ n ≤ 57 then some (n - 48)
  else if 97 ≤ n ∧ n ≤ 102 then some (n - 87)
  else if 65 ≤ n ∧ n ≤ 70 then some (n - 55)
  else none

/-- A byte as two digits, lower case. -/
def hexByte (b : UInt8) : List Char := [hexDigit (b.toNat / 16), hexDigit (b.toNat % 16)]

def hexBytes (bs : List UInt8) : String := String.ofList (bs.flatMap hexByte)

/-- The bytes that pairs of digits stand for. -/
def bytesOfHex? : List Char → Option (List UInt8)
  | [] => some []
  | [_] => none
  | a :: b :: rest => do
    let hi ← hexValue? a
    let lo ← hexValue? b
    let bs ← bytesOfHex? rest
    return UInt8.ofNat (hi * 16 + lo) :: bs

theorem hexValue?_hexDigit {n : Nat} (h : n < 16) : hexValue? (hexDigit n) = some n := by
  have : ∀ m : Fin 16, hexValue? (hexDigit m) = some m.1 := by decide
  exact this ⟨n, h⟩

theorem hexValue?_hexDigitUpper {n : Nat} (h : n < 16) :
    hexValue? (hexDigitUpper n) = some n := by
  have : ∀ m : Fin 16, hexValue? (hexDigitUpper m) = some m.1 := by decide
  exact this ⟨n, h⟩

/-- A byte has two digits. -/
theorem nibbles_lt (b : UInt8) : b.toNat / 16 < 16 ∧ b.toNat % 16 < 16 := by
  have := b.toNat_lt
  omega

/-- Bytes are written in digits and nothing else. -/
theorem exists_of_mem_hexBytes {bs : List UInt8} {c : Char} (h : c ∈ (hexBytes bs).toList) :
    ∃ n : Fin 16, c = hexDigit n := by
  rw [hexBytes, String.toList_ofList, List.mem_flatMap] at h
  obtain ⟨b, -, hc⟩ := h
  obtain ⟨hi, lo⟩ := nibbles_lt b
  simp only [hexByte, List.mem_cons, List.not_mem_nil, or_false] at hc
  rcases hc with hc | hc
  · exact ⟨⟨b.toNat / 16, hi⟩, hc⟩
  · exact ⟨⟨b.toNat % 16, lo⟩, hc⟩

theorem ofNat_nibbles (b : UInt8) :
    UInt8.ofNat (b.toNat / 16 * 16 + b.toNat % 16) = b := by
  rw [Nat.mul_comm, Nat.div_add_mod]
  exact UInt8.ofNat_toNat

end BrokerControl.Text
