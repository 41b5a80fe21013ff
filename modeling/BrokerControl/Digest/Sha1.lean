import BrokerControl.Text.Hex

/-!
# SHA-1

The Secure Hash Standard's 160-bit digest of a byte string.
-/

namespace BrokerControl.Digest

/-- The message, a one bit, zero bits, and the message's length in bits as 64 bits: a whole number
of 64-byte blocks. -/
def padded (message : List UInt8) : List UInt8 :=
  let bits := message.length * 8
  let zeros := (119 - message.length % 64) % 64
  let size : List UInt8 := (List.range 8).map fun i => .ofNat (bits >>> (8 * (7 - i)))
  message ++ 0x80 :: List.replicate zeros 0 ++ size

/-- Four bytes, most significant first. -/
def bigEndian32 (a b c d : UInt8) : UInt32 :=
  a.toUInt32 <<< 24 ||| b.toUInt32 <<< 16 ||| c.toUInt32 <<< 8 ||| d.toUInt32

def words : List UInt8 → List UInt32
  | a :: b :: c :: d :: rest => bigEndian32 a b c d :: words rest
  | _ => []

def bytesOfWord (w : UInt32) : List UInt8 :=
  [(w >>> 24).toUInt8, (w >>> 16).toUInt8, (w >>> 8).toUInt8, w.toUInt8]

def rotateLeft (x n : UInt32) : UInt32 := x <<< n ||| x >>> (32 - n)

def rotateRight (x n : UInt32) : UInt32 := x >>> n ||| x <<< (32 - n)

/-- Consecutive groups of sixteen words, at most `n` of them. -/
def blocks : Nat → List UInt32 → List (List UInt32)
  | 0, _ => []
  | n + 1, ws => if ws.isEmpty then [] else ws.take 16 :: blocks n (ws.drop 16)

/-- The first `n` words of a schedule whose next word is computed from the sixteen before it. -/
def schedule (next : List UInt32 → UInt32) : Nat → List UInt32 → List UInt32
  | 0, _ => []
  | n + 1, window => window.headD 0 :: schedule next n (window.tail ++ [next window])

namespace Sha1

structure State where
  a : UInt32
  b : UInt32
  c : UInt32
  d : UInt32
  e : UInt32

def initial : State := ⟨0x67452301, 0xEFCDAB89, 0x98BADCFE, 0x10325476, 0xC3D2E1F0⟩

def nextWord (w : List UInt32) : UInt32 :=
  rotateLeft (w.getD 13 0 ^^^ w.getD 8 0 ^^^ w.getD 2 0 ^^^ w.getD 0 0) 1

/-- The round function and its constant. -/
def mix (t : Nat) (s : State) : UInt32 × UInt32 :=
  if t < 20 then ((s.b &&& s.c) ||| (~~~s.b &&& s.d), 0x5A827999)
  else if t < 40 then (s.b ^^^ s.c ^^^ s.d, 0x6ED9EBA1)
  else if t < 60 then ((s.b &&& s.c) ||| (s.b &&& s.d) ||| (s.c &&& s.d), 0x8F1BBCDC)
  else (s.b ^^^ s.c ^^^ s.d, 0xCA62C1D6)

def round (s : State) (step : UInt32 × Nat) : State :=
  let (w, t) := step
  let (f, k) := mix t s
  ⟨rotateLeft s.a 5 + f + s.e + k + w, s.a, rotateLeft s.b 30, s.c, s.d⟩

def compress (s : State) (block : List UInt32) : State :=
  let r := ((schedule nextWord 80 block).zipIdx).foldl round s
  ⟨s.a + r.a, s.b + r.b, s.c + r.c, s.d + r.d, s.e + r.e⟩

def digest (message : List UInt8) : List UInt8 :=
  let ws := words (padded message)
  let s := (blocks ws.length ws).foldl compress initial
  [s.a, s.b, s.c, s.d, s.e].flatMap bytesOfWord

end Sha1

/-- The SHA-1 of a text's UTF-8 bytes, in lower-case hexadecimal. -/
def sha1Hex (s : String) : String := Text.hexBytes (Sha1.digest s.toUTF8.toList)

/-- A character that is no hexadecimal digit is in no digest. -/
theorem notMem_sha1Hex {c : Char} (hc : ∀ n : Fin 16, c ≠ Text.hexDigit n) (s : String) :
    c ∉ (sha1Hex s).toList := by
  intro h
  obtain ⟨n, hn⟩ := Text.exists_of_mem_hexBytes h
  exact hc n hn

end BrokerControl.Digest
