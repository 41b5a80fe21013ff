/-!
# Punycode

Labels of domain names in ASCII, as RFC 3492 has it. The characters of ASCII come first, then a
hyphen, then numbers that say which other characters are inserted where. A number is written in
digits of base 36, the lowest first, each below a threshold if it is the last.
-/

namespace BrokerControl.Domain.Punycode

def isBasic (c : Char) : Bool := c.toNat < 0x80

/-! ## Digits -/

def digit? (c : Char) : Option Nat :=
  if 'a' ≤ c ∧ c ≤ 'z' then some (c.toNat - 'a'.toNat)
  else if 'A' ≤ c ∧ c ≤ 'Z' then some (c.toNat - 'A'.toNat)
  else if '0' ≤ c ∧ c ≤ '9' then some (c.toNat - '0'.toNat + 26)
  else none

def ofDigit (d : Nat) : Char := Char.ofNat (if d < 26 then 'a'.toNat + d else '0'.toNat + d - 26)

/-- The threshold at the place whose number is a multiple of the base. -/
def threshold (place bias : Nat) : Nat := max 1 (min 26 (place - bias))

theorem threshold_pos (place bias : Nat) : 0 < threshold place bias := by
  unfold threshold
  omega

/-- The bias for a step that is likely to be as long as the one before, and its place. -/
def biasFrom (delta place : Nat) : Nat :=
  if 455 < delta then biasFrom (delta / 35) (place + 36) else place + 36 * delta / (delta + 38)
termination_by delta

/-- The bias after a step, given how many characters there are now. -/
def adapt (delta count : Nat) (isFirst : Bool) : Nat :=
  let damped := if isFirst then delta / 700 else delta / 2
  biasFrom (damped + damped / count) 0

def firstPoint : Nat := 0x80

def firstBias : Nat := 72

/-! ## Decoding -/

/-- A label in the making. -/
structure Decoder where
  output : List Char
  /-- The code point of the last insertion. -/
  point : Nat := firstPoint
  /-- The place of the next insertion, as far as its number has been read. -/
  position : Nat := 0
  /-- The place where its number began. -/
  origin : Nat := 0
  bias : Nat := firstBias
  /-- The place of the next digit and its weight. -/
  place : Nat := 36
  weight : Nat := 1

namespace Decoder

/-- Puts in the character whose number has been read. -/
def insert (d : Decoder) : Option Decoder := do
  let count := d.output.length + 1
  let point := d.point + d.position / count
  let position := d.position % count
  guard (point < 0xD800 || (0xDFFF < point && point < 0x110000))
  return {
    output := d.output.insertIdx position (Char.ofNat point)
    point
    position := position + 1
    origin := position + 1
    bias := adapt (d.position - d.origin) count (d.origin == 0) }

/-- Takes one more digit. Numbers have 32 bits. -/
def add (d : Decoder) (c : Char) : Option Decoder := do
  let n ← digit? c
  let t := threshold d.place d.bias
  let d' := { d with position := d.position + n * d.weight }
  guard (d'.position < UInt32.size)
  if n < t then d'.insert
  else
    guard (d.weight * (36 - t) < UInt32.size)
    return { d' with place := d.place + 36, weight := d.weight * (36 - t) }

end Decoder

/-- What stands before and after the last hyphen. A hyphen with nothing before it is none. -/
def cut (cs : List Char) : List Char × List Char :=
  match cs.reverse.span (· != '-') with
  | (after, _ :: c :: before) => ((c :: before).reverse, after.reverse)
  | _ => ([], cs)

/-- The label that was encoded. -/
def decode? (cs : List Char) : Option (List Char) := do
  let (basic, digits) := cut cs
  guard (basic.all isBasic)
  let d ← digits.foldlM Decoder.add { output := basic }
  guard (d.place == 36)
  return d.output

/-! ## Encoding -/

/-- The digits of a number from some place on. -/
def digits (bias place n : Nat) : List Char :=
  let t := threshold place bias
  if n < t then [ofDigit n]
  else ofDigit (t + (n - t) % (36 - t)) :: digits bias (place + 36) ((n - t) / (36 - t))
termination_by n
decreasing_by
  have := threshold_pos place bias
  have : (n - threshold place bias) / (36 - threshold place bias) ≤ n - threshold place bias :=
    Nat.div_le_self _ _
  omega

structure Encoder where
  /-- The digits, after the characters of ASCII. -/
  output : List Char := []
  /-- The least code point that is still to come. -/
  point : Nat := firstPoint
  delta : Nat := 0
  bias : Nat := firstBias
  /-- How many characters have been encoded, and how many of them are of ASCII. -/
  count : Nat
  basic : Nat

namespace Encoder

/-- Passes one character on the way to those of a code point. -/
def pass (n : Nat) (e : Encoder) (c : Char) : Encoder :=
  if c.toNat < n then { e with delta := e.delta + 1 }
  else if c.toNat = n then { e with
    output := e.output ++ digits e.bias 36 e.delta
    delta := 0
    bias := adapt e.delta (e.count + 1) (e.count == e.basic)
    count := e.count + 1 }
  else e

/-- Encodes all characters of a code point. -/
def add (label : List Char) (e : Encoder) (n : Nat) : Encoder :=
  let e := label.foldl (pass n) { e with delta := e.delta + (n - e.point) * (e.count + 1) }
  { e with delta := e.delta + 1, point := n + 1 }

end Encoder

def encode (label : List Char) : List Char :=
  let (basic, others) := label.partition isBasic
  let points := (others.map Char.toNat).mergeSort.eraseDups
  let e := points.foldl (Encoder.add label) { count := basic.length, basic := basic.length }
  (if basic = [] then [] else basic ++ ['-']) ++ e.output

end BrokerControl.Domain.Punycode
