import BrokerControl.Unicode.CombiningClass
import BrokerControl.Unicode.Decomposition

/-!
# Normalization form C

A text is taken apart, marks are put in the order of their classes, and what can be is put together
again.
-/

namespace BrokerControl.Unicode

/-- No decomposition is nested further. -/
def decompositionDepth : Nat := 4

/-- Puts a code point in front of those before it, the latest first, or behind the marks of higher
classes among them. -/
def place (n : Nat) : List Nat → List Nat
  | [] => [n]
  | m :: ms =>
    if combiningClass n ≠ 0 ∧ combiningClass n < combiningClass m then m :: place n ms
    else n :: m :: ms

/-- The parts of all characters, marks in order. -/
def decomposed (points : List Nat) : List Nat :=
  ((points.flatMap (decompose decompositionDepth)).foldl (fun done n => place n done) []).reverse

/-- A text that is being put together, the latest code points first. -/
structure Composing where
  finished : List Nat := []
  /-- The last character that others combine with. -/
  starter : Option Nat := none
  /-- The marks after it that stay. -/
  marks : List Nat := []

namespace Composing

def points (c : Composing) : List Nat := c.marks ++ (c.starter.toList ++ c.finished)

/-- Adds a code point, which combines with the last starter unless a mark of its own class or a
higher one stands between. -/
def add (c : Composing) (n : Nat) : Composing :=
  let isBlocked := c.marks.head?.any fun m => combiningClass n ≤ combiningClass m
  match if isBlocked then none else c.starter.bind (compose? · n) with
  | some whole => { c with starter := some whole }
  | none =>
    if combiningClass n = 0 then { finished := c.points, starter := some n }
    else { c with marks := n :: c.marks }

end Composing

/-- The text in normalization form C. -/
def composed (points : List Nat) : List Nat :=
  ((decomposed points).foldl Composing.add {}).points.reverse

end BrokerControl.Unicode
