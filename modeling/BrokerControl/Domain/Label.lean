import BrokerControl.Unicode.CombiningClass
import BrokerControl.Unicode.Direction
import BrokerControl.Unicode.Joining
import BrokerControl.Unicode.Mark

/-!
# Labels

What a label of a domain name must be like beyond the characters that it may hold: it does not begin
with a mark, a joiner has something to join, and no text from right to left can be taken for another
one, as RFC 5893 has it.
-/

namespace BrokerControl.Domain.Label

open Unicode

/-! ## Joiners -/

def nonJoiner : Nat := 0x200C

def joiner : Nat := 0x200D

/-- Whether the next letter passes a test. -/
def nextLetter (test : Nat → Bool) (points : List Nat) : Bool :=
  (points.find? fun n => !transparent.contains n).any test

/-- Whether a joiner may stand between two stretches, the first of them back to front. It follows a
virama, or it keeps two letters apart that would join. -/
def mayJoin (n : Nat) (before after : List Nat) : Bool :=
  before.head?.any (combiningClass · == virama) ||
    (n == nonJoiner && nextLetter joinsLeft before && nextLetter joinsRight after)

/-- Whether all joiners may stand where they do, after what stands before, back to front. -/
def joinersFit (before : List Nat) : List Nat → Bool
  | [] => true
  | n :: after =>
    ((n != nonJoiner && n != joiner) || mayJoin n before after) && joinersFit (n :: before) after

def isWellFormed (label : List Nat) : Bool :=
  !label.head?.any isMark && joinersFit [] label

/-! ## Direction -/

/-- Whether there is text from right to left. -/
def isBidirectional (label : List Nat) : Bool :=
  label.any fun n => direction n == .right || direction n == .arabicNumber

/-- Whether a label keeps to its direction: it begins with a letter of it, ends with such a letter
or a number, and holds nothing of the other one nor numbers of both kinds. -/
def keepsDirection (label : List Nat) : Bool :=
  let all := label.map direction
  let last := (all.reverse.find? (· != .nonspacing))
  match all.head? with
  | none => true
  | some .left =>
    all.all (fun d => d != .right && d != .arabicNumber) &&
      last.any fun d => d == .left || d == .europeanNumber
  | some .right =>
    all.all (· != .left) && last.any (· != .neutral) &&
      !(all.contains .arabicNumber && all.contains .europeanNumber)
  | some _ => false

end BrokerControl.Domain.Label
