import BrokerControl.Text.Hex

/-!
# Reading natural numbers

A number below a bound, as digits after an optional plus sign. It is read from the left, and the
first fault met is the one reported.
-/

namespace BrokerControl.Text

inductive IntegerFault where
  | empty
  | invalidDigit
  | tooLarge
  deriving DecidableEq

def IntegerFault.message : IntegerFault → String
  | .empty => "cannot parse integer from empty string"
  | .invalidDigit => "invalid digit found in string"
  | .tooLarge => "number too large to fit in target type"

/-- Takes up one more digit. -/
def pushDigit (radix bound n : Nat) (c : Char) : Except IntegerFault Nat :=
  match hexValue? c with
  | some d =>
    if radix ≤ d then .error .invalidDigit
    else if radix * n + d < bound then .ok (radix * n + d)
    else .error .tooLarge
  | none => .error .invalidDigit

def digitsBelow (radix bound : Nat) (digits : List Char) : Except IntegerFault Nat :=
  digits.foldlM (pushDigit radix bound) 0

def naturalBelow (radix bound : Nat) (text : List Char) : Except IntegerFault Nat :=
  match text with
  | [] => .error .empty
  | ['+'] => .error .invalidDigit
  | '+' :: digits => digitsBelow radix bound digits
  | digits => digitsBelow radix bound digits

end BrokerControl.Text
