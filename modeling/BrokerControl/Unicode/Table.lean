import BrokerControl.Text.Hex
import BrokerControl.Text.Split

/-!
# Tables of code points

Properties of characters are kept as text. An entry is a code point in hexadecimal or a run of them,
given by its ends. In a run with `-` between the ends every code point counts, in one with `+` every
other. After `>` an entry may give what belongs to its code points, in hexadecimal between dots.
White space stands between entries.
-/

namespace BrokerControl.Unicode

structure Entry where
  first : Nat
  last : Nat
  /-- How far apart the code points of the run are. -/
  step : Nat
  /-- What belongs to the first. -/
  values : List Nat
  deriving DecidableEq

namespace Entry

def covers (e : Entry) (n : Nat) : Bool :=
  e.first ≤ n && n ≤ e.last && (n - e.first) % e.step == 0

/-- What belongs to a code point of the run if it goes up along with the run. -/
def valuesAt (e : Entry) (n : Nat) : List Nat := e.values.map (· + (n - e.first))

def numeral (digits : List Char) : Nat :=
  digits.foldl (fun n d => 16 * n + (Text.hexValue? d).getD 0) 0

/-- Reads a code point or a run. -/
def ofRun (cs : List Char) : Entry :=
  match Text.cut? '-' cs, Text.cut? '+' cs with
  | some (a, b), _ => ⟨numeral a, numeral b, 1, []⟩
  | none, some (a, b) => ⟨numeral a, numeral b, 2, []⟩
  | none, none => ⟨numeral cs, numeral cs, 1, []⟩

def ofText (cs : List Char) : Entry :=
  match Text.cut? '>' cs with
  | some (run, values) => { ofRun run with values := (Text.pieces '.' values).map numeral }
  | none => ofRun cs

end Entry

abbrev Table := List Entry

namespace Table

/-- The stretches of a text without white space. -/
def words (text : String) : List (List Char) :=
  let (word, rest) := text.toList.foldr
    (fun c (word, rest) => if c.isWhitespace then ([], word :: rest) else (c :: word, rest))
    (([], []) : List Char × List (List Char))
  (word :: rest).filter (· ≠ [])

def ofText (text : String) : Table := (words text).map Entry.ofText

def entry? (t : Table) (n : Nat) : Option Entry := t.find? (·.covers n)

def contains (t : Table) (n : Nat) : Bool := t.any (·.covers n)

end Table

end BrokerControl.Unicode
