import BrokerControl.Json.Wire
import BrokerControl.Text.Blank
import BrokerControl.Time.Date

/-!
# Timestamps

A moment in UTC to the nanosecond. It is written as in RFC 3339, with the fewest groups of three
fraction digits that are exact. Reading is laxer than that standard: white space may stand between
the parts, months, days, hours, minutes and seconds may have one digit, a space or a small `t` may
stand for `T`, and the year may have a sign and then any number of digits. The offset from UTC must
be given; it is taken off on reading.
-/

namespace BrokerControl

structure Timestamp where
  date : Date
  /-- Minutes since midnight. -/
  minute : Nat
  /-- Seconds of the minute, 60 in a leap second. -/
  second : Nat
  nanosecond : Nat
  valid : minute < 1440 ∧ second ≤ 60 ∧ nanosecond < 1000000000
  deriving DecidableEq

namespace Timestamp

/-! ## Writing -/

/-- A number in decimal, with zeros in front up to a width. -/
def padded (width n : Nat) : String :=
  let digits := Nat.toDigits 10 n
  String.ofList (List.replicate (width - digits.length) '0' ++ digits)

/-- Four digits, and a sign in front when the year has no four-digit form. -/
def yearText (year : Int) : String :=
  if year < 0 then "-" ++ padded 4 year.natAbs
  else if year > 9999 then "+" ++ padded 4 year.natAbs
  else padded 4 year.natAbs

def fractionText (nanosecond : Nat) : String :=
  if nanosecond = 0 then ""
  else if nanosecond % 1000000 = 0 then "." ++ padded 3 (nanosecond / 1000000)
  else if nanosecond % 1000 = 0 then "." ++ padded 6 (nanosecond / 1000)
  else "." ++ padded 9 nanosecond

def text (t : Timestamp) : String :=
  yearText t.date.year ++ "-" ++ padded 2 t.date.month ++ "-" ++ padded 2 t.date.day ++ "T" ++
    padded 2 (t.minute / 60) ++ ":" ++ padded 2 (t.minute % 60) ++ ":" ++ padded 2 t.second ++
    fractionText t.nanosecond ++ "Z"

/-! ## Reading -/

/-- A reader takes its part off the front of the text. -/
abbrev Reader := StateT (List Char) Option

def blanks : Reader Unit := modify Text.trimStart

def isDigit (c : Char) : Bool := '0' ≤ c && c ≤ '9'

def value (digits : List Char) : Nat :=
  digits.foldl (fun n c => 10 * n + (c.toNat - '0'.toNat)) 0

/-- All digits in front, at least one. -/
def allDigits : Reader (List Char) := do
  let (ds, rest) := (← get).span isDigit
  guard !ds.isEmpty
  set rest
  return ds

/-- The digits in front, at least one and no more than a limit. -/
def digitsUpTo (limit : Nat) : Reader Nat := do
  let ds := ((← get).take limit).takeWhile isDigit
  guard !ds.isEmpty
  modify (·.drop ds.length)
  return value ds

/-- One character out of a few. -/
def oneOf (allowed : List Char) : Reader Char := do
  match ← get with
  | c :: rest =>
    guard (allowed.contains c)
    set rest
    return c
  | [] => failure

def optionalOneOf (allowed : List Char) : Reader (Option Char) := do
  match ← get with
  | c :: rest =>
    if allowed.contains c then
      set rest
      return some c
    else return none
  | [] => return none

def year : Reader Int := do
  blanks
  match ← optionalOneOf ['+', '-'] with
  | none => return (← digitsUpTo 4)
  | some sign =>
    let n := value (← allDigits)
    return if sign = '-' then -(n : Int) else n

/-- A number of one or two digits after white space. -/
def field : Reader Nat := do
  blanks
  digitsUpTo 2

/-- A mark after white space. -/
def mark (c : Char) : Reader Unit := do
  blanks
  discard (oneOf [c])

/-- The nanoseconds of a fraction, whose digits after the ninth count for nothing. -/
def fraction : Reader Nat := do
  match ← optionalOneOf ['.'] with
  | none => return 0
  | some _ =>
    let ds := (← allDigits).take 9
    return value (ds ++ List.replicate (9 - ds.length) '0')

def twoDigits : Reader Nat := do
  match ← get with
  | a :: b :: rest =>
    guard (isDigit a && isDigit b)
    set rest
    return value [a, b]
  | _ => failure

/-- The minutes that the clock is ahead of UTC. -/
def offset : Reader Int := do
  match ← get with
  | u :: t :: c :: rest =>
    if u.toUpper = 'U' ∧ t.toUpper = 'T' ∧ c.toUpper = 'C' then
      set rest
      return 0
  | _ => pure ()
  match ← oneOf ['Z', 'z', '+', '-', '−'] with
  | 'Z' | 'z' => return 0
  | sign =>
    let hours ← twoDigits
    modify (·.dropWhile fun c => c == ':' || Text.isWhiteSpace c)
    let minutes ← twoDigits
    guard (minutes < 60)
    let ahead := 60 * hours + minutes
    guard (ahead < 1440)
    return if sign = '+' then ahead else -(ahead : Int)

/-- The moment at which a clock some minutes ahead of UTC shows a date and time of day. -/
def ofLocal? (date : Date) (minute second nanosecond : Nat) (ahead : Int) : Option Timestamp := do
  let utc := (minute : Int) - ahead
  let date ← if utc < 0 then date.previous? else if utc ≥ 1440 then date.next? else some date
  let minute := (utc % 1440).toNat
  if h : minute < 1440 ∧ second ≤ 60 ∧ nanosecond < 1000000000 then
    return ⟨date, minute, second, nanosecond, h⟩
  else none

def timestamp : Reader Timestamp := do
  let y ← year
  mark '-'
  let mo ← field
  mark '-'
  let d ← field
  discard (oneOf ['t', 'T', ' '])
  let h ← field
  mark ':'
  let mi ← field
  mark ':'
  let s ← field
  let ns ← fraction
  blanks
  let ahead ← offset
  blanks
  guard (h < 24 && mi < 60 && (← get).isEmpty)
  let date ← Date.of? y mo d
  ofLocal? date (60 * h + mi) s ns ahead

def ofString? (s : String) : Option Timestamp := (timestamp.run s.toList).map Prod.fst

end Timestamp

instance : Json.Wire Timestamp where
  encode t := .string t.text
  decode
    | .string s => match Timestamp.ofString? s with
      | some t => .ok t
      | none => .error .mismatch
    | _ => .error .mismatch

end BrokerControl
