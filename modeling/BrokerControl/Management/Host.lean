import BrokerControl.Domain.Name
import BrokerControl.Text.Hex
import BrokerControl.Text.Percent
import BrokerControl.Text.Split

/-!
# Hosts of URLs

A host is a name or an address of version 4 or 6. A name whose last part is a number is an address
of version 4, whose parts may be decimal, octal or hexadecimal. An address of version 6 stands in
brackets.
-/

namespace BrokerControl.Management

inductive Host where
  | name (text : String)
  | version4 (address : Nat)
  | version6 (groups : List Nat)
  deriving DecidableEq

namespace Host

def number? (radix : Nat) (digits : List Char) : Option Nat :=
  digits.foldlM (fun n c => do
    let d ← Text.hexValue? c
    guard (d < radix)
    return radix * n + d) 0

/-! ## Version 4 -/

/-- A part of an address, in the base that its beginning tells. -/
def part? : List Char → Option Nat
  | [] => none
  | '0' :: 'x' :: digits | '0' :: 'X' :: digits => number? 16 digits
  | '0' :: d :: digits => number? 8 (d :: digits)
  | digits => number? 10 digits

/-- The parts of a name, without an empty one at the end. -/
def parts (cs : List Char) : List (List Char) :=
  let ps := Text.pieces '.' cs
  if ps.getLast? = some [] then ps.dropLast else ps

def endsInNumber (cs : List Char) : Bool :=
  match (parts cs).getLast? with
  | some p => !p.isEmpty && (p.all Char.isDigit || (part? p).isSome)
  | none => false

/-- The parts before the last are bytes, and the last fills what is left. -/
def version4? (cs : List Char) : Option Nat := do
  let numbers ← (parts cs).mapM part?
  let last ← numbers.getLast?
  let bytes := numbers.dropLast
  let bits := 8 * (4 - bytes.length)
  guard (bytes.length < 4 && bytes.all (· < 256) && last >>> bits == 0)
  return bytes.foldl (fun n b => 256 * n + b) 0 <<< bits + last

/-! ## Version 6 -/

/-- Up to four hexadecimal digits. -/
def group? (cs : List Char) : Option Nat := do
  guard (1 ≤ cs.length && cs.length ≤ 4)
  number? 16 cs

/-- A byte in decimal without zeros in front. -/
def byte? (cs : List Char) : Option Nat := do
  guard (!cs.isEmpty && (cs.length == 1 || cs.head? != some '0'))
  let n ← number? 10 cs
  guard (n < 256)
  return n

/-- Two groups written as four bytes. -/
def dotted? (cs : List Char) : Option (List Nat) :=
  match (Text.pieces '.' cs).mapM byte? with
  | some [a, b, c, d] => some [256 * a + b, 256 * c + d]
  | _ => none

/-- Groups between colons, the last of which may be written as bytes. -/
def groups? (cs : List Char) : Option (List Nat) :=
  if cs.isEmpty then some []
  else do
    let ps := Text.pieces ':' cs
    let front ← ps.dropLast.mapM group?
    let last ← ps.getLast?
    let back ← if last.contains '.' then dotted? last else (group? last).map ([·])
    return front ++ back

/-- What stands before and after the first double colon. -/
def gap? : List Char → Option (List Char × List Char)
  | ':' :: ':' :: rest => some ([], rest)
  | c :: cs => (gap? cs).map fun (a, b) => (c :: a, b)
  | [] => none

/-- Eight groups, of which zeros may be left out once. -/
def version6? (cs : List Char) : Option (List Nat) :=
  match gap? cs with
  | none => do
    let gs ← groups? cs
    guard (gs.length == 8)
    return gs
  | some (a, b) => do
    guard !(a.contains '.')
    let front ← groups? a
    let back ← groups? b
    guard (front.length + back.length < 8)
    return front ++ List.replicate (8 - front.length - back.length) 0 ++ back

/-! ## Names -/

/-- The characters that no name has. -/
def isForbidden (c : Char) : Bool :=
  c.toNat ≤ 0x20 || c == '\x7f' ||
    ['#', '%', '/', ':', '<', '>', '?', '@', '[', '\\', ']', '^', '|'].contains c

/-- The host of a scheme whose hosts are names of the domain system. -/
def domain? (text : String) : Option Host := do
  let name ← Domain.Name.ofText? isForbidden (← Text.Percent.decode? text)
  let cs := name.toList
  guard !cs.isEmpty
  if endsInNumber cs then return .version4 (← version4? cs)
  return .name name

/-- The host of any other scheme, which may be empty. -/
def opaque? (text : String) : Option Host := do
  guard !(text.toList.any fun c =>
    ['\x00', '\t', '\n', '\r', ' ', '#', '/', ':', '<', '>', '?', '@', '[', '\\', ']', '^',
      '|'].contains c)
  return .name (Text.Percent.encode (Text.Percent.isPrintableExcept []) text)

/-- Reads a host. -/
def ofText? (isDomain : Bool) (text : String) : Option Host :=
  match text.toList with
  | '[' :: rest =>
    if rest.getLast? = some ']' then (version6? rest.dropLast).map .version6 else none
  | _ => if isDomain then domain? text else opaque? text

end Host

end BrokerControl.Management
