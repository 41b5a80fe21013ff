import BrokerControl.Management.Request
import BrokerControl.Text.Integer

/-!
# Messages

A request as the bytes that are sent for it, and a reply out of all bytes that come back until the
other side closes the connection. A reply says by its fields how long its body is: a number of
bytes, or chunks of which each says its own size, or all that is left.
-/

namespace BrokerControl.Management

/-! ## Writing requests -/

namespace Host

/-- The groups of an address of version 6 in hexadecimal, none left out. -/
def groupText (n : Nat) : String := String.ofList (Nat.toDigits 16 n)

def text : Host → String
  | .name s => s
  | .version4 n =>
    ".".intercalate ([24, 16, 8, 0].map fun shift => toString ((n >>> shift) % 256))
  | .version6 groups => "[" ++ ":".intercalate (groups.map groupText) ++ "]"

end Host

/-- The host and port, as the other side knows itself. -/
def Url.authority (u : Url) : String :=
  let port := match u.port with
    | some p => s!":{p.toNat}"
    | none => ""
  (u.host.map Host.text).getD "" ++ port

def Request.fields (q : Request) (size : Nat) : List (String × String) :=
  [("Host", q.url.authority), ("Authorization", q.authorization), ("Accept", "*/*"),
    ("Connection", "close")] ++
  match q.body with
  | some _ => [("Content-Type", "application/json"), ("Content-Length", toString size)]
  | none => if q.method = .get then [] else [("Content-Length", "0")]

def Request.bytes (q : Request) : ByteArray :=
  let body := (q.body.map Json.print).getD ""
  let line := s!"{q.method.name} {q.url.target} HTTP/1.1\r\n"
  let fields := (q.fields body.utf8ByteSize).map fun (name, value) => s!"{name}: {value}\r\n"
  (line ++ "".intercalate fields ++ "\r\n" ++ body).toUTF8

/-! ## Reading replies -/

/-- The first line and what follows it. -/
def line? : List UInt8 → Option (List UInt8 × List UInt8)
  | [] => none
  | 13 :: 10 :: rest => some ([], rest)
  | b :: rest => (line? rest).map fun (line, rest) => (b :: line, rest)

/-- The lines before the first empty one, and what follows that. -/
def head? (line : List UInt8) : List UInt8 → Option (List (List UInt8) × List UInt8)
  | [] => none
  | 13 :: 10 :: rest =>
    if line = [] then some ([], rest)
    else (head? [] rest).map fun (lines, rest) => (line :: lines, rest)
  | b :: rest => head? (line ++ [b]) rest

def asciiText (bytes : List UInt8) : String :=
  String.ofList (bytes.map fun b => Char.ofNat b.toNat)

def asciiLower (s : String) : String := String.ofList (s.toList.map Char.toLower)

/-- The status out of the first line of a reply. -/
def status? (line : String) : Option UInt16 :=
  match Text.split ' ' line with
  | version :: code :: _ => do
    guard (version.startsWith "HTTP/1.")
    guard (code.length = 3)
    return .ofNat (← (Text.digitsBelow 10 1000 code.toList).toOption)
  | _ => none

/-- The value of a field, whose name may be in letters of any size. -/
def field? (lines : List String) (name : String) : Option String :=
  lines.findSome? fun line => do
    let (given, value) ← Text.cut? ':' line.toList
    guard (asciiLower (String.ofList given) = name)
    return (String.ofList value).trimAscii.toString

/-- The size of a chunk, before any extension. -/
def chunkSize? (line : String) : Option Nat :=
  let digits := (line.toList.takeWhile (· != ';')).filter (· != ' ')
  if digits.isEmpty then none else (Text.digitsBelow 16 UInt64.size digits).toOption

/-- The chunks up to the empty one, no more than a number of them. -/
def chunks? : Nat → List UInt8 → Option (List UInt8)
  | 0, _ => none
  | limit + 1, bytes => do
    let (line, rest) ← line? bytes
    let size ← chunkSize? (asciiText line)
    if size = 0 then return []
    guard (size ≤ rest.length)
    return rest.take size ++ (← chunks? limit (rest.drop (size + 2)))

/-- The body that follows the head of a reply. -/
def body? (status : UInt16) (lines : List String) (rest : List UInt8) : Option (List UInt8) :=
  if status = 204 ∨ status = 304 then some []
  else if (field? lines "transfer-encoding").map asciiLower = some "chunked" then
    chunks? rest.length rest
  else match field? lines "content-length" with
    | some text => do
      let size ← (Text.naturalBelow 10 UInt64.size text.toList).toOption
      guard (size ≤ rest.length)
      return rest.take size
    | none => some rest

def Reply.ofBytes? (bytes : ByteArray) : Option Reply := do
  let (lines, rest) ← head? [] bytes.toList
  let lines := lines.map asciiText
  let status ← status? (← lines.head?)
  let body ← body? status lines.tail rest
  return { status, body := ⟨body.toArray⟩ }

end BrokerControl.Management
