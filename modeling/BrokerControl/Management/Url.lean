import BrokerControl.Management.Host

/-!
# URLs of a management interface

An absolute URL with a path of segments, in its normal form: the scheme in small letters, dot
segments resolved, what cannot stand in a path percent-encoded. Control characters and spaces around
the text and line breaks and tabs inside it count for nothing. A fragment is dropped.
-/

namespace BrokerControl.Management

structure Url where
  scheme : String
  host : Option Host
  /-- The port, if it is not that of the scheme. -/
  port : Option UInt16
  /-- The segments of the path, percent-encoded. -/
  segments : List String
  /-- The query, percent-encoded. -/
  query : Option String
  deriving DecidableEq

namespace Url

/-- The ports of the schemes that name hosts of the domain system; a file has none. -/
def defaultPorts : List (String × Option Nat) :=
  [("http", some 80), ("https", some 443), ("ws", some 80), ("wss", some 443), ("ftp", some 21),
    ("file", none)]

def isSpecial (scheme : String) : Bool := (defaultPorts.lookup scheme).isSome

/-! ## Percent-encoding -/

/-- What stays as it is in a path. -/
def keepsInPath : Char → Bool :=
  Text.Percent.isPrintableExcept [' ', '"', '#', '<', '>', '?', '\x60', '\x7b', '\x7d']

def keepsInQuery (special : Bool) : Char → Bool :=
  Text.Percent.isPrintableExcept
    ([' ', '"', '#', '<', '>'] ++ if special then ['\''] else [])

/-- What stays as it is in a segment that is added to a path. -/
def keepsInSegment : Char → Bool :=
  Text.Percent.isPrintableExcept
    [' ', '"', '#', '%', '/', '<', '>', '?', '\\', '\x60', '\x7b', '\x7d']

/-! ## Dot segments -/

def isDot (segment : String) : Bool := [".", "%2e", "%2E"].contains segment

def isDoubleDot (segment : String) : Bool :=
  ["..", ".%2e", ".%2E", "%2e.", "%2E.", "%2e%2e", "%2e%2E", "%2E%2e", "%2E%2E"].contains segment

/-- The segments with dots resolved. A dot segment at the end leaves an empty one. -/
def resolve : List String → List String → List String
  | done, [] => done
  | done, s :: rest =>
    let kept := if isDoubleDot s then done.dropLast else if isDot s then done else done ++ [s]
    if rest = [] ∧ (isDoubleDot s ∨ isDot s) then kept ++ [""] else resolve kept rest

/-! ## Reading -/

/-- A text without what counts for nothing in a URL. -/
def cleaned (text : String) : List Char :=
  let isEdge (c : Char) : Bool := c.toNat ≤ 0x20
  let inner := ((text.toList.dropWhile isEdge).reverse.dropWhile isEdge).reverse
  inner.filter fun c => c != '\t' && c != '\n' && c != '\r'

/-- The scheme in small letters and what follows its colon. -/
def scheme? (cs : List Char) : Option (String × List Char) := do
  let (scheme, rest) ← Text.cut? ':' cs
  let first ← scheme.head?
  guard (first.isAlpha && scheme.all fun c => c.isAlphanum || ['+', '-', '.'].contains c)
  return (String.ofList (scheme.map Char.toLower), rest)

/-- The text before and from the first character that passes a test. -/
def before (test : Char → Bool) (cs : List Char) : List Char × List Char :=
  (cs.takeWhile fun c => !test c, cs.dropWhile fun c => !test c)

/-- What stands before and after the last `@`, if there is one. -/
def splitUser (authority : List Char) : Option (List Char) × List Char :=
  match authority.reverse.span (· != '@') with
  | (rest, _ :: user) => (some user.reverse, rest.reverse)
  | (_, []) => (none, authority)

/-- A host and the text after it; a colon inside brackets belongs to the host. -/
def splitHost : Bool → List Char → List Char × List Char
  | _, [] => ([], [])
  | inside, c :: cs =>
    if c = ':' ∧ !inside then ([], c :: cs)
    else
      let (host, rest) := splitHost (c = '[' || (inside && c != ']')) cs
      (c :: host, rest)

/-- A port after its colon and the text after it, which begins with a backslash if there is any.
Without digits it is the port of the scheme, like none at all. -/
def port? (scheme : String) : List Char → Option (Option UInt16 × List Char)
  | [] => some (none, [])
  | _ :: cs => do
    let (digits, rest) := cs.span Char.isDigit
    guard (rest.isEmpty || rest.head? == some '\\')
    let n ← Host.number? 10 digits
    guard (n < UInt16.size)
    if digits = [] ∨ defaultPorts.lookup scheme = some (some n) then return (none, rest)
    return (some n.toUInt16, rest)

/-- The host and the port that an authority names, and what is left of it. A host may be missing
where names are not those of the domain system, but not if there is a user or a port; and a user
that is left empty must not be followed by a path. -/
def authority? (scheme : String) (authority after : List Char) :
    Option (Host × Option UInt16 × List Char) := do
  let special := isSpecial scheme
  let (user, rest) := splitUser authority
  let (hostText, portText) := splitHost false rest
  if hostText.isEmpty then
    guard (!special && portText.isEmpty && ([none, some [], some [':']].contains user) &&
      !(user == some [] && !after.isEmpty))
  let host ← Host.ofText? special (String.ofList hostText)
  let (port, rest) ← port? scheme portText
  return (host, port, rest)

/-- Whether a text is the letter of a drive: a letter with a colon or a bar. -/
def isDrive (cs : List Char) : Bool :=
  match cs with
  | [a, b] => a.isAlpha && (b == ':' || b == '|')
  | _ => false

/-- The host of a file and what follows it. A drive in its place belongs to the path. -/
def fileHost? (endsAuthority : Char → Bool) (cs : List Char) :
    Option (Option Host × List Char) := do
  let (hostText, rest) := before endsAuthority cs
  if hostText.isEmpty || isDrive hostText then return (none, cs)
  let host ← Host.ofText? true (String.ofList hostText)
  return (if host = .name "localhost" then none else some host, rest)

/-- The path and query of a URL, after its authority. -/
def withPath (scheme : String) (host : Option Host) (port : Option UInt16) (cs : List Char) :
    Url :=
  let special := isSpecial scheme
  let (cs, _) := before (· == '#') cs
  let (path, query) := before (· == '?') cs
  let path := if special then path.map fun c => if c = '\\' then '/' else c else path
  let encoded := Text.Percent.encodeChars keepsInPath path
  let segments := match encoded with
    | [] => if special then [""] else []
    | '/' :: rest => resolve [] (Text.split '/' (String.ofList rest))
    | rest => resolve [] (Text.split '/' (String.ofList rest))
  { scheme, host, port, segments
    query := match query with
      | _ :: q => some (Text.Percent.encode (keepsInQuery special) (String.ofList q))
      | [] => none }

/-- Reads an absolute URL that has a path of segments. -/
def ofString? (text : String) : Option Url := do
  let (scheme, cs) ← scheme? (cleaned text)
  let special := isSpecial scheme
  let isSlash (c : Char) : Bool := c == '/' || (special && c == '\\')
  let endsAuthority (c : Char) : Bool := isSlash c || c == '?' || c == '#'
  let (slashes, rest) := before (fun c => !isSlash c) cs
  if scheme = "file" then
    let (host, rest) ← if 2 ≤ slashes.length then fileHost? endsAuthority (cs.drop 2)
      else pure (none, cs)
    return withPath scheme host none rest
  else if special ∨ 2 ≤ slashes.length then
    let (authority, after) := before endsAuthority (if special then rest else cs.drop 2)
    let (host, port, left) ← authority? scheme authority after
    return withPath scheme (some host) port (left ++ after)
  else if slashes.length = 1 then return withPath scheme none none cs
  else none

/-! ## Resources -/

/-- The path that resources are added to: an empty segment at the end makes room, and a single empty
segment is no path at all. -/
def root (segments : List String) : List String :=
  let kept := if segments.getLast? = some "" then segments.dropLast else segments
  if kept = [""] then [] else kept

/-- The URL of the resource of some names, below `api`. A name of one or two dots has no place in a
path and is left out. Every other name is assumed to become one segment with each of its characters
kept or percent-encoded, tabs and line breaks too, though they count for nothing in a text that is
read as a URL. -/
def resource (u : Url) (names : List String) : Url :=
  let added := names.filter fun n => n ≠ "." && n ≠ ".."
  { u with segments := root u.segments ++ "api" :: added.map (Text.Percent.encode keepsInSegment) }

def path (u : Url) : String := "/" ++ Text.join '/' u.segments

/-- The path with the query, as it is sent. -/
def target (u : Url) : String :=
  match u.query with
  | some q => u.path ++ "?" ++ q
  | none => u.path

end Url

end BrokerControl.Management
