import BrokerControl.Yaml.Token

/-!
# YAML documents

A document is a tree of scalars, sequences and mappings, some of whose nodes are numbered. An alias
stands for the number that its name has at that place. A number may be given to several nodes, and
the last of them is the one that is meant wherever the number stands.
-/

namespace BrokerControl.Yaml

structure Scalar where
  text : String
  style : Style
  tag : Option Tag
  deriving DecidableEq

inductive Node where
  | scalar (s : Scalar)
  | sequence (tag : Option Tag) (items : List Node)
  | mapping (tag : Option Tag) (pairs : List (Node × Node))
  /-- The node of a number. -/
  | reference (number : Nat)
  deriving Inhabited

/-- What stands where nothing is written. -/
def Node.nothing : Node := .scalar ⟨"", .plain, none⟩

structure Document where
  root : Node
  /-- The numbered nodes in the order in which they begin. -/
  numbered : List (Nat × Node)

/-- The node itself, or the one that it refers to. -/
def Document.follow (d : Document) : Node → Node
  | .reference number => (d.numbered.reverse.lookup number).getD .nothing
  | n => n

namespace Node

structure Reader where
  tokens : List Token
  /-- What each handle stands for. -/
  handles : List (String × Tag)
  /-- The names of anchors, each with its latest number. -/
  names : List (String × Nat) := []
  numbered : List (Nat × Node) := []

abbrev Read := StateT Reader Option

def peek : Read (Option Token) := return (← get).tokens.head?

def advance : Read Unit := modify fun r => { r with tokens := r.tokens.tail }

/-- Takes a token if it is the next. -/
def accept (t : Token) : Read Bool := do
  if (← peek) = some t then
    advance
    return true
  else return false

def expect (t : Token) : Read Unit := do
  guard (← accept t)

/-- Whether the next token is one of a few, or there is none. -/
def isNext (ts : List Token) : Read Bool := do
  match ← peek with
  | some t => return ts.contains t
  | none => return true

/-- The full form of a tag. -/
def expand (handle : String) (suffix : Tag) : Read Tag := do
  if handle = "" then return suffix
  match (← get).handles.lookup handle with
  | some expansion => return expansion ++ suffix
  | none => failure

/-- An anchor and a tag, either of them before the other. -/
def properties : Read (Option String × Option Tag) := do
  let anchor? : Read (Option String) := do
    match ← peek with
    | some (.anchor name) =>
      advance
      return some name
    | _ => return none
  let tag? : Read (Option Tag) := do
    match ← peek with
    | some (.tag handle suffix) =>
      advance
      return some (← expand handle suffix)
    | _ => return none
  match ← anchor? with
  | some name => return (some name, ← tag?)
  | none =>
    let tag ← tag?
    if tag.isSome then return (← anchor?, tag) else return (none, none)

/-- Numbers the node that begins here by how many names there are. A name that is there already
takes the new number and is not counted again. -/
def number (anchor : String) : Read Unit :=
  modify fun r => { r with
    names := (anchor, r.names.length) :: r.names.filter (·.1 != anchor)
    numbered := r.numbered ++ [(r.names.length, .nothing)] }

/-- Runs a reading of the node that begins here and puts it where its number is. -/
def anchored (anchor : Option String) (read : Read Node) : Read Node := do
  match anchor with
  | none => read
  | some name =>
    let place := (← get).numbered.length
    number name
    let n ← read
    modify fun r => { r with numbered := r.numbered.modify place fun (k, _) => (k, n) }
    return n

mutual

/-- One node. Outside flow collections it may be a block, and as a mapping's key or value it may be
a sequence that is not indented. -/
def node (inBlock notIndented : Bool) : Nat → Read Node
  | 0 => failure
  | fuel + 1 => do
    if let some (.alias name) ← peek then
      advance
      match (← get).names.lookup name with
      | some number => return .reference number
      | none => failure
    let (anchor, tag) ← properties
    anchored anchor do
      let next ← peek
      match next with
      | some (.scalar text style) =>
        advance
        return .scalar ⟨text, style, if tag = some bareTag then none else tag⟩
      | some .flowSequenceStart =>
        advance
        return .sequence tag (← flowItems true fuel)
      | some .flowMappingStart =>
        advance
        return .mapping tag (← flowPairs true fuel)
      | _ =>
        if next = some .blockEntry ∧ notIndented then
          return .sequence tag (← entries fuel)
        else if next = some .blockSequenceStart ∧ inBlock then
          advance
          let items ← entries fuel
          expect .blockEnd
          return .sequence tag items
        else if next = some .blockMappingStart ∧ inBlock then
          advance
          let pairs ← blockPairs fuel
          expect .blockEnd
          return .mapping tag pairs
        else
          guard (anchor.isSome || tag.isSome)
          return .scalar ⟨"", .plain, tag⟩

/-- A node, or nothing where one of the given tokens follows. -/
def nodeUnless (ends : List Token) (inBlock notIndented : Bool) : Nat → Read Node
  | 0 => failure
  | fuel + 1 => do
    if ← isNext ends then return .nothing
    node inBlock notIndented fuel

/-- The items of a block sequence. -/
def entries : Nat → Read (List Node)
  | 0 => failure
  | fuel + 1 => do
    if ← accept .blockEntry then
      let n ← nodeUnless [.blockEntry, .blockEnd, .key, .value] true false fuel
      return n :: (← entries fuel)
    else return []

/-- The pairs of a block mapping. -/
def blockPairs : Nat → Read (List (Node × Node))
  | 0 => failure
  | fuel + 1 => do
    if ← accept .key then
      let ends := [.key, .value, .blockEnd]
      let k ← nodeUnless ends true true fuel
      let v ← if ← accept .value then nodeUnless ends true true fuel else pure .nothing
      return (k, v) :: (← blockPairs fuel)
    else return []

/-- The items of a flow sequence up to its end. An item may be a single pair, which is then a
mapping of its own. -/
def flowItems (first : Bool) : Nat → Read (List Node)
  | 0 => failure
  | fuel + 1 => do
    if ← accept .flowSequenceEnd then return []
    if !first then expect .flowEntry
    if ← accept .flowSequenceEnd then return []
    if ← accept .key then
      let ends := [.flowEntry, .flowSequenceEnd]
      let bare ← isNext (.value :: ends)
      let k ← nodeUnless (.value :: ends) false false fuel
      if bare then advance
      let v ← if ← accept .value then nodeUnless ends false false fuel else pure .nothing
      return .mapping none [(k, v)] :: (← flowItems false fuel)
    else
      let n ← node false false fuel
      return n :: (← flowItems false fuel)

/-- The pairs of a flow mapping up to its end. -/
def flowPairs (first : Bool) : Nat → Read (List (Node × Node))
  | 0 => failure
  | fuel + 1 => do
    if ← accept .flowMappingEnd then return []
    if !first then expect .flowEntry
    if ← accept .flowMappingEnd then return []
    let ends := [.flowEntry, .flowMappingEnd]
    if ← accept .key then
      let k ← nodeUnless (.value :: ends) false false fuel
      let v ← if ← accept .value then nodeUnless ends false false fuel else pure .nothing
      return (k, v) :: (← flowPairs false fuel)
    else
      let k ← node false false fuel
      return (k, .nothing) :: (← flowPairs false fuel)

end

/-! ## Documents -/

def decimal (digits : List Char) : Nat :=
  digits.foldl (fun n c => 10 * n + (c.toNat - '0'.toNat)) 0

/-- The handles that directives declare, each once. The version, given at most once, is 1.1 or
1.2. -/
def directives : List Token → Bool → List (String × Tag) →
    Option (List (String × Tag) × List Token)
  | .version major minor :: rest, versioned, declared =>
    if !versioned && decimal major == 1 && (decimal minor == 1 || decimal minor == 2) then
      directives rest true declared
    else none
  | .tagDirective handle expansion :: rest, versioned, declared =>
    if (declared.lookup handle).isSome then none
    else directives rest versioned (declared ++ [(handle, expansion)])
  | rest, _, declared => some (declared, rest)

def standardHandles : List (String × Tag) :=
  [("!", bareTag), ("!!", "tag:yaml.org,2002:".toUTF8.toList)]

/-- The node of a document's content, which may be left away. -/
def content (fuel : Nat) : Read Node := do
  let declared : Option Token → Bool
    | some (.version ..) | some (.tagDirective ..) => true
    | _ => false
  let next ← peek
  if declared next || (← isNext [.documentStart, .documentEnd]) then return .nothing
  node true false fuel

/-- The only document of a stream of tokens; `none` inside if there is not even one. -/
def document (tokens : List Token) : Option (Option Document) := do
  if tokens.isEmpty then return none
  let (declared, rest) ← directives tokens false []
  let handles := declared ++ standardHandles
  let fuel := 4 * tokens.length + 8
  let (n, r) ← match rest with
    | .documentStart :: rest => (content fuel).run { tokens := rest, handles }
    | _ =>
      guard (rest.length = tokens.length)
      (node true false fuel).run { tokens := rest, handles }
  guard (r.tokens.all (· == .documentEnd))
  return some ⟨n, r.numbered⟩

end Node

/-- Reads a text that holds at most one document. The outer `none` is a text that is not YAML or
holds more. -/
def read? (text : String) : Option (Option Document) := do
  let tokens ← tokens? text
  Node.document tokens

end BrokerControl.Yaml
