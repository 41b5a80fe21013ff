import BrokerControl.Access.Edit
import BrokerControl.Text.Split

/-!
# Grants

The broker stores each right of a user as one pattern, an alternation of resource ids joined by
`|`. A `ResourceSet` keeps the ids as a list, repetitions included, and the pattern is only its
written form. A pattern that begins with `.*` matches everything; adding an id to it takes the `.*`
away.
-/

namespace BrokerControl.Access

/-- The pattern that matches everything. -/
def wildcard : String := ".*"

/-- A text without a leading `.*`, if it has one. -/
def withoutWildcard? (s : String) : Option String :=
  match s.toList with
  | '.' :: '*' :: rest => some (String.ofList rest)
  | _ => none

structure ResourceSet where
  entries : List String
  deriving DecidableEq

namespace ResourceSet

def empty : ResourceSet := ⟨[]⟩

instance : EmptyCollection ResourceSet := ⟨empty⟩

instance : Inhabited ResourceSet := ⟨empty⟩

def everything : ResourceSet := ⟨[wildcard]⟩

/-- Reads a pattern; the empty pattern has no ids. -/
def ofPattern (s : String) : ResourceSet := if s = "" then ∅ else ⟨Text.split '|' s⟩

def toPattern (g : ResourceSet) : String := Text.join '|' g.entries

def size (g : ResourceSet) : Nat := g.entries.length

def isEmpty (g : ResourceSet) : Bool := g.entries.isEmpty

def isWildcard (g : ResourceSet) : Bool :=
  match g.entries with
  | first :: _ => (withoutWildcard? first).isSome
  | [] => false

def contains (g : ResourceSet) (id : String) : Bool := g.entries.contains id

/-- The ids that stay when another is added: a leading `.*` goes, and so does a lone empty id. -/
def kept : List String → List String
  | [] => []
  | first :: rest =>
    let bare := (withoutWildcard? first).getD first
    if bare = "" ∧ rest = [] then [] else bare :: rest

def add (g : ResourceSet) (id : String) : ResourceSet := ⟨kept g.entries ++ [id]⟩

/-- Takes out every entry equal to the id. -/
def remove (g : ResourceSet) (id : String) : ResourceSet := ⟨g.entries.filter (· != id)⟩

def edit (g : ResourceSet) (e : Edit) (id : String) : ResourceSet :=
  if e.isGrant then g.add id else g.remove id

end ResourceSet

/-- What a user may do on a virtual host. -/
structure Grant where
  configure : ResourceSet
  write : ResourceSet
  read : ResourceSet
  deriving DecidableEq

namespace Grant

def denyAll : Grant := ⟨∅, ∅, ∅⟩

instance : Inhabited Grant := ⟨denyAll⟩

def right (g : Grant) : Right → ResourceSet
  | .configure => g.configure
  | .write => g.write
  | .read => g.read

def setRight (g : Grant) (r : Right) (s : ResourceSet) : Grant :=
  match r with
  | .configure => { g with configure := s }
  | .write => { g with write := s }
  | .read => { g with read := s }

def apply (g : Grant) (e : Edit) (id : String) : Grant :=
  g.setRight e.right ((g.right e.right).edit e id)

@[simp] theorem right_setRight_self (g : Grant) (r : Right) (s : ResourceSet) :
    (g.setRight r s).right r = s := by
  cases r <;> rfl

theorem right_setRight_of_ne (g : Grant) {r r' : Right} (h : r ≠ r') (s : ResourceSet) :
    (g.setRight r s).right r' = g.right r' := by
  cases r <;> cases r' <;> first | rfl | exact absurd rfl h

end Grant

/-- An edit of a right's written form. -/
def editPattern (existing : String) (e : Edit) (id : String) : String :=
  ((ResourceSet.ofPattern existing).edit e id).toPattern

end BrokerControl.Access
