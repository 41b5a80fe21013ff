import BrokerControl.Access.Error

/-!
# Rights and edits

A user has three rights on a virtual host. An edit adds one resource to a right or removes it.
-/

namespace BrokerControl.Access

inductive Right where
  | configure
  | write
  | read
  deriving DecidableEq

def Right.name : Right → String
  | .configure => "configure"
  | .write => "write"
  | .read => "read"

inductive Edit where
  | addRead
  | addWrite
  | deleteRead
  | deleteWrite
  deriving DecidableEq

namespace Edit

def name : Edit → String
  | .addRead => "ADD_READ"
  | .addWrite => "ADD_WRITE"
  | .deleteRead => "DELETE_READ"
  | .deleteWrite => "DELETE_WRITE"

def ofName? (s : String) : Except Malformed Edit :=
  if s = "ADD_READ" then .ok .addRead
  else if s = "ADD_WRITE" then .ok .addWrite
  else if s = "DELETE_READ" then .ok .deleteRead
  else if s = "DELETE_WRITE" then .ok .deleteWrite
  else .error (.edit s)

/-- The right that an edit changes. -/
def right : Edit → Right
  | .addRead | .deleteRead => .read
  | .addWrite | .deleteWrite => .write

/-- Whether an edit adds. -/
def isGrant : Edit → Bool
  | .addRead | .addWrite => true
  | .deleteRead | .deleteWrite => false

theorem ofName?_name (e : Edit) : ofName? e.name = .ok e := by
  cases e <;> rfl

end Edit

end BrokerControl.Access
