import BrokerControl.Control.Payload
import BrokerControl.Control.Plan
import BrokerControl.Digest.Sha256
import BrokerControl.Text.Blank

/-!
# Users and their grants

A user of the broker is made when first needed, with a drawn password that is given out once and
recorded as a hash. A new user may do nothing; edits of the grant are read, changed and written
back.
-/

namespace BrokerControl.Control

open Procedure

/-- Stands in for the password of a user that was there before. -/
def apiKeyHint : String :=
  "Use the apiKey returned on registration, if lost please use /resetPassword API"

def hashPassword (password : String) : String := Digest.sha256Hex password

def existingUser (username : String) : Credentials := ⟨username, apiKeyHint, false⟩

def savingFailed (e : Registry.Error) : Failure := .persistence "Saving credentials failed" e

/-- Makes the user if there is none. A row left over from an earlier user of that name gets the new
hash. -/
def ensureUser (username vhost : String) : Procedure Credentials := do
  match ← broker (.getUser username) with
  | .ok _ => return existingUser username
  | .error (.notFound _) => pure ()
  | .error e => throw (.remote "User lookup failed" e)
  let password ← drawPassword
  match ← broker (.createUser username password) with
  | .ok _ => pure ()
  | .error (.alreadyExists _) => return existingUser username
  | .error e => throw (.remote "User creation failed" e)
  require (.setUserPermissions vhost username .denyAll) (.remote "Setting vhost permissions failed")
  let hash := hashPassword password
  let now ← readClock
  match ← registry (.insertCredential ⟨username, hash, now⟩) with
  | .ok _ => pure ()
  | .error (.conflict _) => requireRow (.updatePassword username hash) savingFailed
  | .error e => throw (savingFailed e)
  return ⟨username, password, true⟩

/-- Applies one edit to what a user may do on a virtual host; without an entry that is nothing. -/
def updatePermissions (vhost username : String) (edit : Access.Edit) (resource : String) :
    Procedure Unit := do
  let grant ← match ← broker (.getUserPermissions vhost username) with
    | .ok g => pure g
    | .error (.notFound _) => pure .denyAll
    | .error e => throw (.remote "Reading permissions failed" e)
  require (.setUserPermissions vhost username (grant.apply edit resource))
    (.remote "Updating permissions failed")

/-- Draws a new password for a user of the broker and records its hash. -/
def resetPassword (username : String) : Procedure PasswordReset := do
  demand (!Text.isBlank username) "username must not be empty"
  let _ ← require (.getUser username) (.ofBroker "User lookup failed")
  let password ← drawPassword
  require (.updateUserPassword username password) (.ofBroker "Password reset failed")
  let hash := hashPassword password
  match ← registry (.updatePassword username hash) with
  | .ok _ => pure ()
  | .error (.notFound _) =>
    let now ← readClock
    requireRow (.insertCredential ⟨username, hash, now⟩) savingFailed
  | .error e => throw (savingFailed e)
  return ⟨username, password⟩

end BrokerControl.Control
