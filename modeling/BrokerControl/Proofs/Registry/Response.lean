import BrokerControl.Registry.Call

/-! # What each call of the registry answers

One equation for every call, with the answer and the state after it. A call that fails leaves the
registry as it was. -/

namespace BrokerControl.Registry

/-- The failure of every write while writes are rejected. -/
def rejected : Error := .unexpected "in-memory store rejecting writes"

variable (r : Registry)

/-! ## Credentials -/

theorem respond_getCredential (username : String) :
    r.respond (.getCredential username) =
      match r.credentials.get? username with
      | some c => (.ok c, r)
      | none => (.error noCredential, r) := by
  simp only [respond, perform, getCredential]
  cases r.credentials.get? username <;> rfl

theorem respond_insertCredential (c : Credential) :
    r.respond (.insertCredential c) =
      if r.rejectsWrites then (.error rejected, r)
      else if r.credentials.contains c.username then (.error (.conflict "broker user"), r)
      else (.ok (), { r with credentials := r.credentials.insert c.username c }) := by
  simp only [respond, perform, insertCredential, writing]
  cases r.rejectsWrites <;> cases r.credentials.contains c.username <;> rfl

theorem respond_updatePassword (username hash : String) :
    r.respond (.updatePassword username hash) =
      if r.rejectsWrites then (.error rejected, r)
      else match r.credentials.get? username with
        | some c => (.ok (), { r with
          credentials := r.credentials.insert username { c with passwordHash := hash } })
        | none => (.error noCredential, r) := by
  simp only [respond, perform, updatePassword, writing]
  cases r.rejectsWrites <;> cases r.credentials.get? username <;> rfl

/-! ## Callbacks -/

theorem respond_getCallback (id : String) :
    r.respond (.getCallback id) =
      match r.callbacks.get? id with
      | some c => (.ok c, r)
      | none => (.error noCallback, r) := by
  simp only [respond, perform, getCallback]
  cases r.callbacks.get? id <;> rfl

theorem respond_insertCallback (c : Callback) :
    r.respond (.insertCallback c) =
      if r.rejectsWrites then (.error rejected, r)
      else if r.callbacks.contains c.subscriptionId then
        (.error (.conflict "callback subscription"), r)
      else (.ok (), { r with callbacks := r.callbacks.insert c.subscriptionId c }) := by
  simp only [respond, perform, insertCallback, writing]
  cases r.rejectsWrites <;> cases r.callbacks.contains c.subscriptionId <;> rfl

theorem respond_updateEntities (id : String) (entities : List String) :
    r.respond (.updateEntities id entities) =
      if r.rejectsWrites then (.error rejected, r)
      else match r.callbacks.get? id with
        | some c => (.ok (), { r with callbacks := r.callbacks.insert id { c with entities } })
        | none => (.error noCallback, r) := by
  simp only [respond, perform, updateEntities, writing]
  cases r.rejectsWrites <;> cases r.callbacks.get? id <;> rfl

theorem respond_deleteCallback (id : String) :
    r.respond (.deleteCallback id) =
      if r.rejectsWrites then (.error rejected, r)
      else if r.callbacks.contains id then
        (.ok (), { r with callbacks := r.callbacks.erase id })
      else (.error noCallback, r) := by
  simp only [respond, perform, deleteCallback, writing]
  cases r.rejectsWrites <;> cases r.callbacks.contains id <;> rfl

/-- A call that fails leaves the registry as it was. -/
theorem respond_of_error {c : Call} {e : Error} (h : (r.respond c).1 = .error e) :
    (r.respond c).2 = r := by
  unfold respond at h ⊢
  split at h
  · cases h
  · rfl

/-- No call changes whether writes are rejected. -/
theorem rejectsWrites_respond (c : Call) : (r.respond c).2.rejectsWrites = r.rejectsWrites := by
  cases c <;>
    simp only [respond_getCredential, respond_insertCredential, respond_updatePassword,
      respond_getCallback, respond_insertCallback, respond_updateEntities,
      respond_deleteCallback] <;>
    repeat' split
  all_goals rfl

end BrokerControl.Registry
