import BrokerControl.Control.Users
import BrokerControl.Proofs.Broker.Topology
import BrokerControl.Proofs.Control.Execution

/-! # Users and their access

A workflow first makes the user it works for. Whether that succeeds or not, messages take the same
ways after it and everyone may do what they could before; only an edit of a grant changes that. -/

namespace BrokerControl

open Access (Edit Grant)

def Broker.withUser (b : Broker) (u password : String) : Broker :=
  { b with users := b.users.insert u password }

/-- The broker with the user added, who may do nothing on the virtual host. -/
def Broker.admitting (b : Broker) (v u password : String) : Broker :=
  { b with
    users := b.users.insert u password
    grants := b.grants.insert ⟨v, u⟩ .denyAll }

/-- The user was added, with a grant on the virtual host that allows nothing if it could be set. -/
inductive Broker.Admitted (b : Broker) (v u password : String) : Broker → Prop
  | bare : Admitted b v u password (b.withUser u password)
  | denied : Admitted b v u password (b.admitting v u password)

/-- A user who is new may do nothing, as before there was such a user. -/
theorem Broker.Admitted.alike {b b' : Broker} {v u password : String}
    (hadmitted : b.Admitted v u password b') (h : b.WellFormed)
    (hu : b.users.contains u = false) : b.Alike b' := by
  cases hadmitted with
  | bare => exact ⟨rfl, fun _ => rfl⟩
  | denied =>
    refine ⟨rfl, fun a => ?_⟩
    have hins := b.grantAt_insert ⟨v, u⟩ a .denyAll
    split at hins
    · next ha =>
      subst ha
      exact hins.trans (h.grantAt_of_not_user hu).symm
    · exact hins

namespace Control

variable {w w' : World} {u : String}

/-- The failure tells that an exchange could not be bound to one of the system queues. -/
def Failure.IsUnbound : Failure → Prop
  | .remote context _ => context = "Queue binding failed"
  | _ => False

/-- A grant is set for everyone who is there, unless that is made to fail. -/
theorem setUserPermissions_ends (v u : String) (g : Grant) (fault : Broker.Error → Failure) :
    w.Ends (Procedure.require (.setUserPermissions v u g) fault)
      (fun _ w' => w.broker.faults.setPermissions = false ∧
        w' = w.withBroker { w.broker with grants := w.broker.grants.insert ⟨v, u⟩ g })
      fun f w' => w' = w ∧ (∃ e, f = fault e) ∧
        (w.broker.faults.setPermissions = true ∨ w.broker.users.contains u = false) := by
  have hset := w.broker.respond_setUserPermissions v u g
  refine .require (fun _ b hb => ?_) fun e hb => ⟨rfl, ⟨e, rfl⟩, ?_⟩
  · rw [hset] at hb
    split at hb <;> [skip; split at hb]
    · cases hb
    · next hfault _ =>
      cases hb
      exact ⟨Bool.eq_false_iff.2 hfault, rfl⟩
    · cases hb
  · rw [hset] at hb
    split at hb <;> [skip; split at hb]
    · next hfault => exact .inl hfault
    · cases hb
    · next hu => exact .inr (Bool.eq_false_iff.2 hu)

/-! ## Making users -/

namespace World

/-- The password that is drawn next. -/
def nextPassword (w : World) : String := w.passwords w.drawn

/-- Grants can be set and the registry takes writes, so that a new user is recorded. -/
structure CanRecord (w : World) : Prop where
  grants : w.broker.faults.setPermissions = false
  writes : w.registry.rejectsWrites = false

/-- The user has the next password, of which there is no record. -/
structure Lost (w w' : World) (u : String) : Prop where
  users : w'.broker.users = w.broker.users.insert u w.nextPassword
  registry : w'.registry = w.registry

/-- The user has the next password, and it was recorded. -/
structure Issued (w w' : World) (u : String) : Prop where
  users : w'.broker.users = w.broker.users.insert u w.nextPassword
  recorded : ∃ c, w'.registry.credentials.get? u = some c ∧
    c.passwordHash = hashPassword w.nextPassword
  others : ∀ u', u' ≠ u → w'.registry.credentials.get? u' = w.registry.credentials.get? u'

theorem Issued.password (h : w.Issued w' u) : w'.broker.users.get? u = some w.nextPassword := by
  rw [h.users, Directory.get?_insert_self]

theorem Issued.of_insert {c : Registry.Credential}
    (husers : w'.broker.users = w.broker.users.insert u w.nextPassword)
    (hcredentials : w'.registry.credentials = w.registry.credentials.insert u c)
    (hhash : c.passwordHash = hashPassword w.nextPassword) : w.Issued w' u where
  users := husers
  recorded := ⟨c, by rw [hcredentials, Directory.get?_insert_self], hhash⟩
  others u' hu := by rw [hcredentials, Directory.get?_insert, if_neg (Ne.symm hu)]

end World

/-- A user who is there already is left alone. For a new one a password is drawn, and everything
after that can fail. -/
theorem ensureUser_issues (w : World) (u v : String) :
    w.Ends (ensureUser u v)
      (fun c w' => (w.broker.users.contains u = true ∧ c = existingUser u ∧ w' = w) ∨
        (w.broker.users.contains u = false ∧ w.CanRecord ∧ c = ⟨u, w.nextPassword, true⟩ ∧
          w.Issued w' u ∧ w'.broker = w.broker.admitting v u w.nextPassword))
      fun f w' => w.broker.users.contains u = false ∧ ¬w.CanRecord ∧ w.Lost w' u ∧
        w.broker.Admitted v u w.nextPassword w'.broker ∧ ¬f.IsUnbound := by
  unfold ensureUser
  refine .bind (.broker fun a b hb => ?_)
  rw [Broker.respond_getUser] at hb
  split at hb
  · next hu =>
    cases hb
    exact .pure (.inl ⟨hu, rfl, rfl⟩)
  next hu =>
  cases hb
  have habsent : w.broker.users.contains u = false := Bool.eq_false_iff.2 hu
  refine .bind (.drawPassword ?_)
  refine .bind (.broker fun a b hb => ?_)
  rw [World.withDrawn_broker, World.withBroker_broker, Broker.respond_createUser, if_neg hu] at hb
  cases hb
  have hmade (password : String) :
      (w.broker.users.insert u password).contains u = true := by simp [Directory.contains_insert]
  refine .bind ((setUserPermissions_ends v u .denyAll _).mono (fun _ w₁ h₁ => ?_) fun f w₁ h₁ => ?_)
  · obtain ⟨hgrants, rfl⟩ := h₁
    refine .bind (.readClock ?_)
    refine .bind (.registry fun a r hr => ?_)
    have hinsert := w.registry.respond_insertCredential ⟨u, hashPassword w.nextPassword, w.now⟩
    cases hwrites : w.registry.rejectsWrites with
    | true =>
      rw [hwrites, if_pos rfl] at hinsert
      cases hinsert.symm.trans hr
      refine .throw ⟨habsent, fun h => ?_, ⟨rfl, rfl⟩, .denied, id⟩
      cases h.writes.symm.trans hwrites
    | false =>
      have hrecords : w.CanRecord := ⟨hgrants, hwrites⟩
      rw [hwrites, if_neg Bool.false_ne_true] at hinsert
      split at hinsert
      -- a row is left over from an earlier user of that name
      · next hstale =>
        cases hinsert.symm.trans hr
        obtain ⟨c, hc⟩ := Directory.contains_iff.1 hstale
        have hupdate := w.registry.respond_updatePassword u (hashPassword w.nextPassword)
        rw [hwrites, if_neg Bool.false_ne_true, hc] at hupdate
        refine .bind (.requireRow (fun _ r hr => ?_) fun e hr => ?_)
        · cases hupdate.symm.trans hr
          exact .pure (.inr ⟨habsent, hrecords, rfl, .of_insert rfl rfl rfl, rfl⟩)
        · cases hupdate.symm.trans hr
      · cases hinsert.symm.trans hr
        exact .pure (.inr ⟨habsent, hrecords, rfl, .of_insert rfl rfl rfl, rfl⟩)
  · obtain ⟨rfl, ⟨e, rfl⟩, hfault | hnot⟩ := h₁
    · refine ⟨habsent, fun h => ?_, ⟨rfl, rfl⟩, .bare, by simp [Failure.IsUnbound]⟩
      cases h.grants.symm.trans hfault
    · cases hnot.symm.trans (hmade _)

theorem ensureUser_ends (h : w.broker.WellFormed) (u v : String) :
    w.Ends (ensureUser u v) (fun _ w' => w.broker.Alike w'.broker)
      fun f w' => w.broker.Alike w'.broker ∧ ¬f.IsUnbound := by
  refine (ensureUser_issues w u v).mono ?_ ?_
  · rintro c w' (⟨-, -, rfl⟩ | ⟨hu, -, -, -, hbroker⟩)
    · exact .refl _
    · rw [hbroker]
      exact Broker.Admitted.denied.alike h hu
  · rintro f w' ⟨hu, -, -, hadmitted, hbound⟩
    exact ⟨hadmitted.alike h hu, hbound⟩

/-! ## Editing grants -/

/-- The grant that is there is set again, edited. A user without an entry could do nothing. -/
theorem updatePermissions_sets {ok : Unit → World → Prop} {failed : Failure → World → Prop}
    {v u : String} {edit : Edit} {resource : String}
    (h : w.Ends (Procedure.require
      (.setUserPermissions v u ((w.broker.grantAt ⟨v, u⟩).apply edit resource))
      (.remote "Updating permissions failed")) ok failed) :
    w.Ends (updatePermissions v u edit resource) ok failed := by
  unfold updatePermissions
  refine .bind (.broker fun a b hb => ?_)
  rw [Broker.respond_getUserPermissions] at hb
  split at hb
  · next g hg =>
    cases hb
    rwa [show w.broker.grantAt ⟨v, u⟩ = g by simp [Broker.grantAt, hg]] at h
  · next hg =>
    cases hb
    rwa [show w.broker.grantAt ⟨v, u⟩ = .denyAll by simp [Broker.grantAt, hg]] at h

/-- One grant is all that changes. -/
theorem updatePermissions_edits (v u : String) (edit : Edit) (resource : String) :
    w.Ends (updatePermissions v u edit resource)
      (fun _ w' => w' = w.withBroker { w.broker with
        grants := w.broker.grants.insert ⟨v, u⟩
          ((w.broker.grantAt ⟨v, u⟩).apply edit resource) })
      fun f w' => w' = w ∧ ¬f.IsUnbound := by
  refine updatePermissions_sets ((setUserPermissions_ends v u _ _).mono (fun _ _ h => h.2) ?_)
  rintro f w' ⟨rfl, ⟨e, rfl⟩, -⟩
  exact ⟨rfl, by simp [Failure.IsUnbound]⟩

theorem updatePermissions_ends (v u : String) (edit : Edit) (resource : String) :
    w.Ends (updatePermissions v u edit resource)
      (fun _ w' => w'.broker = { w.broker with
        grants := w.broker.grants.insert ⟨v, u⟩
          ((w.broker.grantAt ⟨v, u⟩).apply edit resource) })
      fun f w' => w'.broker = w.broker ∧ ¬f.IsUnbound := by
  refine (updatePermissions_edits v u edit resource).mono ?_ ?_
  · rintro - w' rfl
    rfl
  · rintro f w' ⟨rfl, hf⟩
    exact ⟨rfl, hf⟩

/-- Editing a grant fails only if that is made to fail, or for someone who is no user. -/
theorem updatePermissions_fails (v u : String) (edit : Edit) (resource : String) :
    w.Ends (updatePermissions v u edit resource) (fun _ _ => True)
      fun _ _ => w.broker.faults.setPermissions = true ∨ w.broker.users.contains u = false :=
  updatePermissions_sets
    ((setUserPermissions_ends v u _ _).mono (fun _ _ _ => trivial) fun _ _ h => h.2.2)

/-- An edit that may fail unnoticed leaves the topology alone either way. -/
theorem attempt_updatePermissions_ends {failed : Failure → World → Prop} (v u : String)
    (edit : Edit) (resource : String) :
    w.Ends (Procedure.attempt (updatePermissions v u edit resource))
      (fun _ w' => w'.broker.topology = w.broker.topology) failed := by
  refine .attempt ((updatePermissions_ends v u edit resource).mono ?_ ?_)
  · intro _ w' h
    rw [h]
    rfl
  · intro _ w' h
    rw [h.1]

end Control

end BrokerControl
