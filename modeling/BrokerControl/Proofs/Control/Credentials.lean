import BrokerControl.Proofs.Control.Runs
import BrokerControl.Proofs.Control.Users

/-! # Passwords and their records

A new password is set at the broker first, then its hash is recorded in the registry, and last the
password is handed out. So a failure halfway leaves a password that nobody was told. While grants
can be set and the registry takes writes there is no such failure, and the two agree. -/

namespace BrokerControl.Control

variable {w w' : World} {s : Settings} {u v : String}

/-! ## New passwords -/

/-- Whoever is there gets the next password. Only the registry can fail after that. -/
theorem resetPassword_issues (w : World) (u : String) :
    w.Ends (resetPassword u)
      (fun r w' => w.registry.rejectsWrites = false ∧ r = ⟨u, w.nextPassword⟩ ∧ w.Issued w' u)
      fun f w' => w'.registry = w.registry ∧
        ((w'.broker.users = w.broker.users ∧ ∀ e, f ≠ savingFailed e) ∨
          (w.broker.users.contains u = true ∧ w.registry.rejectsWrites = true ∧ w.Lost w' u ∧
            ∃ e, f = savingFailed e)) := by
  unfold resetPassword
  refine .bind (.demand (fun _ => ?_) fun _ => ⟨rfl, .inl ⟨rfl, nofun⟩⟩)
  refine .bind (.require (fun _ b hb => ?_) fun e he => ⟨rfl, .inl ⟨rfl, ?_⟩⟩)
  · rw [Broker.respond_getUser] at hb
    split at hb
    · next hu =>
      cases hb
      refine .bind (.drawPassword ?_)
      have hchange := w.broker.respond_updateUserPassword u w.nextPassword
      rw [if_pos hu] at hchange
      refine .bind (.require (fun _ b hb => ?_) fun e he => ?_)
      · cases hchange.symm.trans hb
        refine .bind (.registry fun a r hr => ?_)
        have hupdate := w.registry.respond_updatePassword u (hashPassword w.nextPassword)
        cases hwrites : w.registry.rejectsWrites with
        | true =>
          rw [hwrites, if_pos rfl] at hupdate
          cases hupdate.symm.trans hr
          exact .throw ⟨rfl, .inr ⟨hu, rfl, ⟨rfl, rfl⟩, _, rfl⟩⟩
        | false =>
          rw [hwrites, if_neg Bool.false_ne_true] at hupdate
          split at hupdate
          · cases hupdate.symm.trans hr
            exact .pure ⟨rfl, rfl, .of_insert rfl rfl rfl⟩
          -- nothing was recorded of the user so far
          · next hnone =>
            cases hupdate.symm.trans hr
            refine .bind (.readClock ?_)
            have hinsert := w.registry.respond_insertCredential
              ⟨u, hashPassword w.nextPassword, w.now⟩
            have hnew : ¬w.registry.credentials.contains u = true := by
              simp [Directory.contains_iff, hnone]
            rw [hwrites, if_neg Bool.false_ne_true, if_neg hnew] at hinsert
            refine .bind (.requireRow (fun _ r hr => ?_) fun e he => ?_)
            · cases hinsert.symm.trans hr
              exact .pure ⟨rfl, rfl, .of_insert rfl rfl rfl⟩
            · cases hinsert.symm.trans he
      · cases hchange.symm.trans he
    · cases hb
  · rintro e' h
    cases e <;> cases h

/-! ## Failures -/

/-- A user who could not be made is there all the same, with the password that was drawn, and is
found by the next attempt. A password that could not be replaced is replaced all the same if the
failure is that of the registry. Nothing else that fails takes a password along. -/
theorem failed_credentials (w : World) (u v : String) :
    w.Ends (ensureUser u v) (fun _ _ => w.broker.users.contains u = true ∨ w.CanRecord)
      (fun _ w' => w.broker.users.contains u = false ∧ ¬w.CanRecord ∧ w.Lost w' u ∧
        w'.Ends (ensureUser u v) (fun c w'' => c = existingUser u ∧ w'' = w') fun _ _ => False) ∧
    w.Ends (resetPassword u) (fun _ _ => w.registry.rejectsWrites = false)
      fun f w' => w'.registry = w.registry ∧
        ((w'.broker.users = w.broker.users ∧ ∀ e, f ≠ savingFailed e) ∨
          (w.broker.users.contains u = true ∧ w.registry.rejectsWrites = true ∧ w.Lost w' u ∧
            ∃ e, f = savingFailed e)) := by
  constructor
  · refine (ensureUser_issues w u v).mono (fun c w' h => ?_) fun f w' h => ?_
    · rcases h with ⟨hu, -, -⟩ | ⟨-, hrecords, -⟩
      · exact .inl hu
      · exact .inr hrecords
    · obtain ⟨habsent, hfault, hlost, -, -⟩ := h
      have hthere : w'.broker.users.contains u = true := by
        rw [hlost.users]
        simp [Directory.contains_insert]
      refine ⟨habsent, hfault, hlost, (ensureUser_issues w' u v).mono (fun c w'' h => ?_) ?_⟩
      · rcases h with ⟨-, hc, hw⟩ | ⟨hnot, -⟩
        · exact ⟨hc, hw⟩
        · cases hthere.symm.trans hnot
      · rintro f w'' ⟨hnot, -⟩
        cases hthere.symm.trans hnot
  · exact (resetPassword_issues w u).mono (fun _ _ h => h.1) fun _ _ h => h

/-- One user's password is replaced by another that is not told, and so is that of a user who was not
to be made. -/
theorem credentials_lost :
    let now : Timestamp := ⟨⟨2024, 1, 1, by decide⟩, 0, 0, 0, by decide⟩
    let w := (World.new toString now).after {} [.perform (.ensureUser "bob" "IUDX"),
      .rejectWrites true]
    let reset := w.run {} (.resetPassword "bob")
    let made := w.run {} (.ensureUser "alice" "IUDX")
    reset.1.isOk = false ∧ w.broker.users.get? "bob" = some "0" ∧
      reset.2.broker.users.get? "bob" = some "1" ∧
      made.1.isOk = false ∧ w.broker.users.get? "alice" = none ∧
      made.2.broker.users.get? "alice" = some "1" := by
  decide +kernel

/-! ## Records that agree -/

/-- The effect gives nobody a password and records none. -/
def Effect.SparesPasswords : Effect → Prop
  | .broker (.createUser ..) | .broker (.updateUserPassword ..)
  | .registry (.insertCredential _) | .registry (.updatePassword ..) => False
  | _ => True

theorem Effect.IsPassive.sparesPasswords {e : Effect} (h : e.IsPassive) : e.SparesPasswords := by
  cases e with
  | broker c => cases c <;> trivial
  | registry c => cases c <;> trivial
  | drawPassword | readClock | count event => trivial

/-- An operation gives out no password but to the user it makes or resets. -/
theorem Operation.Asks.sparesPasswords {op : Operation} {e : Effect} (h : op.Asks s e) :
    e.SparesPasswords := by
  cases h with
  | provideStream hid h | replaceStream hid h => cases h <;> trivial
  | _ => trivial

theorem users_respond (b : Broker) {c : Broker.Call} (h : (Effect.broker c).SparesPasswords) :
    (b.respond c).2.users = b.users := by
  cases c with
  | createUser | updateUserPassword => cases h
  | _ =>
    simp only [Broker.respond_createExchange, Broker.respond_getExchange,
      Broker.respond_deleteExchange, Broker.respond_listExchangeBindings,
      Broker.respond_createQueue, Broker.respond_deleteQueue, Broker.respond_listQueueBindings,
      Broker.respond_bindQueue, Broker.respond_unbindQueue, Broker.respond_getUser,
      Broker.respond_createVhost, Broker.respond_deleteVhost, Broker.respond_listVhosts,
      Broker.respond_getUserPermissions, Broker.respond_setUserPermissions,
      Broker.respond_publish]
    repeat' split
    all_goals rfl

theorem credentials_respond (r : Registry) {c : Registry.Call}
    (h : (Effect.registry c).SparesPasswords) : (r.respond c).2.credentials = r.credentials := by
  cases c with
  | insertCredential | updatePassword => cases h
  | _ =>
    simp only [Registry.respond_getCredential, Registry.respond_getCallback,
      Registry.respond_insertCallback, Registry.respond_updateEntities,
      Registry.respond_deleteCallback]
    repeat' split
    all_goals rfl

namespace World

/-- The record of every user of the broker has the hash of the user's password. -/
def InSync (w : World) : Prop :=
  ∀ u p, w.broker.users.get? u = some p →
    ∃ c, w.registry.credentials.get? u = some c ∧ c.passwordHash = hashPassword p

theorem InSync.of_same (h : w.InSync) (husers : w'.broker.users = w.broker.users)
    (hcredentials : w'.registry.credentials = w.registry.credentials) : w'.InSync := by
  intro u p hp
  rw [hcredentials]
  rw [husers] at hp
  exact h u p hp

theorem Issued.inSync (h : w.Issued w' u) (hw : w.InSync) : w'.InSync := by
  intro u' p hp
  rw [h.users, Directory.get?_insert] at hp
  split at hp
  · next hu =>
    subst hu
    cases hp
    exact h.recorded
  · next hu =>
    rw [h.others u' (Ne.symm hu)]
    exact hw u' p hp

theorem canRecord_handle (e : Effect) (w : World) (h : w.CanRecord) : (handle e w).2.CanRecord := by
  cases e with
  | broker c => exact ⟨(congrArg _ (w.broker.faults_respond c)).trans h.grants, h.writes⟩
  | registry c => exact ⟨h.grants, (w.registry.rejectsWrites_respond c).trans h.writes⟩
  | drawPassword | readClock | count event => exact ⟨h.grants, h.writes⟩

theorem inSync_handle {e : Effect} (he : e.SparesPasswords) (h : w.InSync) :
    (handle e w).2.InSync := by
  cases e with
  | broker c => exact h.of_same (users_respond w.broker he) rfl
  | registry c => exact h.of_same rfl (credentials_respond w.registry he)
  | drawPassword | readClock | count event => exact h.of_same rfl rfl

theorem inSync_ensureUser (h : w.InSync) (hrecords : w.CanRecord) (u v : String) :
    (w.exec (ensureUser u v)).2.InSync := by
  refine Ends.of_both (P := fun _ w' => w'.InSync) ((ensureUser_issues w u v).mono ?_ ?_)
  · rintro c w' (⟨-, -, rfl⟩ | ⟨-, -, -, hissued, -⟩)
    · exact h
    · exact hissued.inSync h
  · rintro f w' ⟨-, hfault, -⟩
    exact absurd hrecords hfault

theorem inSync_resetPassword (h : w.InSync) (hrecords : w.CanRecord) (u : String) :
    (w.exec (resetPassword u)).2.InSync := by
  refine Ends.of_both (P := fun _ w' => w'.InSync) ((resetPassword_issues w u).mono ?_ ?_)
  · rintro r w' ⟨-, -, hissued⟩
    exact hissued.inSync h
  · rintro f w' ⟨hregistry, ⟨husers, -⟩ | ⟨-, hrejects, -⟩⟩
    · exact h.of_same husers (congrArg _ hregistry)
    · cases hrecords.writes.symm.trans hrejects

/-- Every operation leaves passwords and records in sync, whatever fails in it. -/
theorem inSync_run (h : w.InSync ∧ w.CanRecord) (s : Settings) (op : Operation) :
    (w.run s op).2.InSync ∧ (w.run s op).2.CanRecord := by
  have hspare {e : Effect} (he : e.SparesPasswords) (w : World) (hw : w.InSync ∧ w.CanRecord) :
      (handle e w).2.InSync ∧ (handle e w).2.CanRecord :=
    ⟨inSync_handle he hw.1, canRecord_handle e w hw.2⟩
  have hC := closed_preserves (P := fun w => w.InSync ∧ w.CanRecord)
    fun e he => hspare he.sparesPasswords
  refine Operation.procedure_closed hC s op (fun u v _ w hw => ?_) (fun u _ w hw => ?_)
    (fun e he => hspare he.sparesPasswords) w h
  · exact ⟨inSync_ensureUser hw.1 hw.2 u v, runPlan_of_handle canRecord_handle _ hw.2⟩
  · exact ⟨inSync_resetPassword hw.1 hw.2 u, runPlan_of_handle canRecord_handle _ hw.2⟩

end World

/-- The move does not make the calls fail by which a password is recorded. -/
def Move.KeepsRecording : Move → Prop
  | .perform _ => True
  | .setFaults f => f.setPermissions = false
  | .rejectWrites reject => reject = false

/-- Passwords and records stay in sync for as long as passwords can be recorded. Whoever is handed a
new password is handed the one that is in force, and whoever is handed none has kept the old one. -/
theorem inSync_after (hsync : w.InSync) (hrecords : w.CanRecord) (s : Settings) {moves : List Move}
    (hmoves : ∀ mv ∈ moves, mv.KeepsRecording) :
    (w.after s moves).InSync ∧
      (∀ (w' : World) (u v : String), w'.Ends (ensureUser u v)
        (fun c w'' => if c.created then w''.broker.users.get? u = some c.apiKey
          else c.apiKey = apiKeyHint ∧ w'' = w') fun _ _ => True) ∧
      ∀ (w' : World) (u : String), w'.Ends (resetPassword u)
        (fun r w'' => w''.broker.users.get? u = some r.apiKey) fun _ _ => True := by
  refine ⟨?_, fun w' u v => ?_, fun w' u => ?_⟩
  · have hallowed : Throughout (fun w mv => World.move w s mv) (fun _ mv => mv.KeepsRecording) w
        moves := .of_forall (fun mv hmv _ => hmoves mv hmv) w
    refine (hallowed.foldl (P := fun w => w.InSync ∧ w.CanRecord) (fun w mv hw hmv => ?_)
      ⟨hsync, hrecords⟩).1
    cases mv with
    | perform op => exact World.inSync_run hw s op
    | setFaults f => exact ⟨hw.1, hmv, hw.2.writes⟩
    | rejectWrites reject => exact ⟨hw.1, hw.2.grants, hmv⟩
  · refine (ensureUser_issues w' u v).mono ?_ fun _ _ _ => trivial
    rintro c w'' (⟨-, rfl, rfl⟩ | ⟨-, -, rfl, hissued, -⟩)
    · exact ⟨rfl, rfl⟩
    · exact hissued.password
  · refine (resetPassword_issues w' u).mono ?_ fun _ _ _ => trivial
    rintro r w'' ⟨-, rfl, hissued⟩
    exact hissued.password

/-- One user is made in place of an earlier one, whose record was left over, and another one gets a
new password. -/
theorem inSync_after_reset :
    let now : Timestamp := ⟨⟨2024, 1, 1, by decide⟩, 0, 0, 0, by decide⟩
    let left : Directory String Registry.Credential := (∅ : Directory _ _).insert "bob" ⟨"bob", "", now⟩
    let w : World := {
      broker := { users := (∅ : Directory String String).insert "alice" "old" }
      registry := { credentials := left.insert "alice" ⟨"alice", hashPassword "old", now⟩ }
      passwords := toString
      now }
    let moves : List Move := [.perform .bootstrap, .setFaults { publish := true },
      .perform (.registerAdaptor ⟨"org/group/server/item", "bob", none⟩),
      .perform (.resetPassword "alice")]
    let w' := w.after {} moves
    w'.broker.users.get? "bob" = some "0" ∧ w'.broker.users.get? "alice" = some "1" ∧
      ∃ c, w'.registry.credentials.get? "alice" = some c ∧ c.passwordHash = hashPassword "1" := by
  intro now left w moves w'
  have hsync : w.InSync := by
    intro u p hp
    simp only [w, Directory.get?_insert] at hp ⊢
    split at hp
    · cases hp
      exact ⟨_, if_pos ‹_›, rfl⟩
    · cases hp
  have hmoves : ∀ mv ∈ moves, mv.KeepsRecording := by simp [moves, Move.KeepsRecording]
  have hreset : w'.InSync := (inSync_after hsync ⟨rfl, rfl⟩ {} hmoves).1
  have hbob : w'.broker.users.get? "bob" = some "0" := by decide +kernel
  have halice : w'.broker.users.get? "alice" = some "1" := by decide +kernel
  clear_value w'
  exact ⟨hbob, halice, hreset "alice" "1" halice⟩

end BrokerControl.Control
