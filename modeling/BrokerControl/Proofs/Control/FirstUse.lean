import BrokerControl.Proofs.Control.Credentials
import BrokerControl.Proofs.Control.Interleaving

/-! # One user made by several requests at the same time

Requests that look for the same user and do not find it all try to make it. The first to try makes
it; the others find it there sooner or later and change nothing. So in the end everything is as if
the one that has made the user had been alone. -/

namespace BrokerControl.Control

variable {α : Type} {w w' : World} {u v : String}

/-! ## Worlds that differ in passwords -/

/-- The worlds differ at most in the passwords to be drawn and in what was counted. -/
structure World.Like (w w' : World) : Prop where
  broker : w'.broker = w.broker
  registry : w'.registry = w.registry
  now : w'.now = w.now

/-- The plan draws no password. -/
def Plan.DrawsNone : Plan α → Prop
  | .done _ => True
  | .step e next => e ≠ .drawPassword ∧ ∀ a, (next a).DrawsNone

namespace World.Like

theorem refl (w : World) : w.Like w := ⟨rfl, rfl, rfl⟩

theorem trans {w'' : World} (h : w.Like w') (h' : w'.Like w'') : w.Like w'' :=
  ⟨h'.broker.trans h.broker, h'.registry.trans h.registry, h'.now.trans h.now⟩

theorem handle (h : w.Like w') {e : Effect} (he : e ≠ .drawPassword) :
    (World.handle e w').1 = (World.handle e w).1 ∧
      (World.handle e w).2.Like (World.handle e w').2 := by
  obtain ⟨hbroker, hregistry, hnow⟩ := h
  cases e with
  | broker c =>
    exact ⟨congrArg (fun b => (b.respond c).1) hbroker,
      congrArg (fun b => (b.respond c).2) hbroker, hregistry, hnow⟩
  | registry c =>
    exact ⟨congrArg (fun r => (r.respond c).1) hregistry, hbroker,
      congrArg (fun r => (r.respond c).2) hregistry, hnow⟩
  | drawPassword => exact absurd rfl he
  | readClock => exact ⟨hnow, hbroker, hregistry, hnow⟩
  | count event => exact ⟨rfl, hbroker, hregistry, hnow⟩

/-- What draws no password comes to the same whatever the passwords are. -/
theorem runPlan (h : w.Like w') {p : Plan α} (hp : p.DrawsNone) :
    (w'.runPlan p).1 = (w.runPlan p).1 ∧ (w.runPlan p).2.Like (w'.runPlan p).2 := by
  induction p generalizing w w' with
  | done a => exact ⟨rfl, h⟩
  | step e next ih =>
    obtain ⟨hanswer, hlike⟩ := h.handle hp.1
    rw [World.runPlan_step, World.runPlan_step, hanswer]
    exact ih _ hlike (hp.2 _)

end World.Like

/-! ## Making a user in steps -/

/-- What is left to do for a user who was not found, once a password is drawn. -/
def addUser (u v password : String) : Procedure Credentials := do
  match ← Procedure.broker (.createUser u password) with
  | .ok _ => pure ()
  | .error (.alreadyExists _) => return existingUser u
  | .error e => throw (.remote "User creation failed" e)
  Procedure.require (.setUserPermissions v u .denyAll) (.remote "Setting vhost permissions failed")
  let hash := hashPassword password
  let now ← Procedure.readClock
  match ← Procedure.registry (.insertCredential ⟨u, hash, now⟩) with
  | .ok _ => pure ()
  | .error (.conflict _) => Procedure.requireRow (.updatePassword u hash) savingFailed
  | .error e => throw (savingFailed e)
  return ⟨u, password, true⟩

theorem ensureUser_looks (u v : String) :
    ∃ next, (ensureUser u v).run = .step (.broker (.getUser u)) next ∧
      (∀ x, next (.ok x) = .done (.ok (existingUser u))) ∧
      ∀ what, next (.error (.notFound what)) =
        .step .drawPassword fun password => (addUser u v password).run :=
  ⟨_, rfl, fun _ => rfl, fun _ => rfl⟩

/-- Once the user is made no password is drawn any more. -/
theorem addUser_adds (u v password : String) :
    ∃ next, (addUser u v password).run = .step (.broker (.createUser u password)) next ∧
      (∀ what, next (.error (.alreadyExists what)) = .done (.ok (existingUser u))) ∧
      (next (.ok ())).DrawsNone := by
  refine ⟨_, rfl, fun _ => rfl, nofun, fun granted => ?_⟩
  cases granted with
  | error e => trivial
  | ok _ =>
    refine ⟨nofun, fun now => ⟨nofun, fun saved => ?_⟩⟩
    cases saved with
    | ok _ => trivial
    | error e =>
      cases e with
      | conflict what => exact ⟨nofun, fun renewed => by cases renewed <;> trivial⟩
      | notFound what | unexpected text => trivial

theorem ensureUser_within (u v : String) : (ensureUser u v).run.Within 7 := by
  intro found
  cases found with
  | ok _ => trivial
  | error e =>
    cases e with
    | notFound what =>
      intro password made
      cases made with
      | ok _ =>
        intro granted
        cases granted with
        | error e => trivial
        | ok _ =>
          intro now saved
          cases saved with
          | ok _ => trivial
          | error e =>
            cases e with
            | conflict what => exact fun renewed => by cases renewed <;> trivial
            | notFound what | unexpected text => trivial
      | error e => cases e <;> trivial
    | _ => trivial

/-! ## The one that makes the user -/

/-- What making the user comes to if nothing else goes on and the password is the given one. -/
def World.making (w : World) (u v password : String) : Except Failure Credentials × World :=
  ({ w with passwords := fun _ => password } : World).exec (ensureUser u v)

/-- In the world as it is, what is left of a plan comes to what making the user alone comes to. -/
structure Makes (w : World) (u v password : String) (w' : World)
    (p : Plan (Except Failure Credentials)) : Prop where
  drawsNone : p.DrawsNone
  result : (w'.runPlan p).1 = (w.making u v password).1
  world : (w.making u v password).2.Like (w'.runPlan p).2

namespace Makes

variable {password : String} {p : Plan (Except Failure Credentials)}

theorem step {e : Effect} {next : e.Answer → Plan (Except Failure Credentials)}
    (h : Makes w u v password w' (.step e next)) :
    Makes w u v password (World.handle e w').2 (next (World.handle e w').1) :=
  ⟨h.drawsNone.2 _, h.result, h.world⟩

/-- What others do does not matter as long as they leave broker and registry alone. -/
theorem of_like {w'' : World} (h : Makes w u v password w' p) (hlike : w'.Like w'') :
    Makes w u v password w'' p := by
  obtain ⟨hresult, hworld⟩ := hlike.runPlan h.drawsNone
  exact ⟨h.drawsNone, hresult.trans h.result, h.world.trans hworld⟩

end Makes

/-- With the password in place, the user has it and it is recorded. -/
theorem making_issues (habsent : w.broker.users.contains u = false) (hrecords : w.CanRecord)
    (v password : String) :
    (w.making u v password).1 = .ok ⟨u, password, true⟩ ∧
      (w.making u v password).2.broker = w.broker.admitting v u password ∧
      ∃ c, (w.making u v password).2.registry.credentials.get? u = some c ∧
        c.passwordHash = hashPassword password := by
  refine World.Ends.of_both (P := fun x w' => x = .ok ⟨u, password, true⟩ ∧
    w'.broker = w.broker.admitting v u password ∧
      ∃ c, w'.registry.credentials.get? u = some c ∧ c.passwordHash = hashPassword password)
    ((ensureUser_issues { w with passwords := fun _ => password } u v).mono ?_ ?_)
  · rintro x w' (⟨hthere, -⟩ | ⟨-, -, rfl, hissued, hbroker⟩)
    · cases habsent.symm.trans hthere
    · exact ⟨rfl, hbroker, hissued.recorded⟩
  · rintro f w' ⟨-, hfault, -⟩
    exact absurd ⟨hrecords.grants, hrecords.writes⟩ hfault

/-! ## Those that have not made it -/

/-- A request that is about to look for the user, to draw a password or to make the user. -/
inductive Trying (u v : String) : Plan (Except Failure Credentials) → Prop
  | looking : Trying u v (ensureUser u v).run
  | drawing : Trying u v (.step .drawPassword fun password => (addUser u v password).run)
  | adding (password : String) : Trying u v (addUser u v password).run

private theorem handle_getUser (w : World) (u : String) :
    World.handle (.broker (.getUser u)) w =
      if w.broker.users.contains u then (.ok ⟨u⟩, w)
      else (.error (.notFound s!"user {u}"), w) := by
  rw [World.handle_broker, Broker.respond_getUser]
  split <;> rfl

private theorem handle_createUser (w : World) (u password : String) :
    World.handle (.broker (.createUser u password)) w =
      if w.broker.users.contains u then (.error (.alreadyExists s!"user {u}"), w)
      else (.ok (), w.withBroker (w.broker.withUser u password)) := by
  rw [World.handle_broker, Broker.respond_createUser]
  split <;> rfl

/-- Making the user is to look for it, to draw the password, to make it and to do the rest. -/
private theorem making_eq (habsent : w.broker.users.contains u = false) {v password : String}
    {next : Except Broker.Error Unit → Plan (Except Failure Credentials)}
    (hadd : (addUser u v password).run = .step (.broker (.createUser u password)) next) :
    ∃ w₁ : World, w.making u v password = w₁.runPlan (next (.ok ())) ∧
      w₁.Like (w.withBroker (w.broker.withUser u password)) := by
  obtain ⟨look, hlook, -, hmissed⟩ := ensureUser_looks u v
  have hno : ¬w.broker.users.contains u = true := by simp [habsent]
  let w₀ : World := { w with passwords := fun _ => password }
  have hget := (handle_getUser w₀ u).trans (if_neg hno)
  have hcreate := (handle_createUser w₀.withDrawn u password).trans (if_neg hno)
  refine ⟨w₀.withDrawn.withBroker _, ?_, rfl, rfl, rfl⟩
  calc w.making u v password
    _ = w₀.runPlan (ensureUser u v).run := rfl
    _ = w₀.runPlan (.step .drawPassword fun password => (addUser u v password).run) := by
      rw [hlook, World.runPlan_step, hget, hmissed]
    _ = w₀.withDrawn.runPlan (addUser u v password).run := rfl
    _ = _ := by
      rw [hadd, World.runPlan_step, hcreate]
      rfl

/-- What a turn of such a request comes to. -/
inductive Tried (u v : String) (w w' : World) (p : Plan (Except Failure Credentials)) : Prop
  | again (hlike : w.Like w') (htrying : Trying u v p)
  /-- The user is there. -/
  | found (hlike : w.Like w') (hthere : w.broker.users.contains u = true)
    (hdone : p = .done (.ok (existingUser u)))
  /-- The user was not there, and now it is. -/
  | made (password : String) (habsent : w.broker.users.contains u = false)
    (hthere : w'.broker.users.contains u = true)
    (hmakes : ∀ w₀ : World, w₀.Like w → Makes w₀ u v password w' p)

theorem Trying.turn {p : Plan (Except Failure Credentials)} (h : Trying u v p) (w : World) :
    ∃ e next, p = .step e next ∧
      Tried u v w (World.handle e w).2 (next (World.handle e w).1) := by
  cases h with
  | looking =>
    obtain ⟨next, hrun, hfound, hmissed⟩ := ensureUser_looks u v
    refine ⟨_, next, hrun, ?_⟩
    rw [handle_getUser]
    split
    · next hthere => exact .found (.refl w) hthere (hfound _)
    · exact .again (.refl w) (hmissed _ ▸ .drawing)
  | drawing => exact ⟨_, _, rfl, .again ⟨rfl, rfl, rfl⟩ (.adding _)⟩
  | adding password =>
    obtain ⟨next, hrun, hfound, hdraws⟩ := addUser_adds u v password
    refine ⟨_, next, hrun, ?_⟩
    rw [handle_createUser]
    split
    · next hthere => exact .found (.refl w) hthere (hfound _)
    · next hno =>
      have habsent : w.broker.users.contains u = false := by simpa using hno
      refine .made password habsent (by simp [Broker.withUser, Directory.contains_insert])
        fun w₀ hlike => ?_
      -- alone the request would be at the same place now, in a world like this one
      obtain ⟨w₁, hmaking, hlike₁⟩ := making_eq (w := w₀) (hlike.broker ▸ habsent) hrun
      have hlike₂ : w₁.Like (w.withBroker (w.broker.withUser u password)) :=
        hlike₁.trans ⟨congrArg (·.withUser u password) hlike.broker, hlike.registry, hlike.now⟩
      obtain ⟨hresult, hworld⟩ := hlike₂.runPlan hdraws
      rw [← hmaking] at hresult hworld
      exact ⟨hdraws, hresult, hworld⟩

/-! ## All of them -/

/-- No effect takes a user away. -/
theorem World.user_handle (h : w.broker.users.contains u = true) (e : Effect) :
    (World.handle e w).2.broker.users.contains u = true := by
  cases e with
  | broker c =>
    rw [World.handle_broker, World.withBroker_broker]
    cases c with
    | createUser name password =>
      rw [Broker.respond_createUser]
      split <;> simp [Directory.contains_insert, h]
    | updateUserPassword name password =>
      rw [Broker.respond_updateUserPassword]
      split <;> simp [Directory.contains_insert, h]
    | _ =>
      refine (congrArg (·.contains u) (users_respond w.broker ?_)).trans h
      trivial
  | registry c | drawPassword | readClock | count event => exact h

section Crowd

variable {ι : Type} {c : Crowd ι fun _ => Credentials} {i : ι}

theorem Trying.not_returned (h : Trying u v (c.rest i)) : ¬c.Returned i := by
  obtain ⟨e, next, hrest, -⟩ := h.turn c.world
  simp [Crowd.Returned, hrest]

variable [DecidableEq ι]

/-- Where the user is, a request that has not made it changes nothing. -/
theorem Trying.turn_of_there (h : Trying u v (c.rest i))
    (hthere : c.world.broker.users.contains u = true) :
    c.world.Like (c.turn i none).world ∧
      (Trying u v ((c.turn i none).rest i) ∨
        (c.turn i none).rest i = .done (.ok (existingUser u))) := by
  obtain ⟨e, next, hrest, htried⟩ := h.turn c.world
  rw [Crowd.world_turn hrest, Crowd.rest_turn_self hrest, World.reply_none]
  cases htried with
  | again hlike htrying => exact ⟨hlike, .inl htrying⟩
  | found hlike _ hdone => exact ⟨hlike, .inr hdone⟩
  | made password habsent => cases hthere.symm.trans habsent

/-- How requests stand that are to make one user. -/
inductive FirstUse (w : World) (u v : String) (c : Crowd ι fun _ => Credentials) : Prop
  /-- There is no such user yet. -/
  | pending (hlike : w.Like c.world) (htrying : ∀ i, Trying u v (c.rest i))
  /-- One of them has made it. Whatever the others do now, the rest comes to what making the user
  alone comes to. -/
  | settled (i : ι) (password : String) (hthere : c.world.broker.users.contains u = true)
    (hmakes : Makes w u v password c.world (c.rest i))
    (hothers : ∀ j, j ≠ i →
      Trying u v (c.rest j) ∨ c.rest j = .done (.ok (existingUser u)))

/-- The turn of a request while there is no such user. -/
private theorem FirstUse.turn_pending (habsent : w.broker.users.contains u = false)
    (hlike : w.Like c.world) (htrying : ∀ i, Trying u v (c.rest i)) (i : ι) :
    FirstUse w u v (c.turn i none) := by
  obtain ⟨e, next, hrest, htried⟩ := (htrying i).turn c.world
  have hworld : (c.turn i none).world = (World.handle e c.world).2 := Crowd.world_turn hrest none
  have hself : (c.turn i none).rest i = next (World.handle e c.world).1 :=
    Crowd.rest_turn_self hrest none
  have hother (j : ι) (hj : j ≠ i) : Trying u v ((c.turn i none).rest j) := by
    rw [Crowd.rest_turn_of_ne hj]
    exact htrying j
  rw [← hself, ← hworld] at htried
  cases htried with
  | again hlike' htrying' =>
    refine .pending (hlike.trans hlike') fun j => ?_
    by_cases hj : j = i
    · rwa [hj]
    · exact hother j hj
  | found _ hthere =>
    rw [hlike.broker] at hthere
    cases hthere.symm.trans habsent
  | made password _ hthere hmakes =>
    exact .settled i password hthere (hmakes w hlike) fun j hj => .inl (hother j hj)

/-- The turn of a request after one of them has made the user. -/
private theorem FirstUse.turn_settled {maker : ι} {password : String}
    (hthere : c.world.broker.users.contains u = true)
    (hmakes : Makes w u v password c.world (c.rest maker))
    (hothers : ∀ j, j ≠ maker →
      Trying u v (c.rest j) ∨ c.rest j = .done (.ok (existingUser u))) (i : ι) :
    FirstUse w u v (c.turn i none) := by
  by_cases hi : i = maker
  · subst hi
    cases hrest : c.rest i with
    | done x =>
      rw [Crowd.turn_of_done hrest]
      exact .settled i password hthere hmakes hothers
    | step e next =>
      rw [hrest] at hmakes
      refine .settled i password ?_ ?_ fun j hj => ?_
      · rw [Crowd.world_turn hrest]
        exact World.user_handle hthere e
      · rw [Crowd.world_turn hrest, Crowd.rest_turn_self hrest]
        exact hmakes.step
      · rw [Crowd.rest_turn_of_ne hj]
        exact hothers j hj
  · rcases hothers i hi with htrying | hdone
    · obtain ⟨hlike, hself⟩ := htrying.turn_of_there hthere
      refine .settled maker password (hlike.broker ▸ hthere) ?_ fun j hj => ?_
      · rw [Crowd.rest_turn_of_ne (Ne.symm hi)]
        exact hmakes.of_like hlike
      · by_cases hji : j = i
        · rwa [hji]
        · rw [Crowd.rest_turn_of_ne hji]
          exact hothers j hj
    · rw [Crowd.turn_of_done hdone]
      exact .settled maker password hthere hmakes hothers

theorem FirstUse.turn (habsent : w.broker.users.contains u = false) (h : FirstUse w u v c)
    (i : ι) : FirstUse w u v (c.turn i none) := by
  cases h with
  | pending hlike htrying => exact .turn_pending habsent hlike htrying i
  | settled maker password hthere hmakes hothers => exact .turn_settled hthere hmakes hothers i

theorem FirstUse.after (habsent : w.broker.users.contains u = false) (h : FirstUse w u v c)
    (order : List ι) : FirstUse w u v (c.after (order.map (·, none))) := by
  induction order generalizing c with
  | nil => exact h
  | cons i order ih => exact ih (h.turn habsent i)

/-- Who returns returns well. -/
theorem FirstUse.succeeded (habsent : w.broker.users.contains u = false) (hrecords : w.CanRecord)
    (h : FirstUse w u v c) (hreturned : c.Returned i) : c.Succeeded i := by
  rw [Crowd.succeeded_iff]
  cases h with
  | pending hlike htrying => exact absurd hreturned (htrying i).not_returned
  | settled maker password _ hmakes hothers =>
    by_cases hi : i = maker
    · subst hi
      cases hrest : c.rest i with
      | done x =>
        obtain ⟨-, hresult, -⟩ := hrest ▸ hmakes
        exact ⟨_, congrArg _ (hresult.trans (making_issues habsent hrecords v password).1)⟩
      | step e next => simp [Crowd.Returned, hrest] at hreturned
    · rcases hothers i hi with htrying | hdone
      · exact absurd hreturned htrying.not_returned
      · exact ⟨_, hdone⟩

end Crowd

/-- Any number of requests make a new user at the same time, and nothing is made to fail. However
they take turns, all of them succeed; one of them gets the password that the user has in the end and
that is recorded, also where a record of an earlier user of that name is left over, and the others
are told that the user is there. -/
theorem concurrent_first_use {n : ℕ} (hn : 0 < n) (habsent : w.broker.users.contains u = false)
    (hrecords : w.CanRecord) (v : String) (order : List (Fin n)) :
    let c := (Crowd.start w fun _ : Fin n => ensureUser u v).after (order.map (·, none))
    (∀ i, 7 ≤ order.count i → c.Returned i) ∧ (∀ i, c.Returned i → c.Succeeded i) ∧
      ((∀ i, c.Returned i) → ∃ i p, c.rest i = .done (.ok ⟨u, p, true⟩) ∧
        (∀ j, j ≠ i → c.rest j = .done (.ok (existingUser u))) ∧
        c.world.broker.users.get? u = some p ∧
        c.world.broker.grants.get? ⟨v, u⟩ = some .denyAll ∧
        ∃ row, c.world.registry.credentials.get? u = some row ∧
          row.passwordHash = hashPassword p) := by
  intro c
  have hstands : FirstUse w u v c :=
    FirstUse.after habsent (.pending (.refl w) fun _ => .looking) order
  have hsucceeded (i : Fin n) (hreturned : c.Returned i) : c.Succeeded i :=
    hstands.succeeded habsent hrecords hreturned
  refine ⟨fun i hturns => ?_, hsucceeded, fun hreturned => ?_⟩
  · refine Crowd.returned_after (ensureUser_within u v) ?_
    simpa [Function.comp_def] using hturns
  cases hstands with
  | pending hlike htrying => exact absurd (hreturned ⟨0, hn⟩) (htrying ⟨0, hn⟩).not_returned
  | settled i p _ hmakes hothers =>
    obtain ⟨hresult, hbroker, row, hrow, hhash⟩ := making_issues habsent hrecords v p
    obtain ⟨a, hrest⟩ := Crowd.succeeded_iff.1 (hsucceeded i (hreturned i))
    rw [hrest] at hmakes
    have ha : Except.ok a = Except.ok ⟨u, p, true⟩ := hmakes.result.trans hresult
    have hend : (w.making u v p).2.Like c.world := hmakes.world
    refine ⟨i, p, ha ▸ hrest, fun j hj => ?_, ?_, ?_, row, ?_, hhash⟩
    · rcases hothers j hj with htrying | hdone
      · exact absurd (hreturned j) htrying.not_returned
      · exact hdone
    · rw [hend.broker, hbroker]
      exact Directory.get?_insert_self ..
    · rw [hend.broker, hbroker]
      exact Directory.get?_insert_self ..
    · rw [hend.registry, hrow]

/-- Two requests miss the user before one of them makes it, and a record of the user is left over
from before. -/
theorem concurrent_first_use_left_over :
    let now : Timestamp := ⟨⟨2024, 1, 1, by decide⟩, 0, 0, 0, by decide⟩
    let w := (World.new toString now).withRegistry
      { credentials := (∅ : Directory String Registry.Credential).insert "bob" ⟨"bob", "", now⟩ }
    let order : List (Fin 3) := [0, 1, 1, 0, 1, 0, 2, 1, 0] ++ List.replicate 7 2 ++
      List.replicate 7 1 ++ List.replicate 7 0
    let c := (Crowd.start w fun _ : Fin 3 => ensureUser "bob" "IUDX").after
      (order.map (·, none))
    ∃ i p, c.rest i = .done (.ok ⟨"bob", p, true⟩) ∧
      (∀ j, j ≠ i → c.rest j = .done (.ok (existingUser "bob"))) ∧
      c.world.broker.users.get? "bob" = some p ∧
      c.world.broker.grants.get? ⟨"IUDX", "bob"⟩ = some .denyAll ∧
      ∃ row, c.world.registry.credentials.get? "bob" = some row ∧
        row.passwordHash = hashPassword p := by
  intro now w order
  have habsent : w.broker.users.contains "bob" = false := by decide +kernel
  have hrecords : w.CanRecord := ⟨rfl, rfl⟩
  have hturns : ∀ i, 7 ≤ order.count i := by decide
  clear_value w order
  obtain ⟨hreturned, -, hend⟩ :=
    concurrent_first_use (n := 3) (by decide) habsent hrecords "IUDX" order
  exact hend fun i => hreturned i (hturns i)

end BrokerControl.Control
