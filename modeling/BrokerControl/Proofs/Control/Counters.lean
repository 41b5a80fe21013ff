import BrokerControl.Proofs.Control.Creations
import BrokerControl.Proofs.Control.Runs

/-! # What the workflows count

Registering an adaptor, providing a stream and registering a callback are workflows: each makes one
thing and takes it back if a later call fails. Each call of one counts that it was completed, that
it gave up, or nothing if it failed before it had made anything; and if it gave up and what it had
made is still there, that too. -/

namespace BrokerControl.Control

variable {α β : Type}

/-! ## Tallies -/

/-- The workflow in which things of the kind are made. -/
def Creation.workflow : Creation → String
  | .exchange .. => "register_adaptor"
  | .queue .. => "streaming_subscription"
  | .callback _ => "callback_subscription"

def Deed.made? : Deed → Option Creation
  | .make k => some k
  | _ => none

def Effect.counted : Effect → List Event
  | .count event => [event]
  | _ => []

theorem Effect.counted_of_isPassive {e : Effect} (h : e.IsPassive) : e.counted = [] := by
  cases e with
  | count event => exact h.elim
  | broker c | registry c | drawPassword | readClock => rfl

/-- What was made, what exists, and what was counted. -/
structure Tally where
  made : List Creation
  has : Creation → Bool
  events : List Event

def Tally.after (t : Tally) (e : Effect) (a : e.Answer) : Tally where
  made := t.made ++ (e.did a).made?.toList
  has := (e.did a).enter true false t.has
  events := t.events ++ e.counted

theorem Tally.after_eq_self {e : Effect} {a : e.Answer} (hdid : e.did a = .nothing)
    (hcounted : e.counted = []) (t : Tally) : t.after e a = t := by
  simp [Tally.after, hdid, hcounted, Deed.made?, Deed.enter]

theorem Tally.after_count (t : Tally) (event : Event) (u : Unit) :
    t.after (.count event) u = { t with events := t.events ++ [event] } :=
  congrArg (Tally.mk · t.has (t.events ++ [event])) (List.append_nil t.made)

theorem Tally.after_of_not_made {e : Effect} {a : e.Answer} (hmade : (e.did a).made? = none)
    (hcounted : e.counted = []) (t : Tally) :
    (t.after e a).made = t.made ∧ (t.after e a).events = t.events := by
  simp [Tally.after, hmade, hcounted]

/-- What is there stays if it cannot be removed. -/
theorem Tally.has_after_remove {e : Effect} {k : Creation} (hdeed : e.deed = .remove k)
    (a : e.Answer) {t : Tally} (hhas : t.has k = true) :
    (t.after e a).has k = !e.succeeded a := by
  rw [Tally.after, Effect.did, hdeed]
  cases e.succeeded a with
  | true => exact Function.update_self ..
  | false => exact hhas

namespace Plan

/-- Whatever it is answered, the plan leads from the tally to a result and a tally as in `Q`. -/
def Leads (Q : α → Tally → Prop) : Plan α → Tally → Prop
  | .done a, t => Q a t
  | .step e next, t => ∀ a, (next a).Leads Q (t.after e a)

/-- Nothing is made, removed or counted. -/
def Quiet (p : Plan α) : Prop := ∀ t, p.Leads (fun _ t' => t' = t) t

variable {Q : α → Tally → Prop} {t : Tally}

theorem Leads.mono {Q' : α → Tally → Prop} {p : Plan α} (h : p.Leads Q t)
    (hQ : ∀ a t, Q a t → Q' a t) : p.Leads Q' t := by
  induction p generalizing t with
  | done a => exact hQ a t h
  | step e next ih => exact fun a => ih a (h a)

theorem Leads.bind {p : Plan β} {f : β → Plan α} (h : p.Leads (fun b t => (f b).Leads Q t) t) :
    (p >>= f).Leads Q t := by
  induction p generalizing t with
  | done b => exact h
  | step e next ih => exact fun b => ih b (h b)

theorem Quiet.leads {p : Plan α} (h : p.Quiet) (hQ : ∀ a, Q a t) : p.Leads Q t :=
  (h t).mono fun a _ heq => heq ▸ hQ a

theorem quiet_perform {e : Effect} (hdeed : e.deed = .nothing) (hcounted : e.counted = []) :
    (perform e).Quiet :=
  fun t a => t.after_eq_self (Effect.did_of_nothing hdeed a) hcounted

theorem quiet_closed : Closed fun _ p => p.Quiet where
  done _ _ := rfl
  andThen hp hf t := .bind (hp.leads fun b => hf b t)
  passive h := quiet_perform (Effect.deed_of_isPassive h) (Effect.counted_of_isPassive h)

end Plan

namespace World

/-- Everything that a plan makes, whether it stays or not. -/
def creates (w : World) (p : Plan α) : List Creation :=
  (w.heard p).filterMap fun x => (x.1.did x.2).made?

theorem events_handle (w : World) (e : Effect) :
    (handle e w).2.events = w.events ++ e.counted := by
  cases e with
  | count event => rfl
  | broker c | registry c | drawPassword | readClock => exact (List.append_nil _).symm

/-- A plan that is carried out leads to its result and to what has become of the world. -/
theorem leads_runPlan {Q : α → Tally → Prop} {p : Plan α} {made : List Creation} {w : World}
    (h : p.Leads Q ⟨made, w.has, w.events⟩) :
    Q (w.runPlan p).1 ⟨made ++ w.creates p, (w.runPlan p).2.has, (w.runPlan p).2.events⟩ := by
  -- by induction on the plan: an effect makes of the tally of a world that of the world after it
  induction p generalizing w made with
  | done a =>
    have hcreates : made ++ w.creates (.done a) = made := List.append_nil made
    rw [hcreates]
    exact h
  | step e next ih =>
    have hnext := h (handle e w).1
    rw [Tally.after, ← has_handle, ← events_handle] at hnext
    have hrest := ih _ hnext
    rw [List.append_assoc] at hrest
    have hcreates : w.creates (.step e next) = (e.did (handle e w).1).made?.toList ++
        (handle e w).2.creates (next (handle e w).1) := by
      simp only [creates, heard, List.filterMap_cons]
      cases (e.did (handle e w).1).made? <;> rfl
    rw [hcreates]
    exact hrest

end World

/-! ## Workflows -/

/-- Something was made and is there, and nothing was counted since. -/
structure Tally.Made (t : Tally) (k : Creation) (t' : Tally) : Prop where
  made : t'.made = t.made ++ [k]
  has : t'.has k = true
  events : t'.events = t.events

/-- Something was made and the workflow gave up, and if the thing is still there, that was counted
as well. -/
structure Tally.GaveUp (t : Tally) (k : Creation) (t' : Tally) : Prop where
  made : t'.made = t.made ++ [k]
  events : t'.events = t.events ++
    ((if t'.has k then [.compensationFailed k.workflow] else []) ++ [.compensated k.workflow])

/-- How a workflow ends: completed, given up, or failed before anything was made. -/
def Tally.Ended (t : Tally) (workflow : String) : Except Failure α → Tally → Prop
  | .ok _, t' => t'.events = t.events ++ [.completed workflow]
  | .error _, t' => (t'.made = t.made ∧ t'.events = t.events) ∨
      ∃ k, k.workflow = workflow ∧ t.GaveUp k t'

theorem Tally.Ended.of_same {t t₁ t₂ : Tally} {workflow : String} {x : Except Failure α}
    (hmade : t₁.made = t.made) (hevents : t₁.events = t.events) (h : t₁.Ended workflow x t₂) :
    t.Ended workflow x t₂ := by
  cases x with
  | ok a => exact h.trans (congrArg (· ++ _) hevents)
  | error e =>
    rcases h with h | ⟨k, hk, h⟩
    · exact .inl ⟨h.1.trans hmade, h.2.trans hevents⟩
    · exact .inr ⟨k, hk, hmade ▸ h.made, hevents ▸ h.events⟩

/-- How a step of a workflow ends that has made something. -/
def Tally.Stepped (t : Tally) (k : Creation) : Except Failure α → Tally → Prop
  | .ok _, t' => t.Made k t'
  | .error _, t' => t.GaveUp k t'

section Procedures

open Plan

variable {t t₁ : Tally} {k : Creation} {workflow : String} {p : Procedure α} {f : α → Procedure β}

/-- Until something is made there is nothing to count. -/
private theorem quietly_before (hp : Quiet p.run) (hf : ∀ a, (f a).run.Leads (t.Ended workflow) t) :
    (p >>= f).run.Leads (t.Ended workflow) t :=
  .bind (hp.leads fun
    | .ok a => hf a
    | .error _ => .inl ⟨rfl, rfl⟩)

private theorem quietly_given {x : Except Failure α}
    (h : ∀ a, x = .ok a → (f a).run.Leads (t.Ended workflow) t) :
    (ofExcept x >>= f : Procedure β).run.Leads (t.Ended workflow) t := by
  cases x with
  | ok a => exact h a rfl
  | error _ => exact .inl ⟨rfl, rfl⟩

/-- A step that gives up when it fails may be followed by another. -/
private theorem stepped_bind (hp : p.run.Leads (t.Stepped k) t₁)
    (hf : ∀ a t₂, t.Made k t₂ → (f a).run.Leads (t.Ended k.workflow) t₂) :
    (p >>= f).run.Leads (t.Ended k.workflow) t₁ :=
  .bind (hp.mono fun
    | .ok a, t₂, h => hf a t₂ h
    | .error _, _, h => .inr ⟨k, rfl, h⟩)

/-- Taking back fails exactly if the thing stays. -/
private theorem takeBack_leads (h : t.Made k t₁) :
    k.takeBack.Leads (fun done t' => t'.has k = !done ∧ t'.made = t.made ++ [k] ∧
      t'.events = t.events) t₁ := by
  rw [← h.made, ← h.events]
  cases k with
  | exchange vhost name | queue vhost name | callback id =>
    intro a
    have hmade := t₁.after_of_not_made (a := a) (by cases a <;> rfl) rfl
    exact ⟨Tally.has_after_remove rfl a h.has, hmade⟩

private theorem guarded_leads (h : t.Made k t₁) (hp : Quiet p.run) :
    (((Saga.begin k.workflow).onFailure k).guarded p).run.Leads (t.Stepped k) t₁ := by
  refine .bind (.bind (.bind (hp.leads fun x => ?_)))
  cases x with
  | ok a => exact h
  | error e =>
    -- one thing is pending, so the saga takes it back and counts once or twice
    refine .bind (.bind (.bind ((takeBack_leads h).mono fun done t₂ h₂ => ?_)))
    obtain ⟨hhas, hmade, hevents⟩ := h₂
    cases done with
    | true =>
      intro u
      rw [Tally.after_count]
      exact ⟨hmade, by simp [hhas, hevents, Saga.begin, Saga.onFailure]⟩
    | false =>
      intro u u'
      rw [Tally.after_count, Tally.after_count]
      exact ⟨hmade, by simp [hhas, hevents, Saga.begin, Saga.onFailure]⟩

private theorem bindFanOut_leads (vhost exchange : String) (pairs : List (String × String))
    (h : t.Made k t₁) :
    (bindFanOut ((Saga.begin k.workflow).onFailure k) vhost exchange pairs).run.Leads
      (t.Stepped k) t₁ := by
  induction pairs generalizing t₁ with
  | nil => exact h
  | cons pair pairs ih =>
    obtain ⟨queue, key⟩ := pair
    have hbind : Quiet (Procedure.require (.bindQueue vhost exchange queue key)
        (.remote "Queue binding failed")).run :=
      quiet_closed.require (quiet_perform rfl rfl) _
    refine .bind ((guarded_leads h hbind).mono fun x t₂ h₂ => ?_)
    cases x with
    | ok a => exact ih h₂
    | error e => exact h₂

private theorem complete_leads (h : t.Made k t₁) :
    (liftM (((Saga.begin k.workflow).onFailure k).complete : Plan Unit) : Procedure Unit).run.Leads
      (t.Ended k.workflow) t₁ := by
  intro u
  rw [Tally.after_count]
  exact congrArg (· ++ [.completed k.workflow]) h.events

/-- What comes after the end is only an answer. -/
private theorem ended_bind {g : α → β} (hp : p.run.Leads (t.Ended workflow) t₁) :
    (p >>= fun a => (pure (g a) : Procedure β)).run.Leads (t.Ended workflow) t₁ :=
  .bind (hp.mono fun
    | .ok _, _, h => h
    | .error _, _, h => h)

/-- What was made is there. -/
private theorem made_after {e : Effect} {a : e.Answer} (hdid : e.did a = .make k)
    (hcounted : e.counted = []) : t.Made k (t.after e a) := by
  constructor <;> simp [Tally.after, hdid, hcounted, Deed.made?, Deed.enter]

end Procedures

/-! ### The operations -/

section Operations

open Plan

variable {s : Settings} {t : Tally}

private theorem ensureUser_quiet (u v : String) : Quiet (ensureUser u v).run :=
  ensureUser_closed quiet_closed fun _ he => by cases he <;> exact quiet_perform rfl rfl

private theorem updatePermissions_quiet (v u : String) (edit : Access.Edit) (resource : String) :
    Quiet (updatePermissions v u edit resource).run :=
  updatePermissions_closed quiet_closed (fun _ => quiet_perform rfl rfl) edit resource

private theorem bindKeys_quiet (vhost queue : String) (keys : List String) :
    Quiet (bindKeys vhost queue keys).run :=
  bindKeys_closed quiet_closed (fun _ _ => quiet_perform rfl rfl) keys

theorem registerAdaptor_leads (r : RegisterAdaptor) :
    (registerAdaptor s r).run.Leads (t.Ended "register_adaptor") t := by
  unfold registerAdaptor
  refine quietly_given fun id _ => quietly_before (quiet_closed.demand _ _) fun _ => ?_
  refine quietly_before (ensureUser_quiet _ _) fun credentials a => ?_
  cases a with
  | error e => cases e <;> exact .inl (t.after_of_not_made rfl rfl)
  | ok _ =>
    have hmade := made_after (t := t) (e := .broker (.createExchange (s.vhostOr r.vhost) id.text))
      (a := .ok ()) rfl rfl
    refine stepped_bind (guarded_leads hmade (updatePermissions_quiet _ _ _ _)) fun _ t₂ h₂ => ?_
    refine stepped_bind (bindFanOut_leads _ _ _ h₂) fun _ t₃ h₃ => ?_
    exact ended_bind (complete_leads h₃)

private theorem provisionStream_leads (id consumer : String) (entities : List String) :
    (provisionStream s id consumer entities).run.Leads (t.Ended "streaming_subscription") t := by
  intro a
  cases a with
  | error e => cases e <;> exact .inl (t.after_of_not_made rfl rfl)
  | ok _ =>
    have hmade := made_after (t := t) (e := .broker (.createQueue s.dataVhost id)) (a := .ok ())
      rfl rfl
    refine stepped_bind (guarded_leads hmade (bindKeys_quiet _ _ _)) fun _ t₂ h₂ => ?_
    refine stepped_bind (guarded_leads h₂ (updatePermissions_quiet _ _ _ _)) fun _ t₃ h₃ => ?_
    exact complete_leads h₃

private theorem subscribe_leads (s : Settings) (id consumer : String) (entities : List String) :
    (do
      let credentials ← ensureUser consumer s.internalVhost
      provisionStream s id consumer entities
      return streamingAccess s id credentials : Procedure _).run.Leads
        (t.Ended "streaming_subscription") t :=
  quietly_before (ensureUser_quiet _ _) fun _ => ended_bind (provisionStream_leads _ _ _)

theorem registerStreaming_leads (r : StreamingRequest) :
    (registerStreaming s r).run.Leads (t.Ended "streaming_subscription") t := by
  unfold registerStreaming
  refine quietly_before (quiet_closed.demand _ _) fun _ => quietly_given fun id _ => ?_
  exact subscribe_leads s id r.consumer r.entities

/-- The queue that is deleted first was not made by the workflow, so nothing is counted for it. -/
theorem updateStreaming_leads (r : StreamingRequest) :
    (updateStreaming s r).run.Leads (t.Ended "streaming_subscription") t := by
  unfold updateStreaming
  refine quietly_before (quiet_closed.demand _ _) fun _ => quietly_given fun id _ a => ?_
  obtain ⟨hmade, hevents⟩ := t.after_of_not_made (a := a) (by cases a <;> rfl) rfl
  have hrest := (subscribe_leads (t := t.after _ a) s id r.consumer r.entities).mono
    fun _ _ h => h.of_same hmade hevents
  cases a with
  | ok _ => exact hrest
  | error e =>
    cases e with
    | notFound what => exact hrest
    | _ => exact .inl ⟨hmade, hevents⟩

theorem registerCallback_leads (r : CallbackRequest) :
    (registerCallback s r).run.Leads (t.Ended "callback_subscription") t := by
  unfold registerCallback
  refine quietly_before (quiet_closed.demand _ _) fun _ => ?_
  refine quietly_before (quiet_closed.demand _ _) fun _ => quietly_given fun id _ => ?_
  refine quietly_before (quiet_closed.registry (quiet_perform rfl rfl)) fun found => ?_
  split
  · exact .inl ⟨rfl, rfl⟩
  · refine quietly_before (bindKeys_quiet _ _ _) fun _ => ?_
    refine quietly_before quiet_closed.readClock fun now a => ?_
    cases a with
    | error e => cases e <;> exact .inl (t.after_of_not_made rfl rfl)
    | ok _ =>
      have hnotify : Quiet (notify s ⟨id, .create⟩).run :=
        notify_closed quiet_closed (fun _ _ => quiet_perform rfl rfl) _
      have hmade := made_after (t := t)
        (e := .registry (.insertCallback ⟨id, r.callbackUrl, r.entities, now, now, now⟩))
        (a := .ok ()) rfl rfl
      refine stepped_bind (guarded_leads hmade hnotify) fun _ t₂ h₂ => ?_
      exact ended_bind (complete_leads h₂)
  · exact .inl ⟨rfl, rfl⟩

end Operations

/-- The workflow that an operation goes through. -/
def Operation.workflow? : Operation → Option String
  | .registerAdaptor _ => some "register_adaptor"
  | .registerStreaming _ | .updateStreaming _ => some "streaming_subscription"
  | .registerCallback _ => some "callback_subscription"
  | _ => none

theorem Operation.procedure_leads {op : Operation} {workflow : String}
    (h : op.workflow? = some workflow) (s : Settings) (t : Tally) :
    (op.procedure s).run.Leads (t.Ended workflow) t := by
  cases op with
  | registerAdaptor r => cases h; exact registerAdaptor_leads r
  | registerStreaming r => cases h; exact registerStreaming_leads r
  | updateStreaming r => cases h; exact updateStreaming_leads r
  | registerCallback r => cases h; exact registerCallback_leads r
  | _ => cases h

/-- Outside the workflows nothing is counted. -/
theorem events_run {op : Operation} (h : op.workflow? = none) (w : World) (s : Settings) :
    (w.run s op).2.events = w.events := by
  have hstep {e : Effect} (he : e.counted = []) (w' : World) (hw' : w'.events = w.events) :
      (World.handle e w').2.events = w.events := by
    rw [World.events_handle, he, List.append_nil, hw']
  have hC := World.closed_preserves (P := fun w' => w'.events = w.events)
    fun e he => hstep (Effect.counted_of_isPassive he)
  refine Operation.procedure_closed hC s op (fun u v _ => ?_) (fun u _ => ?_) (fun e he => ?_) w rfl
  · exact ensureUser_closed hC fun e he => hstep (by cases he <;> rfl)
  · exact resetPassword_closed hC fun e he => hstep (by cases he <;> rfl)
  · exact hstep (by cases he <;> first | rfl | cases h)

/-! ## Attempts -/

/-- An operation, and the world in which it is carried out. -/
structure Attempt where
  world : World
  op : Operation

namespace Attempt

variable (s : Settings) (c : Attempt)

/-- The world afterwards. -/
def after : World := (c.world.run s c.op).2

def succeeded : Bool := (c.world.run s c.op).1.isOk

/-- Everything that was made, whether it was taken back or not. -/
def made : List Creation := c.world.creates (c.op.procedure s).run

def isFor (workflow : String) : Bool := c.op.workflow? = some workflow

/-- A thing of the workflow's kind was made, and then the operation failed. -/
def gaveUp (workflow : String) : Bool :=
  !c.succeeded s && (c.made s).any fun k => k.workflow = workflow

/-- A thing of the workflow's kind was made and is there afterwards. -/
def leftBehind (workflow : String) : Bool :=
  (c.made s).any fun k => k.workflow = workflow && (c.after s).has k

/-- What is to be counted. -/
def events : List Event :=
  match c.op.workflow? with
  | none => []
  | some workflow =>
    if c.succeeded s then [.completed workflow]
    else if c.gaveUp s workflow then
      (if c.leftBehind s workflow then [.compensationFailed workflow] else []) ++
        [.compensated workflow]
    else []

theorem events_after : (c.after s).events = c.world.events ++ c.events s := by
  cases hworkflow : c.op.workflow? with
  | none =>
    rw [events, hworkflow, List.append_nil]
    exact events_run hworkflow c.world s
  | some workflow =>
    have hends : Tally.Ended ⟨[], c.world.has, c.world.events⟩ workflow (c.world.run s c.op).1
        ⟨c.made s, (c.after s).has, (c.after s).events⟩ :=
      World.leads_runPlan (Operation.procedure_leads hworkflow s _)
    simp only [events, hworkflow]
    cases hresult : (c.world.run s c.op).1 with
    | ok a =>
      have hsucceeded : c.succeeded s = true := by rw [succeeded, hresult]; rfl
      rw [hresult] at hends
      rw [if_pos hsucceeded]
      exact hends
    | error f =>
      have hfailed : c.succeeded s = false := by rw [succeeded, hresult]; rfl
      rw [hresult] at hends
      rw [hfailed, if_neg Bool.false_ne_true]
      rcases hends with ⟨hmade, hevents⟩ | ⟨k, hk, hmade, hevents⟩
      -- nothing was made before the failure
      · have hmade : c.made s = [] := hmade
        rw [gaveUp, hmade]
        simpa using hevents
      -- the workflow gave up on the one thing that was made
      · have hmade : c.made s = [k] := hmade
        rw [gaveUp, leftBehind, hmade, hfailed]
        subst hk
        simpa using hevents

/-- Whether the operation is to be counted as an event. -/
def countsAs (event : Event) : Bool :=
  match event with
  | .completed workflow => c.succeeded s && c.isFor workflow
  | .compensated workflow => c.gaveUp s workflow && c.isFor workflow
  | .compensationFailed workflow =>
    c.gaveUp s workflow && c.leftBehind s workflow && c.isFor workflow

theorem gaveUp_of_succeeded (h : c.succeeded s = true) (workflow : String) :
    c.gaveUp s workflow = false := by
  rw [gaveUp, h]
  rfl

theorem count_events (event : Event) :
    (c.events s).count event = if c.countsAs s event then 1 else 0 := by
  cases hworkflow : c.op.workflow? with
  | none => cases event <;> simp [events, countsAs, isFor, hworkflow]
  | some workflow =>
    simp only [events, hworkflow]
    cases hsucceeded : c.succeeded s with
    | true =>
      have hgaveUp := c.gaveUp_of_succeeded s hsucceeded
      cases event <;> simp [countsAs, isFor, hworkflow, hsucceeded, hgaveUp, List.count_cons]
    | false =>
      cases hgaveUp : c.gaveUp s workflow with
      | true =>
        cases hleft : c.leftBehind s workflow <;> cases event <;>
          simp [countsAs, isFor, hworkflow, hsucceeded, List.count_cons] <;> grind
      | false => cases event <;> simp [countsAs, isFor, hworkflow, hsucceeded] <;> grind

theorem count_flatMap_events (attempts : List Attempt) (event : Event) :
    (attempts.flatMap (Attempt.events s)).count event =
      attempts.countP fun c => c.countsAs s event := by
  induction attempts with
  | nil => rfl
  | cons c attempts ih =>
    rw [List.flatMap_cons, List.count_append, count_events, ih, List.countP_cons, Nat.add_comm]

end Attempt

/-! ## Runs -/

namespace World

/-- The operations of a run, each with the world in which it is carried out. -/
def attempts (w : World) (s : Settings) : List Move → List Attempt
  | [] => []
  | .perform op :: moves => ⟨w, op⟩ :: (w.run s op).2.attempts s moves
  | mv :: moves => (w.move s mv).attempts s moves

theorem events_run_append (w : World) (s : Settings) (moves : List Move) :
    (w.after s moves).events = w.events ++ (w.attempts s moves).flatMap (Attempt.events s) := by
  induction moves generalizing w with
  | nil => exact (List.append_nil _).symm
  | cons mv moves ih =>
    change ((w.move s mv).after s moves).events = _
    rw [ih]
    cases mv with
    | perform op =>
      have hop := Attempt.events_after s ⟨w, op⟩
      rw [attempts, List.flatMap_cons, ← List.append_assoc, ← hop]
      rfl
    | setFaults f => rfl
    | rejectWrites reject => rfl

end World

/-- Over any run, in which anything may be made to fail, a workflow is counted as completed once for
each of its operations that succeeded, and as compensated once for each that made something and then
failed. The compensations counted as failed are those after which what was made is still there. -/
theorem counters_account_for_outcomes (s : Settings) (w : World) (moves : List Move)
    (workflow : String) :
    let events := (w.after s moves).events
    let attempts := (w.attempts s moves).filter (·.isFor workflow)
    events.count (.completed workflow) =
        w.events.count (.completed workflow) + attempts.countP (·.succeeded s) ∧
      events.count (.compensated workflow) =
        w.events.count (.compensated workflow) + attempts.countP (·.gaveUp s workflow) ∧
      events.count (.compensationFailed workflow) =
        w.events.count (.compensationFailed workflow) +
          attempts.countP fun c => c.gaveUp s workflow && c.leftBehind s workflow := by
  intro events attempts
  have hcount (event : Event) : events.count event =
      w.events.count event + (w.attempts s moves).countP fun c => c.countsAs s event := by
    rw [← Attempt.count_flatMap_events, ← List.count_append, ← World.events_run_append]
  simp only [hcount, attempts, List.countP_filter]
  exact ⟨rfl, rfl, rfl⟩

/-- The exchange is made, a binding fails, and the exchange cannot be deleted again. -/
example :
    let now : Timestamp := ⟨⟨2024, 1, 1, by decide⟩, 0, 0, 0, by decide⟩
    let register : Move := .perform (.registerAdaptor ⟨"org/group/server/item", "alice", none⟩)
    ((World.new (fun _ => "secret") now).after {} [.perform .bootstrap,
      .setFaults { bindToQueues := ["database"], deleteExchange := true }, register,
      .setFaults {}, register]).events =
        [.compensationFailed "register_adaptor", .compensated "register_adaptor"] := by
  decide +kernel

end BrokerControl.Control
