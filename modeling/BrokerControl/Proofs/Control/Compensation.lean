import BrokerControl.Proofs.Control.Custody
import BrokerControl.Proofs.Control.Interleaving

/-! # Registrations at the same time

Several registrations take turns on one world, and calls of theirs are made to fail. Whoever made
the last thing of a name holds it, so what is taken back was made by the one that takes it back. -/

namespace BrokerControl.Control

variable {ι : Type}

/-! ## The book -/

/-- For everything that the turns have made and not removed, the request that made it. -/
def makers (turns : List (Turn ι)) : Creation → Option ι :=
  turns.foldl (fun book t => (t.effect.did t.answer).enter (some t.request) none book)
    fun _ => none

theorem makers_concat (turns : List (Turn ι)) (t : Turn ι) :
    makers (turns ++ [t]) = (t.effect.did t.answer).enter (some t.request) none (makers turns) := by
  simp [makers]

/-- A book of who made what tallies with what each request holds and with what exists, given what
existed in the beginning. -/
structure Balanced (initial : Creation → Bool) (book : Creation → Option ι)
    (held : ι → Option Creation) (has : Creation → Bool) : Prop where
  held_iff : ∀ k i, book k = some i ↔ held i = some k
  has_eq : ∀ k, has k = (initial k || (book k).isSome)
  new : ∀ k, (book k).isSome = true → initial k = false

theorem Balanced.enter [DecidableEq ι] {initial has : Creation → Bool} {book : Creation → Option ι}
    {held : ι → Option Creation} (h : Balanced initial book held has) {d : Deed} {i : ι}
    (hallowed : d.Allowed (held i)) (hnew : ∀ k, d = .make k → has k = false) :
    Balanced initial (d.enter (some i) none book) (Function.update held i (d.held (held i)))
      (d.enter true false has) := by
  have hheld := h.held_iff
  have hhas := h.has_eq
  have hinitial := h.new
  cases d with
  | nothing =>
    rw [Deed.held, Function.update_eq_self]
    exact h
  | make k =>
    have hfree : held i = none := hallowed
    have habsent : has k = false := hnew k rfl
    refine ⟨fun k' j => ?_, fun k' => ?_, fun k' => ?_⟩
    all_goals
      simp only [Deed.enter, Deed.held, Function.update_apply]
      grind
  | remove k =>
    have hmine : held i = some k := hallowed
    have hbook : book k = some i := (hheld k i).2 hmine
    refine ⟨fun k' j => ?_, fun k' => ?_, fun k' => ?_⟩
    all_goals
      simp only [Deed.enter, Deed.held, Function.update_apply]
      grind

/-! ## Turns -/

namespace World

variable {w : World} {m : Option Mishap} {e : Effect} {k : Creation}

/-- A call that is made to fail does nothing, and is not one that removes. -/
theorem reply_eq_or (w : World) (m : Option Mishap) (e : Effect) :
    w.reply m e = handle e w ∨
      ((w.reply m e).2 = w ∧ e.succeeded (w.reply m e).1 = false ∧ ∀ k, e.deed ≠ .remove k) := by
  cases m with
  | none => exact .inl rfl
  | some m =>
    cases e with
    | broker c => cases c <;> first | exact .inl rfl | exact .inr ⟨rfl, rfl, nofun⟩
    | registry c => cases c <;> first | exact .inl rfl | exact .inr ⟨rfl, rfl, nofun⟩
    | drawPassword | readClock | count event => exact .inl rfl

theorem has_reply (w : World) (m : Option Mishap) (e : Effect) :
    (w.reply m e).2.has = (e.did (w.reply m e).1).enter true false w.has := by
  rcases w.reply_eq_or m e with h | ⟨hw, hfailed, -⟩
  · rw [h]
    exact has_handle w e
  · rw [hw, Effect.did_of_not_succeeded hfailed]
    rfl

theorem canRemove_reply : (w.reply m e).2.CanRemove k ↔ w.CanRemove k := by
  rcases w.reply_eq_or m e with h | ⟨hw, -, -⟩
  · rw [h]
    exact canRemove_handle
  · rw [hw]

/-- What a call makes was not there, and a row that it makes can be removed. -/
theorem of_reply_made (h : e.did (w.reply m e).1 = .make k) :
    w.has k = false ∧ ∀ id, k = .callback id → w.CanRemove k := by
  obtain ⟨hok, hdeed⟩ := Effect.of_did_make h
  rcases w.reply_eq_or m e with hreply | ⟨-, hfailed, -⟩
  · rw [hreply] at hok
    refine ⟨absent_of_made hdeed hok, ?_⟩
    rintro id rfl
    exact canRemove_of_made hdeed hok
  · cases hfailed.symm.trans hok

theorem reply_removes (h : e.deed = .remove k) (hhas : w.has k = true) (hcan : w.CanRemove k) :
    e.succeeded (w.reply m e).1 = true := by
  rcases w.reply_eq_or m e with hreply | ⟨-, -, hdeed⟩
  · rw [hreply]
    exact removes_of_has h hhas hcan
  · exact absurd h (hdeed k)

end World

/-- How requests stand that have taken turns, with what each of them holds. -/
structure Accounted (s : Settings) (w : World) (requests : ι → Registration)
    (held : ι → Option Creation) (c : Crowd ι fun i => (requests i).operation.Result) : Prop where
  custody : ∀ i, (c.rest i).Custody (Holds ((requests i).creation? s)) (held i)
  balanced : Balanced w.has (makers c.turns) held c.world.has
  canRemove_iff : ∀ k, c.world.CanRemove k ↔ w.CanRemove k
  /-- What is held can be removed. -/
  canRemove : ∀ i k, held i = some k → w.CanRemove k
  /-- Every request has removed only what it had made, and never in vain. -/
  own : ∀ before t k, before ++ [t] <+: c.turns → t.effect.deed = .remove k →
    makers before k = some t.request ∧ t.effect.succeeded t.answer = true

variable {s : Settings} {w : World} {requests : ι → Registration} {held : ι → Option Creation}
  {c : Crowd ι fun i => (requests i).operation.Result}

theorem Accounted.start (s : Settings) (w : World) (requests : ι → Registration) :
    Accounted s w requests (fun _ => none)
      (.start w fun i => (requests i).operation.procedure s) where
  custody i := (requests i).custody
  balanced := ⟨fun _ _ => ⟨nofun, nofun⟩, fun k => (Bool.or_false _).symm, nofun⟩
  canRemove_iff _ := .rfl
  canRemove := nofun
  own before t k h := by simp [Crowd.start] at h

theorem Accounted.has_of_held (h : Accounted s w requests held c) {i : ι} {k : Creation}
    (hheld : held i = some k) : c.world.has k = true := by
  rw [h.balanced.has_eq, (h.balanced.held_iff k i).2 hheld]
  exact Bool.or_true _

theorem Accounted.of_succeeded (h : Accounted s w requests held c) {i : ι} (hi : c.Succeeded i) :
    (held i).isSome = true ∧ held i = (requests i).creation? s := by
  obtain ⟨a, ha⟩ := Crowd.succeeded_iff.1 hi
  have hcustody := h.custody i
  rwa [ha] at hcustody

theorem Accounted.succeeded_of_held (h : Accounted s w requests held c) {i : ι} {k : Creation}
    (hheld : held i = some k) (hi : c.Returned i) : c.Succeeded i := by
  have hcustody := h.custody i
  unfold Crowd.Returned at hi
  unfold Crowd.Succeeded
  split at hi
  · next x hrest =>
    rw [hrest] at hcustody ⊢
    cases x with
    | ok a => trivial
    | error f => cases hheld.symm.trans hcustody
  · exact hi.elim

section Works

variable [DecidableEq ι] (hexchange : w.broker.faults.deleteExchange = false)
  (hqueue : w.broker.faults.deleteQueue = false)

include hexchange hqueue

omit [DecidableEq ι] in
/-- What a call makes can be removed again. -/
private theorem Accounted.canRemove_of_made (h : Accounted s w requests held c) {e : Effect}
    {m : Option Mishap} {k : Creation} (hmade : e.did (c.world.reply m e).1 = .make k) :
    w.CanRemove k := by
  cases k with
  | exchange vhost name => exact hexchange
  | queue vhost name => exact hqueue
  | callback id => exact (h.canRemove_iff _).1 ((World.of_reply_made hmade).2 id rfl)

/-- One effect of one request. -/
private theorem Accounted.step (h : Accounted s w requests held c) {i : ι} {e : Effect}
    {next : e.Answer → Plan (Except Failure (requests i).operation.Result)}
    (hrest : c.rest i = .step e next) (m : Option Mishap) :
    Accounted s w requests
      (Function.update held i ((e.did (c.world.reply m e).1).held (held i))) (c.turn i m) := by
  have hcustody := h.custody i
  rw [hrest] at hcustody
  obtain ⟨hallowed, hnext⟩ := hcustody
  have hremoves (k : Creation) (hk : e.deed = .remove k) :
      e.succeeded (c.world.reply m e).1 = true := by
    rw [hk] at hallowed
    have hcan := (h.canRemove_iff k).2 (h.canRemove i k hallowed)
    exact World.reply_removes hk (h.has_of_held hallowed) hcan
  rw [Crowd.turn_of_step hrest]
  constructor
  case custody =>
    intro j
    by_cases hj : j = i
    · subst hj
      simp only [Function.update_self]
      exact hnext _ hremoves
    · simp only [Function.update_of_ne hj]
      exact h.custody j
  case balanced =>
    rw [makers_concat, World.has_reply]
    exact h.balanced.enter (Effect.did_allowed hallowed _) fun k hk => (World.of_reply_made hk).1
  case canRemove_iff => exact fun k => World.canRemove_reply.trans (h.canRemove_iff k)
  case canRemove =>
    intro j k hk
    by_cases hj : j = i
    · subst hj
      rw [Function.update_self] at hk
      cases hdid : e.did (c.world.reply m e).1 with
      | nothing => exact h.canRemove j k (by rwa [hdid] at hk)
      | make k' =>
        rw [hdid] at hk
        cases hk
        exact h.canRemove_of_made hexchange hqueue hdid
      | remove k' =>
        rw [hdid] at hk
        cases hk
    · rw [Function.update_of_ne hj] at hk
      exact h.canRemove j k hk
  case own =>
    intro before t k hbefore hk
    rcases List.prefix_concat_iff.1 hbefore with hlast | hearlier
    · obtain ⟨rfl, ht⟩ := List.append_inj' hlast rfl
      cases ht
      exact ⟨(h.balanced.held_iff k i).2 (by rwa [hk] at hallowed), hremoves k hk⟩
    · exact h.own before t k hearlier hk

/-- However the requests take turns, and whichever calls fail. -/
theorem Accounted.after (h : Accounted s w requests held c)
    (schedule : List (ι × Option Mishap)) :
    ∃ held, Accounted s w requests held (c.after schedule) := by
  refine Crowd.after_preserves (P := fun c => ∃ held, Accounted s w requests held c) ?_ ⟨held, h⟩
    schedule
  rintro c i m ⟨held, h⟩
  cases hrest : c.rest i with
  | done x =>
    rw [Crowd.turn_of_done hrest]
    exact ⟨held, h⟩
  | step e next => exact ⟨_, h.step hexchange hqueue hrest m⟩

end Works

/-! ## Runs -/

/-- However registrations take turns and whichever of their calls are made to fail: each removes
only what it made itself, of two that are to make one thing at most one succeeds, and what it made
exists. When all have returned, nothing else is there that was not there before. -/
theorem registrations_undo_own_work [DecidableEq ι]
    (hexchange : w.broker.faults.deleteExchange = false)
    (hqueue : w.broker.faults.deleteQueue = false) (s : Settings) (requests : ι → Registration)
    (schedule : List (ι × Option Mishap)) :
    let c := (Crowd.start w fun i => (requests i).operation.procedure s).after schedule
    (∀ before t k, before ++ [t] <+: c.turns → t.effect.deed = .remove k →
        makers before k = some t.request ∧ t.effect.succeeded t.answer = true) ∧
      (∀ i j k, c.Succeeded i → c.Succeeded j → (requests i).creation? s = some k →
        (requests j).creation? s = some k → i = j) ∧
      (∀ i, c.Succeeded i → ∃ k, (requests i).creation? s = some k ∧ c.world.has k = true) ∧
      ((∀ i, c.Returned i) → ∀ k, w.has k = false → c.world.has k = true →
        ∃ i, makers c.turns k = some i ∧ c.Succeeded i ∧ (requests i).creation? s = some k) := by
  intro c
  obtain ⟨held, h⟩ := (Accounted.start s w requests).after hexchange hqueue schedule
  refine ⟨h.own, fun i j k hi hj hik hjk => ?_, fun i hi => ?_, fun hall k hnew hk => ?_⟩
  · have hmaker := (h.balanced.held_iff k i).2 ((h.of_succeeded hi).2.trans hik)
    have hmaker' := (h.balanced.held_iff k j).2 ((h.of_succeeded hj).2.trans hjk)
    exact Option.some.inj (hmaker.symm.trans hmaker')
  · obtain ⟨hsome, heq⟩ := h.of_succeeded hi
    obtain ⟨k, hk⟩ := Option.isSome_iff_exists.1 hsome
    exact ⟨k, heq ▸ hk, h.has_of_held hk⟩
  · rw [h.balanced.has_eq, hnew, Bool.false_or] at hk
    obtain ⟨i, hi⟩ := Option.isSome_iff_exists.1 hk
    have hheld := (h.balanced.held_iff k i).1 hi
    have hsucceeded := h.succeeded_of_held hheld (hall i)
    exact ⟨i, hi, hsucceeded, (h.of_succeeded hsucceeded).2.symm.trans hheld⟩

/-- Two adaptors of one name and a third: the first makes the exchange and loses it again when a
binding fails, the second comes in between and is turned down. -/
theorem registrations_undo_own_work_race :
    let now : Timestamp := ⟨⟨2024, 1, 1, by decide⟩, 0, 0, 0, by decide⟩
    let w := ((World.new (fun _ => "secret") now).run {} .bootstrap).2
    let requests : Fin 3 → Registration := fun
      | 0 => .adaptor ⟨"a/b/c/d", "alice", none⟩
      | 1 => .adaptor ⟨"a/b/c/d", "bob", none⟩
      | 2 => .adaptor ⟨"e/f/g/h", "carol", none⟩
    let mishap : Mishap := ⟨.unexpectedStatus "/api/bindings" 500, .unexpected "down"⟩
    let schedule := List.replicate 7 (0, none) ++ List.replicate 16 (2, none) ++
      List.replicate 7 (1, none) ++ [(0, none), (0, none), (0, some mishap), (0, none), (0, none)]
    let c := (Crowd.start w fun i => (requests i).operation.procedure {}).after schedule
    w.broker.faults = {} ∧ (∀ i, c.Returned i) ∧
      ¬c.Succeeded 0 ∧ ¬c.Succeeded 1 ∧ c.Succeeded 2 ∧
      c.world.has (.exchange "IUDX" "a/b/c/d") = false ∧
      c.world.has (.exchange "IUDX" "e/f/g/h") = true := by
  intro now w requests mishap schedule c
  have hfaults : w.broker.faults = {} := by decide +kernel
  have hnew : w.has (.exchange "IUDX" "a/b/c/d") = false := by decide +kernel
  have hreturned : ∀ i, c.Returned i := by decide +kernel
  have hresults : ¬c.Succeeded 0 ∧ ¬c.Succeeded 1 ∧ c.Succeeded 2 := by decide +kernel
  have htheorem := registrations_undo_own_work (w := w) (by rw [hfaults]) (by rw [hfaults]) {}
    requests schedule
  change _ ∧ _ ∧ (∀ i, c.Succeeded i → ∃ k, (requests i).creation? {} = some k ∧
    c.world.has k = true) ∧ ((∀ i, c.Returned i) → ∀ k, w.has k = false → c.world.has k = true →
      ∃ i, makers c.turns k = some i ∧ c.Succeeded i ∧ (requests i).creation? {} = some k)
    at htheorem
  obtain ⟨-, -, hmade, hnone⟩ := htheorem
  clear_value c w
  obtain ⟨hfirst, hsecond, hthird⟩ := hresults
  refine ⟨hfaults, hreturned, hfirst, hsecond, hthird, ?_, ?_⟩
  · refine Bool.eq_false_iff.2 fun hhas => ?_
    obtain ⟨i, -, hi, hk⟩ := hnone hreturned _ hnew hhas
    match i with
    | 0 => exact hfirst hi
    | 1 => exact hsecond hi
    | 2 => exact absurd hk (by decide)
  · obtain ⟨k, hk, hhas⟩ := hmade 2 hthird
    cases hk
    exact hhas

end BrokerControl.Control
