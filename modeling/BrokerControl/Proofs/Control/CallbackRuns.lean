import BrokerControl.Proofs.Control.Adaptors
import BrokerControl.Proofs.Control.Callbacks
import BrokerControl.Proofs.Control.Runs
import BrokerControl.Proofs.Control.Streaming

/-! # Runs with callback subscriptions

The rows of callback subscriptions are in the registry and what they stand for, the bindings of one
queue, is in the broker. Nothing keeps the two in step but the order in which workflows go about
their work: a row is written after its keys are bound, and taking back a step never takes a binding
of that queue along. -/

namespace BrokerControl.Control

open Access (RoutingKey)
open Broker (Address Binding)

variable {w : World} {s : Settings}

/-- Every row has keys, and the queue of the callbacks carries all of them. -/
def Connected (s : Settings) (w : World) : Prop :=
  ∀ id row, w.registry.callbacks.get? id = some row →
    row.entities ≠ [] ∧ Carries w.broker (callbackAddress s) row.entities

/-- A move that takes bindings of the callbacks away: deleting an adaptor, or the queue itself. -/
def Move.Severs (s : Settings) (w : World) : Move → Prop
  | .perform (.deleteAdaptor r) => ∃ x, (w.run s (.deleteAdaptor r)).1 = .ok x
  | .perform (.deleteStreaming r) =>
    r.subscriptionId = s.callbackQueue ∧ ∃ x, (w.run s (.deleteStreaming r)).1 = .ok x
  | _ => False

/-! ## One operation -/

/-- An operation that does not succeed leaves the topology as it was, if it does so by failing. -/
private theorem topology_of_failed {op : Operation} {ok : op.Result → World → Prop}
    (h : w.Ends (op.procedure s) ok fun _ w' => w'.broker.topology = w.broker.topology)
    (hfails : ¬∃ x, (w.run s op).1 = .ok x) :
    (w.run s op).2.broker.topology = w.broker.topology := by
  rcases hrun : w.run s op with ⟨f | x, w'⟩
  · exact h.of_error hrun
  · exact absurd ⟨x, by rw [hrun]⟩ hfails

/-- Other moves keep the bindings of the callbacks: a registration that is undone deletes an exchange
that nothing was bound to, and the queues of streaming subscriptions have other names. -/
theorem bindings_run (hwell : w.broker.WellFormed) (hs : ¬Segmented s.callbackQueue)
    {op : Operation} (hop : ¬(Move.perform op).Severs s w) :
    ∀ x ∈ w.broker.bindings, x.target = callbackAddress s → x ∈ (w.run s op).2.broker.bindings := by
  intro x hx htarget
  have hkeeps := (w.keeps_run s op).broker.bindings x hx
  have hsame (ht : (w.run s op).2.broker.topology = w.broker.topology) :
      x ∈ (w.run s op).2.broker.bindings := by
    have hbindings : (w.run s op).2.broker.bindings = w.broker.bindings :=
      congrArg Broker.Topology.bindings ht
    rw [hbindings]
    exact hx
  have hother {id consumer name : String} (hid : subscriptionId consumer name = .ok id) :
      id ≠ s.callbackQueue := fun he => hs (he ▸ segmented_of_subscriptionId hid)
  cases op with
  | registerAdaptor r =>
    cases hexists : w.broker.exchanges.contains ⟨s.vhostOr r.vhost, r.adaptorId⟩ with
    | true =>
      exact hsame (((registerAdaptor_of_exists hwell hexists).mono (fun _ _ => False.elim)
        fun _ _ ht => ht).of_both (P := fun _ w' => w'.broker.topology = w.broker.topology))
    | false => exact hkeeps (hwell.source_ne hexists x hx) id id
  | deleteAdaptor r => exact hsame (topology_of_failed (deleteAdaptor_ends r) hop)
  | registerStreaming r =>
    refine hkeeps id (fun hqueue => hother hqueue.2 ?_) id
    exact congrArg Address.name htarget
  | updateStreaming r =>
    refine hkeeps id (fun hqueue => hother hqueue.2 ?_) id
    exact congrArg Address.name htarget
  | deleteStreaming r =>
    by_cases hid : r.subscriptionId = s.callbackQueue
    · exact hsame (topology_of_failed (deleteStreaming_ends r) fun hok => hop ⟨hid, hok⟩)
    · refine hkeeps id (fun hqueue => hid ?_) id
      exact (congrArg Address.name (htarget.symm.trans hqueue)).symm
  | _ => exact hkeeps id id id

/-- Every row was there before, or its keys are bound now. -/
def RowsCarried (s : Settings) (w w' : World) : Prop :=
  ∀ id row, w'.registry.callbacks.get? id = some row →
    w.registry.callbacks.get? id = some row ∨
      row.entities ≠ [] ∧ Carries w'.broker (callbackAddress s) row.entities

private theorem RowsCarried.of_same {w' : World} (h : w'.registry = w.registry) :
    RowsCarried s w w' := fun _ _ hrow => .inl (h ▸ hrow)

private theorem RowsCarried.of_insert {w' : World} {id : String} {new : Registry.Callback}
    (h : w'.registry.callbacks = w.registry.callbacks.insert id new) (hne : new.entities ≠ [])
    (hcarries : Carries w'.broker (callbackAddress s) new.entities) : RowsCarried s w w' := by
  intro id' row hrow
  rw [h, Directory.get?_insert] at hrow
  split at hrow
  · obtain rfl := Option.some.inj hrow
    exact .inr ⟨hne, hcarries⟩
  · exact .inl hrow

/-- An operation that writes a row has bound its keys. -/
theorem rowsCarried_run (s : Settings) (w : World) (op : Operation) :
    RowsCarried s w (w.run s op).2 := by
  have hkept := (w.keeps_run s op).registry.callbacks
  cases op with
  | registerCallback r =>
    refine ((registerCallback_ends r).mono ?_ ?_).of_both (P := fun _ w' => RowsCarried s w w')
    · intro _ w' hend
      obtain ⟨row, -, hentities, hne, -, hcallbacks, hcarries, -⟩ := hend
      rw [← hentities] at hne hcarries
      exact .of_insert hcallbacks hne hcarries
    · exact fun _ _ hend => .of_same hend.registry
  | updateCallback r =>
    refine ((updateCallback_ends r).mono ?_ ?_).of_both (P := fun _ w' => RowsCarried s w w')
    · intro _ w' hend
      obtain ⟨id, ⟨row, -, hne, -, hcallbacks, hcarries⟩, -⟩ := hend
      exact .of_insert hcallbacks hne hcarries
    · intro _ w' hend
      obtain ⟨-, hsame | ⟨id, row, -, hne, -, hcallbacks, hcarries⟩⟩ := hend
      · exact .of_same hsame
      · exact .of_insert hcallbacks hne hcarries
  | deleteCallback r =>
    have hhears : w.Hears (fun _ _ => True) (deleteCallback s r) := fun _ _ => trivial
    refine ((deleteCallback_ends hhears).mono ?_ ?_).of_both (P := fun _ w' => RowsCarried s w w')
    · intro _ w' hend id' row hrow
      obtain ⟨id, -, -, hcallbacks, -⟩ := hend
      rw [hcallbacks, Directory.get?_erase] at hrow
      split at hrow
      · cases hrow
      · exact .inl hrow
    · exact fun _ _ hend => .of_same (congrArg World.registry hend)
  | _ => exact fun i _ hrow => .inl (hkept i id ▸ hrow)

/-! ## Whole runs -/

theorem connected_move (hs : ¬Segmented s.callbackQueue) {mv : Move}
    (h : w.broker.WellFormed ∧ Connected s w) (hmv : ¬mv.Severs s w) :
    (w.move s mv).broker.WellFormed ∧ Connected s (w.move s mv) := by
  obtain ⟨hwell, hconnected⟩ := h
  cases mv with
  | perform op =>
    refine ⟨World.wellFormed_run hwell s op, fun id row hrow => ?_⟩
    rcases rowsCarried_run s w op id row hrow with hold | hnew
    · obtain ⟨hne, hcarries⟩ := hconnected id row hold
      exact ⟨hne, hcarries.mono (bindings_run hwell hs hmv)⟩
    · exact hnew
  | setFaults f => exact ⟨hwell.withFaults f, hconnected⟩
  | rejectWrites reject => exact ⟨hwell, hconnected⟩

/-- After any run from an empty broker and registry that deletes no adaptor and not the queue of the
callbacks, whatever else is asked for and is made to fail, every row has keys, and the queue is bound
to each of them from the exchange it names. -/
theorem callbacks_bound_after (hs : ¬Segmented s.callbackQueue) (passwords : Nat → String)
    (now : Timestamp) {moves : List Move}
    (hmoves : Throughout (fun w mv => w.move s mv) (fun w mv => ¬mv.Severs s w)
      (World.new passwords now) moves) :
    let w := (World.new passwords now).after s moves
    ∀ id row, w.registry.callbacks.get? id = some row →
      row.entities ≠ [] ∧ ∀ text ∈ row.entities, ∃ key : RoutingKey,
        RoutingKey.ofString? text = .ok key ∧
          ⟨s.dataVhost, key.exchange, s.callbackQueue, text⟩ ∈ w.broker.bindings := by
  have hempty : Connected s (World.new passwords now) := by
    intro id row hrow
    cases hrow
  exact (hmoves.foldl (P := fun w => w.broker.WellFormed ∧ Connected s w)
    (fun _ _ h hmv => connected_move hs h hmv) ⟨.new, hempty⟩).2

/-- An update whose announcement fails has bound the new keys all the same. -/
theorem callbacks_bound_after_update :
    let now : Timestamp := ⟨⟨2024, 1, 1, by decide⟩, 0, 0, 0, by decide⟩
    let moves : List Move := [.perform .bootstrap,
      .perform (.registerAdaptor ⟨"org/group/server/item", "alice", none⟩),
      .perform (.registerCallback ⟨"user@org.com", "feed", "http://org.com/feed",
        ["org/group/server/item/a"]⟩),
      .setFaults { publish := true },
      .perform (.updateCallback ⟨"user@org.com", "feed", "", ["org/group/server/item/b"]⟩)]
    let w := (World.new (fun _ => "secret") now).after {} moves
    (w.registry.callbacks.get? "org.com/87f1341caf0852005b8353bdf3bc661feb11b513/feed").map
        (·.entities) = some ["org/group/server/item/b"] ∧
      ⟨"IUDX", "org/group/server/item", "callback.data", "org/group/server/item/b"⟩ ∈
        w.broker.bindings := by
  intro now moves
  have hmoves : Throughout (fun w mv => w.move {} mv) (fun w mv => ¬mv.Severs {} w)
      (World.new (fun _ => "secret") now) moves := by
    simp [moves, Throughout, Move.Severs]
  have hbound := callbacks_bound_after (by decide) (fun _ => "secret") now hmoves
  have hentities : (((World.new (fun _ => "secret") now).after {} moves).registry.callbacks.get?
      "org.com/87f1341caf0852005b8353bdf3bc661feb11b513/feed").map (·.entities) =
        some ["org/group/server/item/b"] := by decide +kernel
  generalize (World.new (fun _ => "secret") now).after {} moves = w at hbound hentities ⊢
  refine ⟨hentities, ?_⟩
  obtain ⟨row, hrow, hkeys⟩ := Option.map_eq_some_iff.1 hentities
  obtain ⟨key, hkey, hx⟩ := (hbound _ row hrow).2 "org/group/server/item/b" (by simp [hkeys])
  have hexchange : key.exchange = "org/group/server/item" := by
    rw [exchange_eq_exchangeOf hkey]
    decide +kernel
  rw [← hexchange]
  exact hx

end BrokerControl.Control
