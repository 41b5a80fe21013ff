import BrokerControl.Proofs.Control.Callbacks
import BrokerControl.Proofs.Control.Runs
import BrokerControl.Proofs.Json.ReadBack
import Mathlib.Computability.RegularExpressions

/-! # The log of announcements

Whoever reads the announcements learns which callback subscriptions there are. Those of one id go
through one life after the other, each from a creation through any number of updates to a deletion;
there is a row as long as the last life has not ended. An operation that fails announces nothing, or
takes its row back. Only a deletion goes on without its announcement, so no announcement may be
refused. -/

namespace BrokerControl.Control

open Broker (Address Message)
open Computability

/-! ## Reading messages -/

namespace Notification

/-- The notification in the body of a message: a text in the single field of an object. -/
def ofBody? (body : ByteArray) : Option Notification :=
  match (String.fromUTF8? body).bind Json.parse? with
  | some (.object [("body", .string text)]) => (Json.decodeText Notification text).toOption
  | _ => none

theorem decodeText_encodeText (n : Notification) :
    Json.decodeText Notification (Json.encodeText n) = .ok n := by
  rw [Json.decodeText_encodeText rfl]
  obtain ⟨id, change⟩ := n
  cases change <;> rfl

theorem parse?_message (n : Notification) :
    Json.parse? n.message = some (.object [("body", .string (Json.encodeText n))]) :=
  Json.parse?_print rfl rfl

theorem parse?_encodeText (n : Notification) :
    Json.parse? (Json.encodeText n) = some (.object
      [("subscriptionID", .string n.subscriptionId), ("operation", .string n.change.name)]) :=
  Json.parse?_print rfl rfl

/-- A message gives back the notification it was made from. -/
theorem ofBody?_message (n : Notification) : ofBody? n.message.toUTF8 = some n := by
  rw [ofBody?, Json.fromUTF8?_toUTF8, Option.bind_some, parse?_message]
  simp only [decodeText_encodeText]
  rfl

/-- The bytes of a message are JSON, with the JSON of the notification in a single field, and no two
notifications have the same bytes. -/
theorem message_decodes (n : Notification) :
    ∃ text : String, String.fromUTF8? n.message.toUTF8 = some n.message ∧
      Json.parse? n.message = some (.object [("body", .string text)]) ∧
      Json.parse? text = some (.object
        [("subscriptionID", .string n.subscriptionId), ("operation", .string n.change.name)]) ∧
      Json.decodeText Notification text = .ok n ∧
      ∀ n' : Notification, n'.message.toUTF8 = n.message.toUTF8 ↔ n' = n := by
  refine ⟨Json.encodeText n, Json.fromUTF8?_toUTF8 n.message, n.parse?_message,
    n.parse?_encodeText, n.decodeText_encodeText, fun n' => ⟨fun h => ?_, fun h => h ▸ rfl⟩⟩
  have hread := n'.ofBody?_message
  rw [h, n.ofBody?_message] at hread
  exact (Option.some.inj hread).symm

/-- The change that a message tells of an id, if it is about that id. -/
def changeFor? (id : String) (m : Message) : Option Change :=
  (ofBody? m.body).bind fun n => if n.subscriptionId = id then some n.change else none

end Notification

variable {w : World} {s : Settings}

/-- The exchange of the announcements. -/
abbrev notificationAddress (s : Settings) : Address := ⟨s.internalVhost, s.notificationExchange⟩

/-- The changes of an id that were announced, in order. -/
def announced (s : Settings) (b : Broker) (id : String) : List Change :=
  (b.messagesAt (notificationAddress s)).filterMap (Notification.changeFor? id)

theorem announced_of_published {b b' : Broker} (h : b'.published = b.published) (id : String) :
    announced s b' id = announced s b id := by
  rw [announced, announced, Broker.messagesAt, Broker.messagesAt, h]

theorem announced_of_announcement {b b' : Broker} {n : Notification}
    (h : b'.published = b.published ++ [announcement s n]) (id : String) :
    announced s b' id = announced s b id ++ if n.subscriptionId = id then [n.change] else [] := by
  have hchange : Notification.changeFor? id (announcement s n) =
      if n.subscriptionId = id then some n.change else none := by
    rw [Notification.changeFor?, announcement, Notification.ofBody?_message, Option.bind_some]
  have hmessages : b'.messagesAt (notificationAddress s) =
      b.messagesAt (notificationAddress s) ++ [announcement s n] := by
    rw [Broker.messagesAt, h, List.filter_append]
    simp [Broker.messagesAt, announcement, Message.address]
  rw [announced, hmessages, List.filterMap_append]
  by_cases hid : n.subscriptionId = id <;> simp [hchange, hid, announced]

/-! ## Lives -/

/-- Lives one after the other, each from a creation through updates to a deletion. -/
def lives : RegularExpression Change :=
  (.char .create * (RegularExpression.char .update).star * .char .delete).star

/-- A life with some number of updates. -/
def life (k : Nat) : List Change := .create :: (List.replicate k .update ++ [.delete])

/-- Every life has ended. -/
def Ended (l : List Change) : Prop := ∃ ks : List Nat, l = (ks.map life).flatten

private theorem replicate_mem_kstar (k : Nat) (c : Change) :
    List.replicate k c ∈ ({[c]} : Language Change)∗ := by
  refine Language.mem_kstar.2 ⟨List.replicate k [c], ?_, fun y hy => (List.mem_replicate.1 hy).2⟩
  induction k with
  | zero => rfl
  | succ k ih => rw [List.replicate_succ, ih]; rfl

theorem Ended.mem_lives {l : List Change} (h : Ended l) : l ∈ lives.matches' := by
  obtain ⟨ks, rfl⟩ := h
  refine Language.mem_kstar.2 ⟨ks.map life, rfl, fun y hy => ?_⟩
  obtain ⟨k, -, rfl⟩ := List.mem_map.1 hy
  exact ⟨_, ⟨_, rfl, _, replicate_mem_kstar k .update, rfl⟩, _, rfl, rfl⟩

/-- A last life goes on after those that have ended. -/
def Ongoing (l : List Change) : Prop :=
  ∃ old k, Ended old ∧ l = old ++ .create :: List.replicate k .update

theorem Ended.nil : Ended [] := ⟨[], rfl⟩

theorem Ended.create {l : List Change} (h : Ended l) : Ongoing (l ++ [.create]) := ⟨l, 0, h, rfl⟩

theorem Ongoing.update {l : List Change} (h : Ongoing l) : Ongoing (l ++ [.update]) := by
  obtain ⟨old, k, hold, rfl⟩ := h
  refine ⟨old, k + 1, hold, ?_⟩
  rw [List.replicate_succ', List.append_assoc, List.cons_append]

theorem Ongoing.delete {l : List Change} (h : Ongoing l) : Ended (l ++ [.delete]) := by
  obtain ⟨old, k, ⟨ks, rfl⟩, rfl⟩ := h
  refine ⟨ks ++ [k], ?_⟩
  simp [life]

/-- The last change of lives that have all ended is a deletion. -/
theorem Ended.eq_delete {l : List Change} (h : Ended l) {c : Change} (hc : c ∈ l.getLast?) :
    c = .delete := by
  obtain ⟨ks, rfl⟩ := h
  induction ks using List.reverseRecOn with
  | nil => cases hc
  | append_singleton ks k =>
    have hlast : ((ks ++ [k]).map life).flatten =
        ((ks.map life).flatten ++ .create :: List.replicate k .update) ++ [.delete] := by
      simp [life]
    rw [hlast, List.getLast?_concat] at hc
    exact (Option.some.inj hc).symm

theorem Ongoing.getLast? {l : List Change} (h : Ongoing l) :
    l.getLast? = some .create ∨ l.getLast? = some .update := by
  obtain ⟨old, k, -, rfl⟩ := h
  cases k with
  | zero => simp
  | succ k =>
    rw [List.replicate_succ', ← List.cons_append, ← List.append_assoc, List.getLast?_concat]
    exact .inr rfl

/-! ## One operation -/

/-- Whether an answer is other than the refusal of an announcement. -/
def Effect.isUnrefused (s : Settings) : (e : Effect) → e.Answer → Bool
  | .broker (.publish vhost exchange _ _), answer =>
    decide (⟨vhost, exchange⟩ ≠ notificationAddress s) || answer.isOk
  | _, _ => true

def Operation.isHeartbeat : Operation → Bool
  | .heartbeat _ => true
  | _ => false

/-- A move in which no announcement is refused. Heartbeats are none, but they can be published on
the exchange of the announcements. -/
def Move.Announces (s : Settings) (w : World) : Move → Prop
  | .perform op =>
    op.isHeartbeat = false ∧ w.Hears (fun e a => e.isUnrefused s a = true) (op.procedure s)
  | _ => True

instance (s : Settings) (w : World) : (mv : Move) → Decidable (mv.Announces s w)
  | .perform op => inferInstanceAs (Decidable (op.isHeartbeat = false ∧ _))
  | .setFaults _ | .rejectWrites _ => inferInstanceAs (Decidable True)

/-- The announcements of each id end in a life that goes on exactly if there is a row. -/
def Tracks (s : Settings) (w : World) : Prop :=
  ∀ id, if w.registry.callbacks.contains id then Ongoing (announced s w.broker id)
    else Ended (announced s w.broker id)

theorem Tracks.of_same {w' : World} (h : Tracks s w)
    (hrows : ∀ id, w'.registry.callbacks.contains id = w.registry.callbacks.contains id)
    (hlog : ∀ id, announced s w'.broker id = announced s w.broker id) : Tracks s w' := by
  intro id
  rw [hrows, hlog]
  exact h id

/-- Where a change of one id is announced, the other ids are as before. -/
theorem Tracks.of_announcement {w' : World} {n : Notification} (h : Tracks s w)
    (hrows : ∀ id, n.subscriptionId ≠ id →
      w'.registry.callbacks.contains id = w.registry.callbacks.contains id)
    (hlog : w'.broker.published = w.broker.published ++ [announcement s n])
    (hself : if w'.registry.callbacks.contains n.subscriptionId then
        Ongoing (announced s w.broker n.subscriptionId ++ [n.change])
      else Ended (announced s w.broker n.subscriptionId ++ [n.change])) : Tracks s w' := by
  intro id
  rw [announced_of_announcement hlog]
  by_cases hid : n.subscriptionId = id
  · subst hid
    rw [if_pos rfl]
    exact hself
  · rw [if_neg hid, List.append_nil, hrows id hid]
    exact h id

private theorem registerCallback_tracks (h : Tracks s w) (r : CallbackRequest) :
    Tracks s (w.run s (.registerCallback r)).2 := by
  refine ((registerCallback_ends r).mono ?_ ?_).of_both (P := fun _ w' => Tracks s w')
  · intro _ w' hend
    obtain ⟨row, -, -, -, hnew, hcallbacks, -, hpublished⟩ := hend
    have hself := h row.subscriptionId
    rw [if_neg (by simp [Directory.contains, hnew])] at hself
    refine h.of_announcement (fun id hid => ?_) hpublished ?_
    · rw [hcallbacks, Directory.contains_insert]
      simp [hid]
    · rw [if_pos (by simp [hcallbacks, Directory.contains_insert])]
      exact hself.create
  · intro _ w' hend
    exact h.of_same (fun _ => by rw [hend.registry]) fun id => announced_of_published hend.published id

private theorem updateCallback_tracks (h : Tracks s w) (r : CallbackRequest) :
    Tracks s (w.run s (.updateCallback r)).2 := by
  have hrows {w' : World} {id : String} {row new : Registry.Callback}
      (hrow : w.registry.callbacks.get? id = some row)
      (hcallbacks : w'.registry.callbacks = w.registry.callbacks.insert id new) (id' : String) :
      w'.registry.callbacks.contains id' = w.registry.callbacks.contains id' := by
    rw [hcallbacks, Directory.contains_insert]
    by_cases hid : id = id'
    · simp [← hid, Directory.contains, hrow]
    · simp [hid]
  refine ((updateCallback_ends r).mono ?_ ?_).of_both (P := fun _ w' => Tracks s w')
  · intro _ w' hend
    obtain ⟨id, ⟨row, -, -, hrow, hcallbacks, -⟩, hpublished⟩ := hend
    have hcontains : w.registry.callbacks.contains id = true := by simp [Directory.contains, hrow]
    have hself := h id
    rw [if_pos hcontains] at hself
    refine h.of_announcement (fun id' _ => hrows hrow hcallbacks id') hpublished ?_
    rw [hrows hrow hcallbacks, if_pos hcontains]
    exact hself.update
  · intro _ w' hend
    obtain ⟨hpublished, hsame | ⟨id, row, -, -, hrow, hcallbacks, -⟩⟩ := hend
    · exact h.of_same (fun _ => by rw [hsame]) fun id => announced_of_published hpublished id
    · exact h.of_same (hrows hrow hcallbacks) fun id => announced_of_published hpublished id

private theorem deleteCallback_tracks (h : Tracks s w) {r : DeleteCallback}
    (hhears : w.Hears (fun e a => e.isUnrefused s a = true) (deleteCallback s r)) :
    Tracks s (w.run s (.deleteCallback r)).2 := by
  refine ((deleteCallback_ends hhears).mono ?_ ?_).of_both (P := fun _ w' => Tracks s w')
  · intro _ w' hend
    obtain ⟨id, -, hcontains, hcallbacks, hpublished | ⟨-, e, he⟩⟩ := hend
    · have hself := h id
      rw [if_pos hcontains] at hself
      refine h.of_announcement (fun id' hid => ?_) hpublished ?_
      · rw [hcallbacks, Directory.contains_erase]
        simp [hid]
      · rw [if_neg (by simp [hcallbacks, Directory.contains_erase])]
        exact hself.delete
    · simp [Effect.isUnrefused, Except.isOk, Except.toBool] at he
  · rintro _ w' rfl
    exact h

theorem tracks_move (h : Tracks s w) {mv : Move} (hmv : mv.Announces s w) :
    Tracks s (w.move s mv) := by
  cases mv with
  | perform op =>
    have hkeeps := w.keeps_run s op
    cases op with
    | registerCallback r => exact registerCallback_tracks h r
    | updateCallback r => exact updateCallback_tracks h r
    | deleteCallback r => exact deleteCallback_tracks h hmv.2
    | heartbeat r => cases hmv.1
    | _ =>
      refine h.of_same (fun i => ?_) fun i => ?_
      · exact congrArg Option.isSome (hkeeps.registry.callbacks i id)
      · exact congrArg (List.filterMap _) (hkeeps.broker.messages _ id)
  | setFaults f => exact h
  | rejectWrites reject => exact h

/-! ## Whole runs -/

/-- After any run from an empty broker and registry in which no announcement is refused, whatever
else is made to fail, the announcements of each id are lives one after the other, of which the last
may not have ended. An id has a row exactly if its last announcement is not that of a deletion. -/
theorem announced_after (passwords : Nat → String) (now : Timestamp) {moves : List Move}
    (hmoves : Throughout (fun w mv => w.move s mv) (fun w mv => mv.Announces s w)
      (World.new passwords now) moves) (id : String) :
    let w := (World.new passwords now).after s moves
    (∃ word ∈ lives.matches', announced s w.broker id <+: word) ∧
      ((∃ c ∈ (announced s w.broker id).getLast?, c = .create ∨ c = .update) ↔
        w.registry.callbacks.contains id = true) := by
  intro w
  have hw : Tracks s w := hmoves.foldl (fun _ _ h hmv => tracks_move h hmv) fun _ => .nil
  clear_value w
  have hid := hw id
  split at hid
  · next hcontains =>
    refine ⟨⟨_, hid.delete.mem_lives, List.prefix_append _ _⟩, iff_of_true ?_ hcontains⟩
    rcases hid.getLast? with hlast | hlast
    · exact ⟨_, hlast, .inl rfl⟩
    · exact ⟨_, hlast, .inr rfl⟩
  · next hcontains =>
    refine ⟨⟨_, hid.mem_lives, List.prefix_rfl⟩, iff_of_false ?_ hcontains⟩
    rintro ⟨c, hc, hchange⟩
    obtain rfl := hid.eq_delete hc
    rcases hchange with hchange | hchange <;> cases hchange

/-- An update that fails is not announced. -/
theorem announced_after_update :
    let now : Timestamp := ⟨⟨2024, 1, 1, by decide⟩, 0, 0, 0, by decide⟩
    let moves : List Move := [.perform .bootstrap,
      .perform (.registerAdaptor ⟨"org/group/server/item", "alice", none⟩),
      .perform (.registerCallback ⟨"user@org.com", "feed", "http://org.com/feed",
        ["org/group/server/item/a"]⟩),
      .setFaults { bindToQueues := ["callback.data"] },
      .perform (.updateCallback ⟨"user@org.com", "feed", "", ["org/group/server/item/b"]⟩)]
    let w := (World.new (fun _ => "secret") now).after {} moves
    let id := "org.com/87f1341caf0852005b8353bdf3bc661feb11b513/feed"
    announced {} w.broker id = [.create] ∧ w.registry.callbacks.contains id = true := by
  intro now moves
  have hmoves : Throughout (fun w mv => w.move {} mv) (fun w mv => mv.Announces {} w)
      (World.new (fun _ => "secret") now) moves := by decide +kernel
  have hlog : announced {} ((World.new (fun _ => "secret") now).after {} moves).broker
      "org.com/87f1341caf0852005b8353bdf3bc661feb11b513/feed" = [.create] := by decide +kernel
  have hlast := (announced_after (fun _ => "secret") now hmoves
    "org.com/87f1341caf0852005b8353bdf3bc661feb11b513/feed").2
  generalize (World.new (fun _ => "secret") now).after {} moves = w at hlog hlast ⊢
  refine ⟨hlog, hlast.1 ?_⟩
  rw [hlog]
  exact ⟨.create, rfl, .inl rfl⟩

end BrokerControl.Control
