import BrokerControl.Access.Error
import BrokerControl.Text.Blank
import BrokerControl.Text.Split

/-!
# Routing keys

A subscription's routing key has five segments between slashes, none of them blank. The first four
name the exchange that the messages come from.
-/

namespace BrokerControl.Access

/-- Text that is not blank, of five segments that are not blank either. -/
def isRoutingKey (s : String) : Bool :=
  let segments := Text.split '/' s
  !Text.isBlank s && (segments.length == 5 && segments.all fun p => !Text.isBlank p)

structure RoutingKey where
  text : String
  /-- Where the exchange ends. -/
  exchangeEnd : text.Pos
  valid : isRoutingKey text = true
  exchangeEnd_last : Text.lastPlace? '/' text = some exchangeEnd

namespace RoutingKey

def ofString? (s : String) : Except Malformed RoutingKey :=
  if h : isRoutingKey s = true then
    match hend : Text.lastPlace? '/' s with
    | some p => .ok ⟨s, p, h, hend⟩
    | none => .error (.routingKey s)
  else .error (.routingKey s)

/-- Everything before the last slash. -/
def exchange (k : RoutingKey) : String := (k.text.sliceTo k.exchangeEnd).copy

theorem ext_text {k₁ k₂ : RoutingKey} (h : k₁.text = k₂.text) : k₁ = k₂ := by
  cases k₁ with | mk text p₁ hvalid hp₁ =>
  cases k₂ with | mk text' p₂ hvalid' hp₂ =>
  cases h
  cases hp₁.symm.trans hp₂
  rfl

theorem text_of_ofString? {s : String} {k : RoutingKey} (h : ofString? s = .ok k) :
    k.text = s := by
  unfold ofString? at h
  split at h
  · split at h <;> cases h
    rfl
  · cases h

/-- Where there are five segments there is a last slash. -/
theorem exists_of_isRoutingKey {s : String} (h : isRoutingKey s = true) :
    ∃ k, ofString? s = .ok k := by
  unfold ofString?
  rw [dif_pos h]
  split
  · exact ⟨_, rfl⟩
  · next hnone =>
    rw [isRoutingKey, Text.split_eq_singleton (Text.lastPlace?_eq_none_iff.1 hnone)] at h
    simp at h

theorem ofString?_text (k : RoutingKey) : ofString? k.text = .ok k := by
  obtain ⟨k', hk'⟩ := exists_of_isRoutingKey k.valid
  rw [hk', ext_text (text_of_ofString? hk')]

theorem ofString?_of_not_isRoutingKey {s : String} (h : isRoutingKey s = false) :
    ofString? s = .error (.routingKey s) :=
  dif_neg (by simp [h])

/-- The exchange ends at a place in the text, before a slash and a single segment. -/
theorem splits_exchangeEnd (k : RoutingKey) :
    ∃ last, '/' ∉ last.toList ∧ k.exchangeEnd.Splits k.exchange ("/" ++ last) :=
  Text.splits_of_lastPlace? k.exchangeEnd_last

theorem toList_text (k : RoutingKey) :
    ∃ last, '/' ∉ last ∧ k.text.toList = k.exchange.toList ++ '/' :: last := by
  obtain ⟨last, hlast, hsplits⟩ := k.splits_exchangeEnd
  have htext := congrArg String.toList hsplits.eq_append
  exact ⟨last.toList, hlast, by simpa using htext⟩

end RoutingKey

end BrokerControl.Access
