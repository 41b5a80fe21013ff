import BrokerControl.Access.RoutingKey
import BrokerControl.Proofs.Access.Grant
import BrokerControl.Proofs.Text.Percent
import BrokerControl.Proofs.Text.Split

/-! # The grammar of routing keys

A routing key is a text of five segments with something in each, and its exchange is the text up to
the last slash. The adaptors whose messages can be asked for are those with four segments. -/

namespace BrokerControl.Access

open Text (isBlank isWhiteSpace split trim)

/-! ## Segments -/

/-- A slash between two texts separates the segments of one from those of the other. -/
theorem split_append_slash (s t : String) :
    split '/' (s ++ "/" ++ t) = split '/' s ++ split '/' t := by
  have hslash : (s ++ "/" ++ t).toList = s.toList ++ '/' :: t.toList := by simp
  rw [split, hslash, Text.pieces_append_sep, List.map_append, split, split]

/-- A blank text is a single segment. -/
theorem isBlank_of_length_split {s : String} (h : (split '/' s).length ≠ 1) :
    isBlank s = false := by
  refine Bool.eq_false_iff.2 fun hblank => ?_
  have hslash : '/' ∉ s.toList := fun hmem => by
    have hwhite : isWhiteSpace '/' = true := List.all_eq_true.1 hblank '/' hmem
    cases hwhite
  rw [Text.split_eq_singleton hslash] at h
  exact h rfl

/-- Checking the text as a whole refuses no more than checking its segments. -/
theorem isRoutingKey_iff {s : String} :
    isRoutingKey s = true ↔
      (split '/' s).length = 5 ∧ ∀ p ∈ split '/' s, isBlank p = false := by
  simpa [isRoutingKey] using fun h _ => isBlank_of_length_split (by simp [h])

theorem isRoutingKey_iff_trim {s : String} :
    isRoutingKey s = true ↔
      (s.split '/').toList.length = 5 ∧ ∀ p ∈ (s.split '/').toList, (trim p).isEmpty = false := by
  rw [isRoutingKey_iff, Text.split_eq]
  simp [Text.isBlank_copy]

namespace RoutingKey

theorem exists_ofString?_iff {s : String} :
    (∃ k, ofString? s = .ok k) ↔ isRoutingKey s = true := by
  constructor
  · rintro ⟨k, hk⟩
    rw [← text_of_ofString? hk]
    exact k.valid
  · exact exists_of_isRoutingKey

variable (k : RoutingKey)

/-- The last segment comes after those of the exchange. -/
theorem split_text :
    ∃ last, '/' ∉ last.toList ∧ k.exchangeEnd.Splits k.exchange ("/" ++ last) ∧
      split '/' k.text = split '/' k.exchange ++ [last] := by
  obtain ⟨last, hslash, hsplits⟩ := k.splits_exchangeEnd
  refine ⟨last, hslash, hsplits, ?_⟩
  calc
    split '/' k.text = split '/' (k.exchange ++ "/" ++ last) := by
      rw [String.append_assoc, ← hsplits.eq_append]
    _ = split '/' k.exchange ++ [last] := by
      rw [split_append_slash, Text.split_eq_singleton hslash]

/-- Cutting the text at the last slash leaves all segments but the last. -/
theorem exchange_eq_join : k.exchange = Text.join '/' (split '/' k.text).dropLast := by
  obtain ⟨last, -, -, hsegments⟩ := k.split_text
  rw [hsegments, List.dropLast_concat, Text.join_split]

theorem length_split_exchange : (split '/' k.exchange).length = 4 := by
  obtain ⟨last, -, -, hsegments⟩ := k.split_text
  have hlength := (isRoutingKey_iff.1 k.valid).1
  rw [hsegments, List.length_append, List.length_singleton] at hlength
  omega

/-- The exchange ends at a place in the text, before a slash and a last segment with something in
it. -/
theorem exchange_splits :
    ∃ (p : k.text.Pos) (last : String), p.Splits k.exchange ("/" ++ last) ∧ '/' ∉ last.toList ∧
      isBlank last = false := by
  obtain ⟨last, hslash, hsplits, hsegments⟩ := k.split_text
  have hmem : last ∈ split '/' k.text := by simp [hsegments]
  exact ⟨k.exchangeEnd, last, hsplits, hslash, (isRoutingKey_iff.1 k.valid).2 last hmem⟩

end RoutingKey

/-! ## Adaptors with routing keys -/

/-- The characters of adaptor ids lie between the hyphen and the last small letter. -/
theorem toNat_of_isAdaptorChar {c : Char} (h : isAdaptorChar c = true) :
    '-'.toNat ≤ c.toNat ∧ c.toNat ≤ 'z'.toNat := by
  simp only [isAdaptorChar, Bool.or_eq_true, beq_iff_eq] at h
  rcases h with ((((halpha | rfl) | rfl) | rfl) | rfl) | rfl
  · obtain ⟨hlow, hhigh⟩ := Text.Percent.toNat_of_isAsciiAlphanumeric halpha
    exact ⟨Nat.le_trans (by decide) hlow, hhigh⟩
  all_goals decide

theorem isAdaptorChar_of_isWhiteSpace {c : Char} (h : isWhiteSpace c = true) :
    isAdaptorChar c = false := by
  refine Bool.eq_false_iff.2 fun hchar => ?_
  have hbounds : 0x2D ≤ c.toNat ∧ c.toNat ≤ 0x7A := toNat_of_isAdaptorChar hchar
  simp only [isWhiteSpace, Bool.or_eq_true, Bool.and_eq_true, decide_eq_true_eq, beq_iff_eq] at h
  omega

namespace AdaptorId

variable (id : AdaptorId)

/-- There is something in each segment of an adaptor id. -/
theorem isBlank_of_mem_split {p : String} (hp : p ∈ split '/' id.text) : isBlank p = false := by
  have hvalid := id.valid
  simp only [isAdaptorId, Bool.and_eq_true, List.all_eq_true, bne_iff_ne] at hvalid
  obtain ⟨c, hc⟩ := List.exists_mem_of_ne_nil p.toList (by simpa using hvalid.2 p hp)
  have hslash : c ≠ '/' := fun he => Text.sep_notMem_of_mem_split hp (he ▸ hc)
  have htext : c ∈ id.text.toList := by
    rw [← Text.join_split '/' id.text]
    exact (Text.mem_join hslash).2 ⟨p, hp, hc⟩
  rw [isBlank, List.all_eq_false]
  refine ⟨c, hc, fun hwhite => ?_⟩
  exact id.notMem_text (isAdaptorChar_of_isWhiteSpace hwhite) htext

/-- Any segment with something in it makes a routing key of an adaptor id with four segments. -/
theorem exists_routingKey (hlength : (split '/' id.text).length = 4) {item : String}
    (hslash : '/' ∉ item.toList) (hitem : isBlank item = false) :
    ∃ k, RoutingKey.ofString? (id.text ++ "/" ++ item) = .ok k ∧ k.exchange = id.text := by
  have hsegments : split '/' (id.text ++ "/" ++ item) = split '/' id.text ++ [item] := by
    rw [split_append_slash, Text.split_eq_singleton hslash]
  have hvalid : isRoutingKey (id.text ++ "/" ++ item) = true := by
    rw [isRoutingKey_iff, hsegments]
    constructor
    · rw [List.length_append, hlength, List.length_singleton]
    · intro p hp
      rcases List.mem_append.1 hp with hp | hp
      · exact id.isBlank_of_mem_split hp
      · rw [List.mem_singleton.1 hp]
        exact hitem
  obtain ⟨k, hk⟩ := RoutingKey.exists_of_isRoutingKey hvalid
  refine ⟨k, hk, ?_⟩
  rw [k.exchange_eq_join, RoutingKey.text_of_ofString? hk, hsegments, List.dropLast_concat,
    Text.join_split]

end AdaptorId

/-! ## The grammar -/

/-- A text is a routing key exactly if it has five segments between slashes and trimming leaves
something of each; it is kept as it is. Its exchange ends at a place in the text, where a slash and
a single segment follow. So an adaptor is the exchange of some key exactly if its id has four
segments, and then any further segment makes such a key. -/
theorem routingKeys_follow_grammar :
    (∀ s : String, (∃ k, RoutingKey.ofString? s = .ok k) ↔
      (s.split '/').toList.length = 5 ∧
        ∀ p ∈ (s.split '/').toList, (trim p).isEmpty = false) ∧
    (∀ s k, RoutingKey.ofString? s = .ok k →
      k.text = s ∧ (k.exchange.split '/').toList.length = 4 ∧
        ∃ (p : s.Pos) (last : String), p.Splits k.exchange ("/" ++ last) ∧ '/' ∉ last.toList ∧
          (trim last.toSlice).isEmpty = false) ∧
    ∀ x id, AdaptorId.ofString? x = .ok id →
      ((∃ s k, RoutingKey.ofString? s = .ok k ∧ k.exchange = x) ↔
        (x.split '/').toList.length = 4) ∧
      ((x.split '/').toList.length = 4 → ∀ item : String, '/' ∉ item.toList →
        (trim item.toSlice).isEmpty = false →
          ∃ k, RoutingKey.ofString? (x ++ "/" ++ item) = .ok k ∧ k.exchange = x) := by
  refine ⟨fun s => ?_, fun s k hk => ?_, fun x id hid => ?_⟩
  · rw [← isRoutingKey_iff_trim]
    exact RoutingKey.exists_ofString?_iff
  · obtain rfl := RoutingKey.text_of_ofString? hk
    refine ⟨rfl, ?_⟩
    simp only [Text.length_toList_split, Text.isEmpty_trim]
    exact ⟨k.length_split_exchange, k.exchange_splits⟩
  · obtain rfl := AdaptorId.text_of_ofString? hid
    simp only [Text.length_toList_split, Text.isEmpty_trim]
    refine ⟨⟨?_, fun hfour => ?_⟩, fun hfour item => id.exists_routingKey hfour⟩
    · rintro ⟨s, k, -, hexchange⟩
      rw [← hexchange]
      exact k.length_split_exchange
    · have hslash : '/' ∉ "x".toList := by decide
      obtain ⟨k, hk⟩ := id.exists_routingKey hfour hslash (by decide)
      exact ⟨_, k, hk⟩

/-- A key with a last segment outside ASCII, and an adaptor with too few segments. -/
theorem routingKeys_follow_grammar_beyond_ascii :
    let s := "org/group/server/item/日本"
    (∃ k, RoutingKey.ofString? s = .ok k ∧ k.exchange = "org/group/server/item" ∧
      ∃ p : s.Pos, p.Splits k.exchange "/日本") ∧
    ¬∃ s k, RoutingKey.ofString? s = .ok k ∧ k.exchange = "org/group/server" := by
  intro s
  obtain ⟨-, hkeys, hadaptors⟩ := routingKeys_follow_grammar
  constructor
  · obtain ⟨-, hitems⟩ := hadaptors "org/group/server/item" ⟨_, by decide⟩ rfl
    have hfour : ("org/group/server/item".split '/').toList.length = 4 := by
      rw [Text.length_toList_split]
      decide
    have hitem : (trim "日本".toSlice).isEmpty = false := by
      rw [Text.isEmpty_trim]
      decide
    obtain ⟨k, hk, hexchange⟩ := hitems hfour "日本" (by decide) hitem
    obtain ⟨-, -, p, last, hp, -⟩ := hkeys _ k hk
    have hsame : "org/group/server/item" ++ ("/" ++ "日本") = k.exchange ++ ("/" ++ last) :=
      Eq.trans (by decide) hp.eq_append
    rw [hexchange, String.append_right_inj, String.append_right_inj] at hsame
    subst hsame
    exact ⟨k, hk, hexchange, p, hp⟩
  · rw [(hadaptors "org/group/server" ⟨_, by decide⟩ rfl).1, Text.length_toList_split]
    decide

end BrokerControl.Access
