import BrokerControl.Proofs.Control.Subscription

/-! # Whom an id belongs to

The id of a subscription is cut at its slashes, but the domain of a consumer and the name that it
chose may have slashes of their own. So the digest of the consumer can be taken for a part of
another domain, and the rest of the domain for a part of the name. Two subscriptions have one id
only in that way. -/

namespace BrokerControl.Control

open Digest (sha1Hex)

variable {consumer consumer' name name' id id' : String}

/-- The segments of an id are those of the domain, the digest, and those of the name. -/
theorem split_subscriptionId (h : subscriptionId consumer name = .ok id) :
    Text.split '/' id =
      Text.split '/' (domainOf consumer) ++ sha1Hex consumer :: Text.split '/' name := by
  have hdigest : Text.split '/' (sha1Hex consumer) = [sha1Hex consumer] :=
    Text.split_eq_singleton (Digest.notMem_sha1Hex (by decide) consumer)
  rw [(subscriptionId_eq_ok_iff.1 h).2, Text.split_join_flatMap (List.cons_ne_nil _ _)]
  simp [hdigest]

theorem subscriptionId_ne_empty (h : subscriptionId consumer name = .ok id) : id ≠ "" := by
  rintro rfl
  have hslash : '/' ∈ "".toList := segmented_of_subscriptionId h
  cases hslash

/-- Apart from slashes and digits, an id has the characters of the domain and of the name. -/
theorem mem_subscriptionId_iff {c : Char} (hslash : c ≠ '/')
    (hdigit : ∀ n : Fin 16, c ≠ Text.hexDigit n) (h : subscriptionId consumer name = .ok id) :
    c ∈ id.toList ↔ c ∈ (domainOf consumer).toList ∨ c ∈ name.toList := by
  have hdigest := Digest.notMem_sha1Hex hdigit consumer
  rw [(subscriptionId_eq_ok_iff.1 h).2, Text.mem_join hslash]
  simp [hdigest]

/-- The domain of the second consumer goes on after that of the first with the first one's digest,
and the name that the first chose has the rest of the domain and the second one's digest before the
name that the second chose. -/
def Reaches (consumer name consumer' name' : String) : Prop :=
  ∃ between, Text.split '/' (domainOf consumer') =
      Text.split '/' (domainOf consumer) ++ sha1Hex consumer :: between ∧
    Text.split '/' name = between ++ sha1Hex consumer' :: Text.split '/' name'

/-- Either way round, the segments are the same. -/
theorem Reaches.eq (hreach : Reaches consumer name consumer' name')
    (h : subscriptionId consumer name = .ok id) (h' : subscriptionId consumer' name' = .ok id') :
    id = id' := by
  obtain ⟨between, hdomain, hname⟩ := hreach
  have hsegments : Text.split '/' id = Text.split '/' id' := by
    rw [split_subscriptionId h, split_subscriptionId h', hdomain, hname]
    simp
  exact Text.eq_of_split_eq hsegments

/-- Where the digests differ, one of them has to stand in the domain of the other. -/
theorem reaches_of_eq (hdigest : sha1Hex consumer ≠ sha1Hex consumer')
    (h : subscriptionId consumer name = .ok id) (h' : subscriptionId consumer' name' = .ok id) :
    Reaches consumer name consumer' name' ∨ Reaches consumer' name' consumer name := by
  have hsegments := (split_subscriptionId h).symm.trans (split_subscriptionId h')
  rcases List.append_eq_append_iff.1 hsegments with ⟨rest, hdomain, hrest⟩ | ⟨rest, hdomain, hrest⟩
  · cases rest with
    | nil => exact absurd (List.cons.inj hrest).1 hdigest
    | cons digest between =>
      obtain ⟨rfl, hname⟩ := List.cons.inj hrest
      exact .inl ⟨between, hdomain, hname⟩
  · cases rest with
    | nil => exact absurd (List.cons.inj hrest).1.symm hdigest
    | cons digest between =>
      obtain ⟨rfl, hname⟩ := List.cons.inj hrest
      exact .inr ⟨between, hdomain, hname⟩

theorem name_eq_of_subscriptionId (h : subscriptionId consumer name = .ok id)
    (h' : subscriptionId consumer name' = .ok id) : name = name' := by
  have hsegments := (split_subscriptionId h).symm.trans (split_subscriptionId h')
  have hnames := List.append_cancel_left hsegments
  exact Text.eq_of_split_eq (List.cons.inj hnames).2

/-- Two subscriptions have the same id exactly if they are one, or if the domain of one consumer
reaches into the name that the other chose. -/
theorem subscriptionId_eq_iff (h : subscriptionId consumer name = .ok id)
    (h' : subscriptionId consumer' name' = .ok id')
    (hdigest : consumer ≠ consumer' → sha1Hex consumer ≠ sha1Hex consumer') :
    id = id' ↔ (consumer = consumer' ∧ name = name') ∨
      Reaches consumer name consumer' name' ∨ Reaches consumer' name' consumer name := by
  constructor
  · rintro rfl
    by_cases hconsumer : consumer = consumer'
    · subst hconsumer
      exact .inl ⟨rfl, name_eq_of_subscriptionId h h'⟩
    · exact .inr (reaches_of_eq (hdigest hconsumer) h h')
  · rintro (⟨rfl, rfl⟩ | hreach | hreach)
    · exact Except.ok.inj (h.symm.trans h')
    · exact hreach.eq h h'
    · exact (hreach.eq h' h).symm

/-- Two consumers of one domain may choose the same name. -/
theorem subscriptionId_eq_iff_one_domain :
    let id := "b.com/1022b0c3a1d9a6409ae0dd2364fdcfe41f63ae22/x"
    let id' := "b.com/5f7aa0c91bbd1304753b80b8e6077c697be68cab/x"
    subscriptionId "a@b.com" "x" = .ok id ∧ subscriptionId "c@b.com" "x" = .ok id' ∧
      (id = id' ↔ ("a@b.com" = "c@b.com" ∧ "x" = "x") ∨
        Reaches "a@b.com" "x" "c@b.com" "x" ∨ Reaches "c@b.com" "x" "a@b.com" "x") := by
  intro id id'
  have ha : sha1Hex "a@b.com" = "1022b0c3a1d9a6409ae0dd2364fdcfe41f63ae22" := by decide +kernel
  have hc : sha1Hex "c@b.com" = "5f7aa0c91bbd1304753b80b8e6077c697be68cab" := by decide +kernel
  have h : subscriptionId "a@b.com" "x" = .ok id := by
    rw [subscriptionId_eq_ok_iff, ha]
    decide
  have h' : subscriptionId "c@b.com" "x" = .ok id' := by
    rw [subscriptionId_eq_ok_iff, hc]
    decide
  have hdigest : sha1Hex "a@b.com" ≠ sha1Hex "c@b.com" := by
    rw [ha, hc]
    decide
  exact ⟨h, h', subscriptionId_eq_iff h h' fun _ => hdigest⟩

/-- Two consumers share a subscription, though their digests differ: the domain of the one is that of
the other with its digest, and the name that the other chose begins with the digest of the one. -/
theorem subscriptionId_shared :
    let consumer := "user@org"
    let consumer' := "guest@org/a7c5b64320c4f78b8a233c0dcc6d38505b70a53c"
    let id := "org/a7c5b64320c4f78b8a233c0dcc6d38505b70a53c/d49e3d27bedc6b7a18dbd2fb71b016902aa84f63/feed"
    consumer ≠ consumer' ∧ sha1Hex consumer ≠ sha1Hex consumer' ∧
      subscriptionId consumer "d49e3d27bedc6b7a18dbd2fb71b016902aa84f63/feed" = .ok id ∧
      subscriptionId consumer' "feed" = .ok id := by
  intro consumer consumer' id
  have h : sha1Hex consumer = "a7c5b64320c4f78b8a233c0dcc6d38505b70a53c" := by decide +kernel
  have h' : sha1Hex consumer' = "d49e3d27bedc6b7a18dbd2fb71b016902aa84f63" := by decide +kernel
  rw [subscriptionId_eq_ok_iff, subscriptionId_eq_ok_iff, h, h']
  decide

end BrokerControl.Control
