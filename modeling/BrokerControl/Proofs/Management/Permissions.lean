import BrokerControl.Management.Client
import BrokerControl.Proofs.Access.Grant
import BrokerControl.Proofs.Broker.Response
import BrokerControl.Proofs.Control.SubscriptionId
import BrokerControl.Proofs.Json.ReadBack

/-! # Grants on their way to a broker

A right travels as one pattern, in which bars stand between the ids. The broker in memory is handed
the ids themselves. Both end up with the same grant as long as no id has a bar; but the id of a
subscription has those of its consumer's domain and of the name that the consumer chose. -/

namespace BrokerControl

open Access Json

/-! ## Grants as JSON -/

namespace Access.Grant

/-- The grant that is read from the JSON form of a grant. -/
def reread (g : Grant) : Grant where
  configure := .ofPattern g.configure.toPattern
  write := .ofPattern g.write.toPattern
  read := .ofPattern g.read.toPattern

theorem decodeText_encodeText (g : Grant) : decodeText Grant (encodeText g) = .ok g.reread :=
  Json.decodeText_encodeText rfl

/-- One more id to read is read back in pieces if it has bars. -/
theorem reread_addRead {g : Grant} (h : g.reread = g) {id : String} (hid : id ≠ "") :
    (g.apply .addRead id).reread =
      { g with read := ⟨ResourceSet.kept g.read.entries ++ Text.split '|' id⟩ } := by
  have hread : ResourceSet.ofPattern g.read.toPattern = g.read := congrArg Grant.read h
  have hadded := ResourceSet.ofPattern_toPattern_add (ResourceSet.ofPattern_toPattern_iff.1 hread).1 hid
  calc
    (g.apply .addRead id).reread = { g.reread with read := .ofPattern (g.read.add id).toPattern } :=
      rfl
    _ = { g with read := ⟨ResourceSet.kept g.read.entries ++ Text.split '|' id⟩ } := by
      rw [h, hadded]

/-- The new id is among those read back only if it has no bars. -/
theorem reread_addRead_iff {g : Grant} (h : g.reread = g) {id : String} (hid : id ≠ "") :
    (g.apply .addRead id).reread = g.apply .addRead id ↔ '|' ∉ id.toList := by
  rw [reread_addRead h hid, ← Text.split_eq_singleton_iff]
  constructor
  · intro heq
    have hentries := congrArg (fun g : Grant => g.read.entries) heq
    exact List.append_cancel_left hentries
  · intro hsplit
    rw [hsplit]
    rfl

end Access.Grant

/-! ## Grants at a broker -/

namespace Management

/-- A management interface that keeps the last body it was sent, and answers a question with it. -/
def keeper : Transport (StateM ByteArray) := fun request =>
  match request.body with
  | some j => do
    set (print j).toUTF8
    return some ⟨204, .empty⟩
  | none => return some ⟨200, ← get⟩

namespace Client

/-- The grant that a client is told of after it has set one. -/
def setAndGet (client : Client) (vhost user : String) (g : Grant) :
    StateM ByteArray (Except Broker.Error Grant) := do
  let _ ← client.ask keeper (.setUserPermissions vhost user g)
  client.ask keeper (.getUserPermissions vhost user)

/-- The body that was sent is read as the reply. -/
theorem setAndGet_run (client : Client) (vhost user : String) (g : Grant) (kept : ByteArray) :
    ((client.setAndGet vhost user g).run kept).run.1 = .ok g.reread := by
  have hset : client.request (.setUserPermissions vhost user g) =
      .ok ⟨.put, client.base.resource ["permissions", vhost, user], client.authorization,
        some (encode g)⟩ := rfl
  have hget : client.request (.getUserPermissions vhost user) =
      .ok ⟨.get, client.base.resource ["permissions", vhost, user], client.authorization, none⟩ :=
    rfl
  have htext : (String.fromUTF8? (print (encode g)).toUTF8).map (decodeText Grant) =
      some (.ok g.reread) := by
    rw [fromUTF8?_toUTF8, Option.map_some]
    exact congrArg some g.decodeText_encodeText
  rw [String.toUTF8_eq_toByteArray] at htext
  simp [setAndGet, ask, hset, hget, keeper, answer, content, htext]

end Client

end Management

/-- A broker in memory tells of a grant as it was set. -/
theorem Broker.respond_getUserPermissions_set {b : Broker} {vhost user : String} {g : Grant}
    (h : (b.respond (.setUserPermissions vhost user g)).1 = .ok ()) :
    ((b.respond (.setUserPermissions vhost user g)).2.respond (.getUserPermissions vhost user)).1 =
      .ok g := by
  rw [respond_setUserPermissions] at h ⊢
  split at h
  · cases h
  · split at h
    · next hfault huser => simp [hfault, huser, respond_getUserPermissions]
    · cases h

/-! ## Subscriptions in grants -/

namespace Management

open Control (domainOf subscriptionId)

/-- A grant that gets the id of a subscription is read back from its JSON form with the id in pieces.
So it is read back as it is, and a client and the broker in memory tell of the same grant, exactly if
neither the consumer's domain nor the name has a bar. -/
theorem reread_subscription_iff {g : Grant} {consumer name id : String}
    (hg : decodeText Grant (encodeText g) = .ok g) (hid : subscriptionId consumer name = .ok id)
    (client : Client) (kept : ByteArray) {b : Broker} {vhost user : String}
    (hset : (b.respond (.setUserPermissions vhost user (g.apply .addRead id))).1 = .ok ()) :
    let granted := g.apply .addRead id
    let holder := (b.respond (.setUserPermissions vhost user granted)).2
    let plain := '|' ∉ (domainOf consumer).toList ∧ '|' ∉ name.toList
    decodeText Grant (encodeText granted) =
        .ok { g with read := ⟨ResourceSet.kept g.read.entries ++ Text.split '|' id⟩ } ∧
      (decodeText Grant (encodeText granted) = .ok granted ↔ plain) ∧
      (((client.setAndGet vhost user granted).run kept).run.1 =
        (holder.respond (.getUserPermissions vhost user)).1 ↔ plain) := by
  intro granted holder plain
  have hself : g.reread = g := by
    rw [Grant.decodeText_encodeText] at hg
    exact Except.ok.inj hg
  have hne : id ≠ "" := Control.subscriptionId_ne_empty hid
  have hsame : granted.reread = granted ↔ plain := by
    rw [Grant.reread_addRead_iff hself hne,
      Control.mem_subscriptionId_iff (by decide) (by decide) hid, not_or]
  rw [Grant.decodeText_encodeText, Client.setAndGet_run,
    Broker.respond_getUserPermissions_set hset]
  simp only [Except.ok.injEq]
  exact ⟨Grant.reread_addRead hself hne, hsame, hsame⟩

/-- One user who may read a resource already is granted a subscription. -/
theorem reread_subscription_plain :
    let g : Grant := { Grant.denyAll with read := ⟨["org/a"]⟩ }
    let id := "org.com/87f1341caf0852005b8353bdf3bc661feb11b513/alias"
    let client : Client := ⟨⟨"http", some (.name "localhost"), some 15672, [], none⟩, "a", "b", {}⟩
    let b : Broker := { users := (∅ : Directory String String).insert "user@org.com" "secret" }
    let granted := g.apply .addRead id
    let holder := (b.respond (.setUserPermissions "/" "user@org.com" granted)).2
    subscriptionId "user@org.com" "alias" = .ok id ∧ granted.read.entries = ["org/a", id] ∧
      decodeText Grant (encodeText granted) = .ok granted ∧
      ((client.setAndGet "/" "user@org.com" granted).run .empty).run.1 =
        (holder.respond (.getUserPermissions "/" "user@org.com")).1 := by
  intro g id client b granted holder
  have hg : decodeText Grant (encodeText g) = .ok g := by
    rw [Grant.decodeText_encodeText, show g.reread = g by decide]
  have hid : subscriptionId "user@org.com" "alias" = .ok id := by
    rw [Control.subscriptionId_eq_ok_iff]
    decide +kernel
  have hset : (b.respond (.setUserPermissions "/" "user@org.com" granted)).1 = .ok () := by
    rw [Broker.respond_setUserPermissions]
    rfl
  have hgrant := reread_subscription_iff hg hid client .empty hset
  exact ⟨hid, by decide, hgrant.2.1.2 (by decide), hgrant.2.2.2 (by decide)⟩

/-- A user's only subscription has a bar in its name, and is read back as two ids that the user was
never granted. -/
theorem reread_subscription_bar :
    let id := "org.com/87f1341caf0852005b8353bdf3bc661feb11b513/a|b"
    let granted := Grant.denyAll.apply .addRead id
    let found : Grant :=
      { Grant.denyAll with read := ⟨["org.com/87f1341caf0852005b8353bdf3bc661feb11b513/a", "b"]⟩ }
    subscriptionId "user@org.com" "a|b" = .ok id ∧
      decodeText Grant (encodeText Grant.denyAll) = .ok Grant.denyAll ∧
      decodeText Grant (encodeText granted) = .ok found ∧ found ≠ granted := by
  intro id granted found
  have hid : subscriptionId "user@org.com" "a|b" = .ok id := by
    rw [Control.subscriptionId_eq_ok_iff]
    decide +kernel
  have hempty : decodeText Grant (encodeText Grant.denyAll) = .ok Grant.denyAll := by
    rw [Grant.decodeText_encodeText, show Grant.denyAll.reread = Grant.denyAll by decide]
  have hgranted : decodeText Grant (encodeText granted) = .ok found := by
    rw [Grant.decodeText_encodeText, show granted.reread = found by decide]
  exact ⟨hid, hempty, hgranted, by decide⟩

end Management

end BrokerControl
