import BrokerControl.Proofs.Broker.Topology
import BrokerControl.Proofs.Control.Effects

/-! # What operations can alter

An operation alters few parts of the world, and which these are can be told from its request. All
other parts it leaves as they are, however it ends and whatever calls fail on the way. -/

namespace BrokerControl.Control

open Broker (Address Binding)

/-- A part of the world. -/
inductive Part where
  | vhost (name : String)
  | exchange (a : Address)
  | queue (a : Address)
  | binding (x : Binding)
  | password (user : String)
  | grant (a : Address)
  /-- The messages published on an exchange. -/
  | messages (a : Address)
  | credential (user : String)
  | callback (id : String)

/-- The part that an effect alters. To make a resource, a binding or a user where there was none is
not to alter anything. -/
def Effect.part? : Effect → Option Part
  | .broker (.deleteVhost name) => some (.vhost name)
  | .broker (.deleteExchange vhost name) => some (.exchange ⟨vhost, name⟩)
  | .broker (.deleteQueue vhost name) => some (.queue ⟨vhost, name⟩)
  | .broker (.unbindQueue vhost exchange queue key) => some (.binding ⟨vhost, exchange, queue, key⟩)
  | .broker (.updateUserPassword name _) => some (.password name)
  | .broker (.setUserPermissions vhost user _) => some (.grant ⟨vhost, user⟩)
  | .broker (.publish vhost exchange _ _) => some (.messages ⟨vhost, exchange⟩)
  | .registry (.updatePassword username _) => some (.credential username)
  | .registry (.insertCallback row) => some (.callback row.subscriptionId)
  | .registry (.updateEntities id _) => some (.callback id)
  | .registry (.deleteCallback id) => some (.callback id)
  | _ => none

variable {α : Type} {S : Part → Prop}

/-! ## Plans -/

/-- Every part that the plan can come to alter, whatever it is answered, is in `S`. -/
def Plan.Alters (S : Part → Prop) : Plan α → Prop
  | .done _ => True
  | .step e next => (∀ t, e.part? = some t → S t) ∧ ∀ a, (next a).Alters S

def Procedure.Alters (S : Part → Prop) (p : Procedure α) : Prop := Plan.Alters S p.run

theorem Effect.part?_of_isPassive {e : Effect} (h : e.IsPassive) : e.part? = none := by
  cases e with
  | broker c => cases c <;> first | rfl | cases h
  | registry c => cases c <;> first | rfl | cases h
  | drawPassword | readClock | count event => rfl

/-- What the parts of a plan alter is what the plan alters. -/
theorem closed_alters (S : Part → Prop) : Plan.Closed fun _ p => p.Alters S where
  done _ := trivial
  andThen {_ _ p f} hp hf := by
    induction p with
    | done a => exact hf a
    | step e next ih => exact ⟨hp.1, fun a => ih a (hp.2 a)⟩
  passive h := by
    refine ⟨fun t ht => ?_, fun _ => trivial⟩
    rw [Effect.part?_of_isPassive h] at ht
    cases ht

theorem bindKeys_alters (vhost queue : String) (keys : List String) :
    (bindKeys vhost queue keys).Alters S :=
  bindKeys_closed (closed_alters S) (fun _ _ => ⟨nofun, fun _ => trivial⟩) keys

/-! ## Operations -/

/-- What an operation can alter. -/
def Operation.Alters (s : Settings) : Operation → Part → Prop
  | .registerAdaptor r, .exchange a => a = ⟨s.vhostOr r.vhost, r.adaptorId⟩
  | .registerAdaptor r, .grant a => a = ⟨s.vhostOr r.vhost, r.owner⟩
  | .registerAdaptor r, .credential u => u = r.owner
  | .deleteAdaptor r, .exchange a => a = ⟨s.vhostOr r.vhost, r.adaptorId⟩
  | .deleteAdaptor r, .grant a => a = ⟨s.vhostOr r.vhost, r.owner⟩
  | .registerStreaming r, t | .updateStreaming r, t => match t with
    | .queue a => a.vhost = s.dataVhost ∧ subscriptionId r.consumer r.name = .ok a.name
    | .grant a => (a.vhost = s.internalVhost ∨ a.vhost = s.dataVhost) ∧ a.name = r.consumer
    | .credential u => u = r.consumer
    | _ => False
  | .deleteStreaming r, .queue a => a = ⟨s.dataVhost, r.subscriptionId⟩
  | .deleteStreaming r, .grant a => a = ⟨s.dataVhost, r.consumer⟩
  | .registerCallback r, t | .updateCallback r, t => match t with
    | .messages a => a = ⟨s.internalVhost, s.notificationExchange⟩
    | .callback id => subscriptionId r.consumer r.name = .ok id
    | _ => False
  | .deleteCallback _, .messages a => a = ⟨s.internalVhost, s.notificationExchange⟩
  | .deleteCallback r, .callback id => subscriptionId r.consumer r.name = .ok id
  | .heartbeat h, .messages a => a = ⟨s.vhostOr h.vhost, h.adaptorId⟩
  | .ensureUser u v, .grant a => a = ⟨v, u⟩
  | .ensureUser u _, .credential u' => u' = u
  | .resetPassword u, .password u' => u' = u
  | .resetPassword u, .credential u' => u' = u
  | .updatePermissions v u _ _, .grant a => a = ⟨v, u⟩
  | _, _ => False

variable {s : Settings} {op : Operation} {e : Effect} {t : Part}

theorem MakesUser.alters {u v : String} (h : MakesUser v u e) (ht : e.part? = some t) :
    t = .grant ⟨v, u⟩ ∨ t = .credential u := by
  cases h <;> cases ht
  · exact .inl rfl
  · exact .inr rfl

theorem RenewsPassword.alters {u : String} (h : RenewsPassword u e) (ht : e.part? = some t) :
    t = .password u ∨ t = .credential u := by
  cases h <;> cases ht
  · exact .inl rfl
  · exact .inr rfl

theorem ProvidesStream.alters {id consumer : String} (h : ProvidesStream s id consumer e)
    (ht : e.part? = some t) : t = .queue ⟨s.dataVhost, id⟩ ∨ t = .grant ⟨s.dataVhost, consumer⟩ := by
  cases h <;> cases ht
  · exact .inr rfl
  · exact .inl rfl

theorem Operation.Asks.alters (h : op.Asks s e) (ht : e.part? = some t) : op.Alters s t := by
  cases h with
  | provideStream hid h | replaceStream hid h =>
    rcases h.alters ht with rfl | rfl
    · exact ⟨rfl, hid⟩
    · exact ⟨.inr rfl, rfl⟩
  | insertCallback hid | takeCallback hid | updateCallback _ hid | deleteCallback hid =>
    cases ht
    exact hid
  | _ =>
    cases ht
    try rfl

/-- A user that is made gets a grant and a record. -/
theorem Operation.alters_user {u v : String} (h : op.user? s = some (u, v)) :
    op.Alters s (.grant ⟨v, u⟩) ∧ op.Alters s (.credential u) := by
  cases op <;> cases h
  · exact ⟨rfl, rfl⟩
  · exact ⟨⟨.inl rfl, rfl⟩, rfl⟩
  · exact ⟨⟨.inl rfl, rfl⟩, rfl⟩
  · exact ⟨rfl, rfl⟩

/-- An operation alters no other parts than its own, whatever its calls are answered. -/
theorem Operation.procedure_alters (s : Settings) (op : Operation) :
    (op.procedure s).Alters (op.Alters s) := by
  have hC := closed_alters (op.Alters s)
  refine Operation.procedure_closed hC s op (fun u v huser => ?_) (fun u hreset => ?_)
    fun e he => ⟨fun t ht => he.alters ht, fun _ => trivial⟩
  · obtain ⟨hgrant, hcredential⟩ := Operation.alters_user huser
    refine ensureUser_closed hC fun e he => ⟨fun t ht => ?_, fun _ => trivial⟩
    rcases he.alters ht with rfl | rfl
    · exact hgrant
    · exact hcredential
  · subst hreset
    refine resetPassword_closed hC fun e he => ⟨fun t ht => ?_, fun _ => trivial⟩
    rcases he.alters ht with rfl | rfl
    · exact rfl
    · exact rfl

end BrokerControl.Control
