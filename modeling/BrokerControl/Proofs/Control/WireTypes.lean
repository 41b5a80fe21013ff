import BrokerControl.Access.Wire
import BrokerControl.Control.Notification
import BrokerControl.Control.Wire
import BrokerControl.Proofs.Access.Grant
import BrokerControl.Proofs.Json.Stable
import BrokerControl.Proofs.Time.Timestamp
import BrokerControl.Registry.Wire

/-! # Values on the wire

Every type that is sent or received keeps what it reads. Some are strings with a form of their own:
timestamps, keys and ids, which are read only if they have it, and sets of resources, some of which
no string stands for. -/

namespace BrokerControl

open Json
open Access (AdaptorId Edit Grant ResourceSet Right RoutingKey)
open Broker (BindingRow BindingsByQueue Exchange QueueArguments UserEntry VhostEntry)
open Control

/-! ## Strings with a form of their own -/

instance : Stable Timestamp := .of_forall fun t => ⟨rfl, by
  simp only [encode, decode, t.ofString?_text]⟩

instance : Stable RoutingKey := .of_forall fun k => ⟨rfl, by
  change Access.refuse (RoutingKey.ofString? k.text) = .ok k
  rw [k.ofString?_text]
  rfl⟩

instance : Stable AdaptorId := .of_forall fun id => ⟨rfl, by
  change Access.refuse (AdaptorId.ofString? id.text) = .ok id
  rw [id.ofString?_text]
  rfl⟩

theorem eq_string_of_decode {j : Json} {s : String} (h : decode j = .ok s) : j = .string s := by
  cases j with
  | string t =>
    cases h
    rfl
  | _ => cases h

section Refusing

variable {α : Type} {parse : String → Except Access.Malformed α}

/-- Only a string of the form is read. -/
theorem parse_of_refuse {j : Json} {a : α}
    (h : (do Access.refuse (parse (← decode j))) = Except.ok a) :
    ∃ s, j = .string s ∧ parse s = .ok a := by
  obtain ⟨s, hs, h⟩ := of_bind_eq_ok h
  refine ⟨s, eq_string_of_decode hs, ?_⟩
  cases hparse : parse s with
  | error e =>
    rw [hparse] at h
    cases h
  | ok b =>
    rw [hparse] at h
    cases h
    rfl

/-- A string that is not of the form is refused in the words of its fault. -/
theorem refuse_of_parse {s : String} {e : Access.Malformed} (h : parse s = .error e) :
    (do Access.refuse (parse (← decode (.string s)))) = Except.error (.refused e.message) := by
  change Access.refuse (parse s) = _
  rw [h]
  rfl

end Refusing

theorem routingKey_of_decode {j : Json} {k : RoutingKey} (h : decode j = .ok k) :
    j = .string k.text := by
  obtain ⟨s, rfl, hs⟩ := parse_of_refuse h
  rw [RoutingKey.text_of_ofString? hs]

theorem adaptorId_of_decode {j : Json} {id : AdaptorId} (h : decode j = .ok id) :
    j = .string id.text := by
  obtain ⟨s, rfl, hs⟩ := parse_of_refuse h
  rw [AdaptorId.text_of_ofString? hs]

theorem ofPattern_of_decode {j : Json} {g : ResourceSet} (h : decode j = .ok g) :
    ∃ s, j = .string s ∧ ResourceSet.ofPattern s = g := by
  change (decode j : Except DecodeError String).map ResourceSet.ofPattern = .ok g at h
  cases hstring : (decode j : Except DecodeError String) with
  | error e =>
    rw [hstring] at h
    cases h
  | ok s =>
    rw [hstring] at h
    exact ⟨s, eq_string_of_decode hstring, Except.ok.inj h⟩

/-- A set that was read has no separator in an entry and is not a lone empty entry. -/
theorem ofPattern_toPattern_of_decode {j : Json} {g : ResourceSet} (h : decode j = .ok g) :
    ResourceSet.ofPattern g.toPattern = g := by
  obtain ⟨s, -, rfl⟩ := ofPattern_of_decode h
  exact ResourceSet.ofPattern_toPattern (fun _ => ResourceSet.bar_notMem_of_mem_ofPattern)
    (ResourceSet.entries_ofPattern_ne s)

theorem canonical_resourceSet {g : ResourceSet} (h : ResourceSet.ofPattern g.toPattern = g) :
    Canonical g :=
  ⟨rfl, congrArg Except.ok h⟩

instance : Stable ResourceSet := ⟨fun h => canonical_resourceSet (ofPattern_toPattern_of_decode h)⟩

/-! ## Named alternatives -/

instance : Stable Right := .of_forall fun r => ⟨rfl, by cases r <;> rfl⟩

instance : Stable Edit := .of_forall fun e => ⟨rfl, by cases e <;> rfl⟩

instance : Stable Change := .of_forall fun c => ⟨rfl, by cases c <;> rfl⟩

/-! ## Bindings by queue -/

/-- Reading the lists that were written puts the entries in one after the other. -/
theorem ofFields_map (entries : List (String × List String)) (d : BindingsByQueue) :
    BindingsByQueue.ofFields (entries.map fun (queue, keys) => (queue, encode keys)) d =
      .ok (entries.foldl (fun d e => d.insert e.1 e.2) d) := by
  induction entries generalizing d with
  | nil => rfl
  | cons e entries ih =>
    simp only [List.map_cons, BindingsByQueue.ofFields, (canonical_strings e.2).reread]
    exact ih _

instance : Stable BindingsByQueue := .of_forall fun d => by
  constructor
  · refine plainFields_iff.2 fun f hf => ?_
    obtain ⟨e, -, rfl⟩ := List.mem_map.1 hf
    exact (canonical_strings e.2).plain
  · exact (ofFields_map d.toList ∅).trans (congrArg Except.ok d.ofList_toList)

/-! ## Records -/

instance : Stable Grant :=
  have hempty : Canonical (∅ : ResourceSet) := canonical_resourceSet rfl
  .of_record (fun _ => rfl) (by decide)
    (.optional hempty (.optional hempty (.optional hempty (.of fun _ _ _ => rfl))))

instance : Stable Exchange :=
  have hflag : Canonical false := ⟨rfl, rfl⟩
  .of_record (fun _ => rfl) (by decide) (.optional hflag (.optional hflag
    (.required (.optional (canonical_string "") (.required (.of fun _ _ _ _ _ => rfl))))))

instance : Stable BindingRow :=
  .of_record (fun _ => rfl) (by decide) (.required (.optional (canonical_string "")
    (.required (.optional (canonical_string "") (.of fun _ _ _ _ => rfl)))))

instance : Stable UserEntry :=
  .of_record (fun _ => rfl) (by decide) (.required (.of fun _ => rfl))

instance : Stable VhostEntry :=
  .of_record (fun _ => rfl) (by decide) (.required (.of fun _ => rfl))

instance : Stable QueueArguments :=
  .of_record (fun _ => rfl) (by decide)
    (.required (.required (.required (.of fun _ _ _ => rfl))))

instance : Stable Registry.Credential :=
  .of_record (fun _ => rfl) (by decide)
    (.required (.required (.required (.of fun _ _ _ => rfl))))

instance : Stable Registry.Callback :=
  .of_record (fun _ => rfl) (by decide) (.required (.required (.required
    (.required (.required (.required (.of fun _ _ _ _ _ _ => rfl)))))))

instance : Stable Notification :=
  .of_record (fun _ => rfl) (by decide) (.required (.required (.of fun _ _ => rfl)))

instance : Stable Credentials :=
  .of_record (fun _ => rfl) (by decide) (.required (.required (.required (.of fun _ _ _ => rfl))))

instance : Stable PasswordReset :=
  .of_record (fun _ => rfl) (by decide) (.required (.required (.of fun _ _ => rfl)))

instance : Stable RegisterAdaptor :=
  .of_record (fun _ => rfl) (by decide)
    (.optional canonical_none (.required (.required (.of fun _ _ _ => rfl))))

instance : Stable DeleteAdaptor :=
  .of_record (fun _ => rfl) (by decide)
    (.optional canonical_none (.required (.required (.of fun _ _ _ => rfl))))

instance : Stable AdaptorRegistration :=
  .of_record (fun _ => rfl) (by decide) (.required (.required (.required
    (.required (.required (.required (.of fun _ _ _ _ _ _ => rfl)))))))

instance : Stable AdaptorBindings :=
  .of_record (fun _ => rfl) (by decide) (.required (.required (.of fun _ _ => rfl)))

instance : Stable Heartbeat :=
  .of_record (fun _ => rfl) (by decide)
    (.optional canonical_none (.required (.required (.of fun _ _ _ => rfl))))

instance : Stable HeartbeatRoute :=
  .of_record (fun _ => rfl) (by decide) (.required (.required (.of fun _ _ => rfl)))

instance : Stable StreamingRequest :=
  .of_record (fun _ => rfl) (by decide)
    (.optional (canonical_strings []) (.required (.required (.of fun _ _ _ => rfl))))

instance : Stable AppendStreaming :=
  .of_record (fun _ => rfl) (by decide)
    (.optional (canonical_strings []) (.required (.of fun _ _ => rfl)))

instance : Stable DeleteStreaming :=
  .of_record (fun _ => rfl) (by decide) (.required (.required (.of fun _ _ => rfl)))

instance : Stable StreamingSubscription :=
  .of_record (fun _ => rfl) (by decide) (.required (.required (.required (.required
    (.required (.required (.required (.of fun _ _ _ _ _ _ _ => rfl))))))))

instance : Stable StreamingBindings :=
  .of_record (fun _ => rfl) (by decide) (.required (.required (.of fun _ _ => rfl)))

instance : Stable CallbackRequest :=
  .of_record (fun _ => rfl) (by decide)
    (.optional (canonical_strings []) (.required (.required (.required (.of fun _ _ _ _ => rfl)))))

instance : Stable DeleteCallback :=
  .of_record (fun _ => rfl) (by decide) (.required (.required (.of fun _ _ => rfl)))

instance : Stable CallbackSummary :=
  .of_record (fun _ => rfl) (by decide) (.required (.required (.required (.of fun _ _ _ => rfl))))

instance : Stable TopologyEntry :=
  .of_record (fun _ => rfl) (by decide)
    (.required (.required (.required (.required (.of fun _ _ _ _ => rfl)))))

instance : Stable Failure.Reply :=
  .of_record (fun _ => rfl) (by decide) (.required (.required (.of fun _ _ => rfl)))

/-! ## All types -/

/-- The types that are sent to the control plane or to a broker, or come from them. -/
inductive OnWire : (α : Type) → [Wire α] → Prop
  | resourceSet : OnWire ResourceSet
  | grant : OnWire Grant
  | edit : OnWire Edit
  | right : OnWire Right
  | routingKey : OnWire RoutingKey
  | adaptorId : OnWire AdaptorId
  | exchange : OnWire Exchange
  | bindingRow : OnWire BindingRow
  | bindingsByQueue : OnWire BindingsByQueue
  | userEntry : OnWire UserEntry
  | vhostEntry : OnWire VhostEntry
  | queueArguments : OnWire QueueArguments
  | registerAdaptor : OnWire RegisterAdaptor
  | deleteAdaptor : OnWire DeleteAdaptor
  | adaptorRegistration : OnWire AdaptorRegistration
  | adaptorBindings : OnWire AdaptorBindings
  | heartbeat : OnWire Heartbeat
  | heartbeatRoute : OnWire HeartbeatRoute
  | appendStreaming : OnWire AppendStreaming
  | notification : OnWire Notification
  | callbackRequest : OnWire CallbackRequest
  | callback : OnWire Registry.Callback
  | callbackSummary : OnWire CallbackSummary
  | deleteCallback : OnWire DeleteCallback
  | deleteStreaming : OnWire DeleteStreaming
  | change : OnWire Change
  | streamingBindings : OnWire StreamingBindings
  | streamingRequest : OnWire StreamingRequest
  | streamingSubscription : OnWire StreamingSubscription
  | credential : OnWire Registry.Credential
  | passwordReset : OnWire PasswordReset
  | credentials : OnWire Credentials
  | topologyEntry : OnWire TopologyEntry
  | reply : OnWire Failure.Reply

theorem OnWire.stable {α : Type} [Wire α] (h : OnWire α) : Stable α := by
  cases h <;> infer_instance

/-- What is read from a text is read from the text that is written for it. A set of resources, a key
and an id come from strings, and are what is made of the strings that they are written as: the
exchange of a key, which is not written, is found in it again. A string that is no key or no id is
refused. -/
theorem reencoding_stable :
    (∀ {α : Type} [Wire α], OnWire α → ∀ {text : String} {a : α},
        decodeText α text = .ok a → decodeText α (encodeText a) = .ok a) ∧
      (∀ {text : String} {g : ResourceSet}, decodeText ResourceSet text = .ok g →
        ∃ s, (read text).1 = .string s ∧ ResourceSet.ofPattern s = g ∧
          encode g = .string g.toPattern ∧ ResourceSet.ofPattern g.toPattern = g) ∧
      (∀ {text : String} {k : RoutingKey}, decodeText RoutingKey text = .ok k →
        (read text).1 = .string k.text ∧ encode k = .string k.text ∧
          RoutingKey.ofString? k.text = .ok k ∧
          ∃ last, '/' ∉ last ∧ k.text.toList = k.exchange.toList ++ '/' :: last) ∧
      (∀ {text : String} {id : AdaptorId}, decodeText AdaptorId text = .ok id →
        (read text).1 = .string id.text ∧ encode id = .string id.text ∧
          AdaptorId.ofString? id.text = .ok id) ∧
      ∀ {text s : String}, (read text).1 = .string s →
        (∀ e, RoutingKey.ofString? s = .error e →
          decodeText RoutingKey text = .error (.refused e.message)) ∧
        ∀ e, AdaptorId.ofString? s = .error e →
          decodeText AdaptorId text = .error (.refused e.message) := by
  refine ⟨fun h _ _ ha => ?_, fun hg => ?_, fun {_ k} hk => ?_, fun {_ id} hid => ?_,
    fun hs => ⟨fun e he => ?_, fun e he => ?_⟩⟩
  · have := h.stable
    exact decodeText_encodeText_of_decodeText ha
  · have hdecode := (decodeText_eq_ok_iff.1 hg).1
    obtain ⟨s, hs, hg⟩ := ofPattern_of_decode hdecode
    exact ⟨s, hs, hg, rfl, ofPattern_toPattern_of_decode hdecode⟩
  · exact ⟨routingKey_of_decode (decodeText_eq_ok_iff.1 hk).1, rfl, k.ofString?_text,
      k.toList_text⟩
  · exact ⟨adaptorId_of_decode (decodeText_eq_ok_iff.1 hid).1, rfl, id.ofString?_text⟩
  · refine decodeText_eq_error ?_
    rw [hs]
    exact refuse_of_parse he
  · refine decodeText_eq_error ?_
    rw [hs]
    exact refuse_of_parse he

/-- A request without a virtual host and with a field that it does not have, a grant that is an
array and lacks an item, and a string with too few segments for a key. -/
theorem reencoding_stable_samples :
    let request : RegisterAdaptor := ⟨"a/b", "alice", none⟩
    let grant : Grant := ⟨∅, ⟨["a", "", "b"]⟩, ∅⟩
    decodeText RegisterAdaptor (encodeText request) = .ok request ∧
      decodeText Grant (encodeText grant) = .ok grant ∧
      decodeText RoutingKey "\"a/b\"" =
        .error (.refused (Access.Malformed.routingKey "a/b").message) := by
  intro request grant
  obtain ⟨hstable, -, -, -, hrefused⟩ := reencoding_stable
  have hrequest : decodeText RegisterAdaptor
      "\x7b\"owner\": \"alice\", \"note\": [1, null], \"adaptor_id\": \"a/b\"\x7d" =
        .ok request := by
    decide +kernel
  have hgrant : decodeText Grant "[\"\", \"a||b\"]" = .ok grant := by decide +kernel
  have hread : (read "\"a/b\"").1 = .string "a/b" := by rfl
  have hmalformed : RoutingKey.ofString? "a/b" = .error (.routingKey "a/b") :=
    dif_neg (by decide +kernel)
  exact ⟨hstable .registerAdaptor hrequest, hstable .grant hgrant,
    (hrefused hread).1 _ hmalformed⟩

end BrokerControl
