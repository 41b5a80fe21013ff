import BrokerControl.Proofs.Management.Paths

/-! # The names of bindings

A binding is removed under a name made of its key. Reading the name gives the key back, so no two
bindings of an exchange and a queue are removed at one path, with two exceptions: the empty key has
the name of the key `~`, and keys of dots have no place in a path. -/

namespace BrokerControl.Management

open Text (Percent.decode? Percent.encode Percent.isUnreserved)

variable {key key' : String}

/-! ## Names of keys -/

/-- The key that a name is read as. -/
def namedKey (key : String) : String := if key = "" then "~" else key

theorem namedKey_eq_self_iff : namedKey key = key ↔ key ≠ "" := by
  unfold namedKey
  split <;> simp_all

theorem namedKey_eq_iff :
    namedKey key = namedKey key' ↔ key = key' ∨ key ∈ ["", "~"] ∧ key' ∈ ["", "~"] := by
  simp only [namedKey, List.mem_cons, List.not_mem_nil, or_false]
  grind

theorem propertiesKey_eq_encode (key : String) :
    propertiesKey key = Percent.encode Percent.isUnreserved (namedKey key) := by
  unfold propertiesKey namedKey
  split
  · -- the tilde is kept, so the name of the empty key is in the image of the encoding
    decide
  · rfl

theorem decode?_propertiesKey (key : String) :
    Percent.decode? (propertiesKey key) = some (namedKey key) := by
  rw [propertiesKey_eq_encode, Text.Percent.decode?_encode (by decide)]

theorem propertiesKey_eq_iff :
    propertiesKey key = propertiesKey key' ↔
      key = key' ∨ key ∈ ["", "~"] ∧ key' ∈ ["", "~"] := by
  rw [← namedKey_eq_iff]
  constructor
  · intro hname
    have hread := congrArg Percent.decode? hname
    rw [decode?_propertiesKey, decode?_propertiesKey] at hread
    exact Option.some.inj hread
  · intro hkey
    rw [propertiesKey_eq_encode, hkey, propertiesKey_eq_encode]

/-- A name is made of dots exactly if its key is, and then it is the key. -/
theorem propertiesKey_eq_dots_iff {dots : String} (h : dots = "." ∨ dots = "..") :
    propertiesKey key = dots ↔ key = dots := by
  have hself : propertiesKey dots = dots := by rcases h with rfl | rfl <;> decide
  have hneither : dots ∉ ["", "~"] := by rcases h with rfl | rfl <;> decide
  constructor
  · intro hkey
    rcases propertiesKey_eq_iff.1 (hkey.trans hself.symm) with hkey | hkey
    · exact hkey
    · exact absurd hkey.2 hneither
  · rintro rfl
    exact hself

theorem propertiesKey_mem_dots_iff : propertiesKey key ∈ [".", ".."] ↔ key ∈ [".", ".."] := by
  simp [propertiesKey_eq_dots_iff]

/-- Names have one place in a path exactly if they are one name or both made of dots. -/
theorem lasting_propertiesKey_eq_iff :
    Url.lasting [propertiesKey key] = Url.lasting [propertiesKey key'] ↔
      propertiesKey key = propertiesKey key' ∨ key ∈ [".", ".."] ∧ key' ∈ [".", ".."] := by
  rw [Url.lasting_singleton_eq_iff, propertiesKey_mem_dots_iff, propertiesKey_mem_dots_iff]

end BrokerControl.Management

namespace BrokerControl.Broker.Binding

open Management

/-! ## Removals -/

/-- The call that removes a binding. -/
def removal (b : Binding) : Call := .unbindQueue b.vhost b.exchange b.queue b.routingKey

variable {b b' : Binding}

theorem names_removal (b : Binding) :
    b.removal.names =
      ["bindings", b.vhost, "e", b.exchange, "q", b.queue] ++ [propertiesKey b.routingKey] :=
  rfl

/-- Nothing but a binding is removed under the names of a binding. -/
theorem exists_removal {c : Call} (hmethod : c.method = .delete)
    (hnames : Url.lasting c.names = Url.lasting b.removal.names) :
    ∃ b' : Binding, c = b'.removal := by
  cases c
  case unbindQueue vhost exchange queue key => exact ⟨⟨vhost, exchange, queue, key⟩, rfl⟩
  case deleteExchange | deleteQueue | deleteVhost =>
    -- their paths have another first name
    rw [names_removal] at hnames
    simp [Call.names, Url.lasting] at hnames
  all_goals cases hmethod

/-- Bindings of one exchange and queue are removed at one path exactly if the names of their keys
have one place in it. Others never are, unless there are dots in the way. -/
theorem lasting_removal_eq_iff (h : b.removal.places = b'.removal.places ∨
      ∀ n ∈ b.removal.places ++ b'.removal.places, n ≠ "." ∧ n ≠ "..") :
    Url.lasting b.removal.names = Url.lasting b'.removal.names ↔
      b.removal.places = b'.removal.places ∧
        Url.lasting [propertiesKey b.routingKey] = Url.lasting [propertiesKey b'.routingKey] := by
  have hkeys (hplaces : b.removal.places = b'.removal.places) :
      Url.lasting b.removal.names = Url.lasting b'.removal.names ↔
        Url.lasting [propertiesKey b.routingKey] = Url.lasting [propertiesKey b'.routingKey] := by
    obtain ⟨hvhost, hexchange, hqueue⟩ : b.vhost = b'.vhost ∧ b.exchange = b'.exchange ∧
        b.queue = b'.queue := by simpa [removal, Call.places] using hplaces
    rw [names_removal, names_removal, hvhost, hexchange, hqueue]
    simp only [Url.lasting, List.filter_append, List.append_right_inj]
  constructor
  · intro hnames
    have hplaces : b.removal.places = b'.removal.places := by
      rcases h with hplaces | hdots
      · exact hplaces
      · rw [← Call.placesOf_lasting fun n hn => hdots n (List.mem_append_left _ hn), hnames,
          Call.placesOf_lasting fun n hn => hdots n (List.mem_append_right _ hn)]
    exact ⟨hplaces, (hkeys hplaces).1 hnames⟩
  · rintro ⟨hplaces, hlasting⟩
    exact (hkeys hplaces).2 hlasting

end BrokerControl.Broker.Binding

namespace BrokerControl.Management.Client

open Broker (Binding Call)
open Text (Percent.decode? Percent.encodeByte Percent.isUnreserved)

variable {client : Client} {url username password : String} {arguments : Broker.QueueArguments}

/-- The name of a key has the key's bytes, as they are or as two digits, and is read back to the
key, unless that is empty. Different keys have different names, but the empty one has that of `~`.

The path of the request that removes a binding ends with the name, unless the key is made of dots,
and no call but the removal of a binding removes what is there. Bindings of one exchange and queue
are removed at one path exactly if their keys have one name or are both made of dots; others never
are, unless a virtual host, an exchange or a queue is named by dots. -/
theorem bindings_told_apart (h : ofUrl url username password arguments = .ok client) :
    (∀ key ≠ "", (propertiesKey key).toList =
      key.toUTF8.data.toList.flatMap (Percent.encodeByte Percent.isUnreserved)) ∧
    (∀ key, Percent.decode? (propertiesKey key) = some key ↔ key ≠ "") ∧
    (∀ key key', propertiesKey key = propertiesKey key' ↔
      key = key' ∨ key ∈ ["", "~"] ∧ key' ∈ ["", "~"]) ∧
    ∀ b : Binding, ∃ r, client.request b.removal = .ok r ∧
      (r.url.pieces.getLast? = some (some (propertiesKey b.routingKey)) ↔
        b.routingKey ∉ [".", ".."]) ∧
      (∀ (c : Call) (r' : Request), client.request c = .ok r' → r'.method = r.method →
        r'.url.path = r.url.path → ∃ b' : Binding, c = b'.removal) ∧
      ∀ (b' : Binding) (r' : Request), client.request b'.removal = .ok r' →
        (b.removal.places = b'.removal.places ∨
          ∀ n ∈ b.removal.places ++ b'.removal.places, n ≠ "." ∧ n ≠ "..") →
        (r.url.path = r'.url.path ↔ b.removal.places = b'.removal.places ∧
          (b.routingKey = b'.routingKey ∨
            b.routingKey ∈ ["", "~"] ∧ b'.routingKey ∈ ["", "~"] ∨
            b.routingKey ∈ [".", ".."] ∧ b'.routingKey ∈ [".", ".."])) := by
  have hbase := segmented_of_ofUrl h
  refine ⟨?bytes, ?read, fun _ _ => propertiesKey_eq_iff, fun b => ?removals⟩
  case bytes =>
    intro key hkey
    rw [propertiesKey, if_neg hkey]
    refine Text.Percent.toList_encode (fun c hc => ?_) key
    exact Nat.lt_of_le_of_lt (Text.Percent.toNat_of_isUnreserved hc) (by decide)
  case read =>
    intro key
    rw [decode?_propertiesKey, Option.some_inj, namedKey_eq_self_iff]
  case removals =>
    obtain ⟨r, hr⟩ : ∃ r, client.request b.removal = .ok r := ⟨_, rfl⟩
    refine ⟨r, hr, ?ending, ?kind, ?path⟩
    case ending =>
      rw [url_of_request hr, b.names_removal, Url.getLast?_pieces_resource_iff hbase,
        propertiesKey_mem_dots_iff]
    case kind =>
      intro c r' hr' hmethod hpath
      rw [method_of_request hr', method_of_request hr] at hmethod
      rw [url_of_request hr', url_of_request hr, Url.path_resource_eq_iff hbase] at hpath
      exact Binding.exists_removal hmethod hpath
    case path =>
      intro b' r' hr' hplaces
      rw [url_of_request hr, url_of_request hr', Url.path_resource_eq_iff hbase,
        Binding.lasting_removal_eq_iff hplaces, lasting_propertiesKey_eq_iff,
        propertiesKey_eq_iff, or_assoc]

/-- A key that looks like the encoding of another has a name of its own. -/
theorem bindings_told_apart_encoded_key :
    let host : Host := .version6 [0, 0, 0, 0, 0, 0, 0, 1]
    let client : Client := ⟨⟨"http", some host, some 15672, [""], none⟩, "guest", "guest", {}⟩
    let one : Binding := ⟨"prod", "ex", "q1", "~"⟩
    let other : Binding := ⟨"prod", "ex", "q1", "%7E"⟩
    ofUrl "http://[::1]:15672" "guest" "guest" = .ok client ∧
      Percent.decode? (propertiesKey "%7E") = some "%7E" ∧
      one.removal.places = other.removal.places ∧
      ∃ r r', client.request one.removal = .ok r ∧ client.request other.removal = .ok r' ∧
        r.url.path ≠ r'.url.path := by
  intro host client one other
  have hread : Url.ofString? "http://[::1]:15672" = some client.base := by decide +kernel
  have hclient : ofUrl "http://[::1]:15672" "guest" "guest" = .ok client := by
    rw [ofUrl, hread]
  obtain ⟨-, hname, -, hremovals⟩ := bindings_told_apart hclient
  obtain ⟨r, hr, -, -, hpaths⟩ := hremovals one
  refine ⟨hclient, (hname "%7E").2 (by decide), rfl, r, _, hr, rfl, ?_⟩
  intro hpath
  have hkeys := ((hpaths other _ rfl (.inl rfl)).1 hpath).2
  exact absurd hkeys (by decide)

/-- The bindings of the empty key and of `~` are removed at one path, though a broker that is asked
for one of them removes that one alone. -/
theorem removals_share_a_path :
    let host : Host := .version6 [0, 0, 0, 0, 0, 0, 0, 1]
    let base : Url := ⟨"http", some host, some 15672, [""], none⟩
    let one : Binding := ⟨"prod", "ex", "q1", ""⟩
    let other : Binding := ⟨"prod", "ex", "q1", "~"⟩
    let broker : Broker := { bindings := [one, other] }
    Url.ofString? "http://[::1]:15672" = some base ∧ one.routingKey ≠ other.routingKey ∧
      propertiesKey one.routingKey = "~" ∧ propertiesKey other.routingKey = "~" ∧
      (base.resource one.removal.names).path = "/api/bindings/prod/e/ex/q/q1/~" ∧
      (base.resource other.removal.names).path = "/api/bindings/prod/e/ex/q/q1/~" ∧
      (broker.respond one.removal).2.bindings = [other] := by
  decide +kernel

end BrokerControl.Management.Client
