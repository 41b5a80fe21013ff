import BrokerControl.Management.Client
import BrokerControl.Proofs.Text.Percent

/-! # The paths of requests

A path is split at its slashes and each piece is decoded. For a request that gives the path of the
base, `api` and the names of the resource, each as it is; but a name of one or two dots leaves no
piece behind, and so requests for different resources can go to one path. -/

namespace BrokerControl.Management

open Text (Percent.decode? Percent.encode)

namespace Url

variable {u : Url} {text : String}

/-! ## Segments of a base -/

theorem mem_resolve {done rest : List String} {x : String} (h : x ∈ resolve done rest) :
    x ∈ done ∨ x ∈ rest ∨ x = "" := by
  induction rest generalizing done with
  | nil => exact .inl h
  | cons s rest ih =>
    unfold resolve at h
    extract_lets kept at h
    have hkept : ∀ y ∈ kept, y ∈ done ∨ y = s := by
      intro y hy
      simp only [kept] at hy
      split at hy
      · exact .inl ((List.dropLast_sublist done).subset hy)
      · split at hy
        · exact .inl hy
        · simpa using hy
    split at h
    · rcases List.mem_append.1 h with h | h
      · rcases hkept x h with h | h
        · exact .inl h
        · exact .inr (.inl (by simp [h]))
      · exact .inr (.inr (List.mem_singleton.1 h))
    · rcases ih h with h | h | h
      · rcases hkept x h with h | h
        · exact .inl h
        · exact .inr (.inl (by simp [h]))
      · exact .inr (.inl (List.mem_cons_of_mem _ h))
      · exact .inr (.inr h)

/-- No segment has a slash, as they are what stands between slashes. -/
def Segmented (u : Url) : Prop := ∀ x ∈ u.segments, '/' ∉ x.toList

private theorem slash_notMem_resolve {s x : String} (h : x ∈ resolve [] (Text.split '/' s)) :
    '/' ∉ x.toList := by
  rcases mem_resolve h with h | h | h
  · cases h
  · exact Text.sep_notMem_of_mem_split h
  · simp [h]

theorem segmented_withPath (scheme : String) (host : Option Host) (port : Option UInt16)
    (cs : List Char) : (withPath scheme host port cs).Segmented := by
  intro x hx
  simp only [withPath] at hx
  split at hx
  · split at hx
    · simp_all
    · cases hx
  · exact slash_notMem_resolve hx
  · exact slash_notMem_resolve hx

theorem segmented_of_ofString? (h : ofString? text = some u) : u.Segmented := by
  simp only [ofString?, Option.bind_eq_bind, Option.bind_eq_some_iff] at h
  obtain ⟨⟨scheme, cs⟩, -, h⟩ := h
  dsimp only at h
  split at h
  · split at h
    · obtain ⟨_, -, h⟩ := Option.bind_eq_some_iff.1 h
      cases h
      exact segmented_withPath _ _ _ _
    · cases h
      exact segmented_withPath _ _ _ _
  · split at h
    · obtain ⟨_, -, h⟩ := Option.bind_eq_some_iff.1 h
      cases h
      exact segmented_withPath _ _ _ _
    · split at h <;> cases h
      exact segmented_withPath _ _ _ _

/-! ## Pieces of a path -/

/-- The pieces of the path between its slashes, decoded. Nothing stands before the first slash. -/
def pieces (u : Url) : List (Option String) := (Text.split '/' u.path).map Percent.decode?

/-- The segments of a path without an empty one at the end. -/
def trimmed (segments : List String) : List String :=
  if segments.getLast? = some "" then segments.dropLast else segments

/-- The names that have a place in a path. -/
def lasting (names : List String) : List String := names.filter fun n => n ≠ "." && n ≠ ".."

theorem root_eq (segments : List String) :
    root segments = if trimmed segments = [""] then [] else trimmed segments := rfl

/-- The path of a base is lost if it is two slashes, and only then. -/
theorem root_eq_trimmed_iff {segments : List String} :
    root segments = trimmed segments ↔ segments ≠ ["", ""] := by
  have htrimmed : trimmed segments = [""] ↔ segments = ["", ""] := by
    unfold trimmed
    split
    · next hlast =>
      obtain ⟨init, rfl⟩ := List.getLast?_eq_some_iff.1 hlast
      rw [List.dropLast_concat]
      exact (List.append_left_inj [""]).symm
    · next hlast =>
      constructor <;>
        · rintro rfl
          exact absurd rfl hlast
  rw [ne_eq, ← htrimmed, root_eq]
  split <;> simp_all

theorem mem_of_mem_root {segments : List String} {x : String} (h : x ∈ root segments) :
    x ∈ segments := by
  rw [root_eq] at h
  split at h
  · cases h
  · unfold trimmed at h
    split at h
    · exact (List.dropLast_sublist _).subset h
    · exact h

theorem lasting_eq_self_iff {names : List String} :
    lasting names = names ↔ ∀ n ∈ names, n ≠ "." ∧ n ≠ ".." := by
  simp [lasting, List.filter_eq_self]

/-- A name of dots does not tell from another. -/
theorem lasting_singleton_eq_iff {n n' : String} :
    lasting [n] = lasting [n'] ↔ n = n' ∨ n ∈ [".", ".."] ∧ n' ∈ [".", ".."] := by
  have hlasting (x : String) : lasting [x] = if x ∈ [".", ".."] then [] else [x] := by
    simp only [lasting, List.filter_cons, List.filter_nil]
    grind
  rw [hlasting, hlasting]
  grind

theorem split_path (hne : u.segments ≠ []) (hu : u.Segmented) :
    Text.split '/' u.path = "" :: u.segments := by
  have hpath : u.path = Text.join '/' ("" :: u.segments) := by
    obtain ⟨x, xs, hx⟩ := List.exists_cons_of_ne_nil hne
    rw [path, hx]
    refine String.toList_injective ?_
    simp [Text.join, Text.unpieces]
  rw [hpath, Text.split_join (List.cons_ne_nil _ _)]
  intro p hp
  rcases List.mem_cons.1 hp with rfl | hp
  · simp
  · exact hu p hp

private theorem slash_notMem_encode (n : String) :
    '/' ∉ (Percent.encode keepsInSegment n).toList := by
  intro hslash
  rcases Text.Percent.of_mem_encode hslash with hkeep | hpercent | hdigit
  · exact absurd hkeep (by decide)
  · exact absurd hpercent (by decide)
  · exact absurd hdigit (by decide)

theorem segmented_resource (hu : u.Segmented) (names : List String) :
    (u.resource names).Segmented := by
  intro x hx
  rcases List.mem_append.1 hx with hx | hx
  · exact hu x (mem_of_mem_root hx)
  · rcases List.mem_cons.1 hx with rfl | hx
    · decide
    · obtain ⟨n, -, rfl⟩ := List.mem_map.1 hx
      exact slash_notMem_encode n

theorem resource_eq (u : Url) (names : List String) :
    u.resource names = { u with
      segments :=
        root u.segments ++ "api" :: (lasting names).map (Percent.encode keepsInSegment) } :=
  rfl

/-- The pieces are those of the base, `api` and the names that have a place in a path. -/
theorem pieces_resource (hu : u.Segmented) (names : List String) :
    (u.resource names).pieces =
      some "" :: ((root u.segments).map Percent.decode? ++
        some "api" :: (lasting names).map some) := by
  have hsegments : (u.resource names).segments =
      root u.segments ++ "api" :: (lasting names).map (Percent.encode keepsInSegment) := rfl
  have hpercent : keepsInSegment '%' = false := by decide
  have hread : Percent.decode? ∘ Percent.encode keepsInSegment = some := by
    funext n
    rw [Function.comp_apply, Text.Percent.decode?_encode hpercent]
  have hempty : Percent.decode? "" = some "" := by decide +kernel
  have hapi : Percent.decode? "api" = some "api" := by decide +kernel
  rw [pieces, split_path (by simp [hsegments]) (segmented_resource hu names), hsegments]
  simp only [List.map_cons, List.map_append, List.map_map, hread, hempty, hapi]

/-- The last name ends the path unless it is made of dots. -/
theorem getLast?_pieces_resource_iff (hu : u.Segmented) {names : List String} {n : String} :
    (u.resource (names ++ [n])).pieces.getLast? = some (some n) ↔ n ∉ [".", ".."] := by
  have hlast : (u.resource (names ++ [n])).pieces.getLast? =
      (("api" :: lasting (names ++ [n])).map some).getLast? := by
    rw [pieces_resource hu, ← List.map_cons, ← List.cons_append, List.getLast?_append,
      Option.or_of_isSome (by simp)]
  rw [hlast, List.getLast?_map]
  constructor
  · intro h
    obtain ⟨x, hx, hn⟩ := Option.map_eq_some_iff.1 h
    cases hn
    rcases List.mem_cons.1 (List.mem_of_getLast? hx) with rfl | hx
    · decide
    · simpa using (List.mem_filter.1 hx).2
  · intro hn
    have hlasting : lasting (names ++ [n]) = lasting names ++ [n] := by simp_all [lasting]
    rw [hlasting, ← List.cons_append, List.getLast?_concat, Option.map_some]

/-- Two resources have one path exactly if they differ in names of dots alone. -/
theorem path_resource_eq_iff (hu : u.Segmented) {names names' : List String} :
    (u.resource names).path = (u.resource names').path ↔ lasting names = lasting names' := by
  constructor
  · intro hpath
    have hpieces : (u.resource names).pieces = (u.resource names').pieces := by
      rw [pieces, hpath, pieces]
    rw [pieces_resource hu, pieces_resource hu] at hpieces
    have hlasting := List.append_cancel_left (List.cons.inj hpieces).2
    exact (List.map_inj_right fun _ _ => Option.some.inj).1 (List.cons.inj hlasting).2
  · intro hlasting
    rw [resource_eq, resource_eq, hlasting]

/-- The pieces are the base's, `api` and the names as they are, unless a name is made of dots or
the path of the base is lost. -/
theorem pieces_resource_eq_iff (hu : u.Segmented) {names : List String} :
    (u.resource names).pieces =
        some "" :: ((trimmed u.segments).map Percent.decode? ++ some "api" :: names.map some) ↔
      (∀ n ∈ names, n ≠ "." ∧ n ≠ "..") ∧ u.segments ≠ ["", ""] := by
  rw [pieces_resource hu, ← lasting_eq_self_iff, ← root_eq_trimmed_iff]
  constructor
  · intro hpieces
    have hrest := (List.cons.inj hpieces).2
    have hbase : u.segments ≠ ["", ""] := by
      intro hlost
      rw [hlost] at hrest
      have hapi : some "api" = Percent.decode? "" := (List.cons.inj hrest).1
      exact absurd hapi (by decide +kernel)
    rw [root_eq_trimmed_iff.2 hbase] at hrest
    have hnames := (List.cons.inj (List.append_cancel_left hrest)).2
    exact ⟨(List.map_inj_right fun _ _ => Option.some.inj).1 hnames, root_eq_trimmed_iff.2 hbase⟩
  · rintro ⟨hnames, hroot⟩
    rw [hnames, hroot]

end Url

end BrokerControl.Management

namespace BrokerControl.Broker.Call

open Management

/-- The virtual host, if there is one, and the names that a call is about. -/
def places : Call → List String
  | .createExchange vhost name | .getExchange vhost name | .deleteExchange vhost name
  | .listExchangeBindings vhost name | .createQueue vhost name | .deleteQueue vhost name
  | .listQueueBindings vhost name | .getUserPermissions vhost name
  | .setUserPermissions vhost name _ | .publish vhost name _ _ => [vhost, name]
  | .bindQueue vhost exchange queue _ | .unbindQueue vhost exchange queue _ =>
    [vhost, exchange, queue]
  | .getUser name | .createUser name _ | .updateUserPassword name _ | .createVhost name
  | .deleteVhost name => [name]
  | .listVhosts => []

/-- The places that the names of a resource tell. -/
def placesOf : List String → List String
  | "bindings" :: vhost :: _ :: exchange :: _ :: queue :: _ => [vhost, exchange, queue]
  | "users" :: name :: _ | "vhosts" :: name :: _ => [name]
  | _ :: vhost :: name :: _ => [vhost, name]
  | _ => []

/-- Without dots among them, the places can be read off the path. -/
theorem placesOf_lasting {c : Call} (h : ∀ n ∈ c.places, n ≠ "." ∧ n ≠ "..") :
    placesOf (Url.lasting c.names) = c.places := by
  cases c <;> simp_all [names, places, Url.lasting, placesOf]

end BrokerControl.Broker.Call

namespace BrokerControl.Management.Client

open Broker (Call)
open Text (Percent.decode?)

variable {client : Client} {url username password : String} {arguments : Broker.QueueArguments}

theorem segmented_of_ofUrl (h : ofUrl url username password arguments = .ok client) :
    client.base.Segmented := by
  unfold ofUrl at h
  split at h <;> cases h
  next hbase => exact Url.segmented_of_ofString? hbase

theorem request_eq_ok {c : Call} {r : Request} (h : client.request c = .ok r) :
    ∃ body, r = ⟨c.method, client.base.resource c.names, client.authorization, body⟩ := by
  unfold request at h
  cases hbody : c.body client.queueArguments with
  | error e => rw [hbody] at h; cases h
  | ok body => rw [hbody] at h; cases h; exact ⟨body, rfl⟩

theorem url_of_request {c : Call} {r : Request} (h : client.request c = .ok r) :
    r.url = client.base.resource c.names := by
  obtain ⟨_, rfl⟩ := request_eq_ok h
  rfl

theorem method_of_request {c : Call} {r : Request} (h : client.request c = .ok r) :
    r.method = c.method := by
  obtain ⟨_, rfl⟩ := request_eq_ok h
  rfl

/-- Every resource has the pieces of the base, `api` and those of its names that are not made of
dots. So its path says what it is to say exactly if no name is made of dots and the base is not two
slashes, and requests go to one path exactly if they differ in names of dots alone. -/
theorem requests_addressed (h : ofUrl url username password arguments = .ok client) :
    (∀ names, (client.base.resource names).pieces =
      some "" :: ((Url.root client.base.segments).map Percent.decode? ++
        some "api" :: (Url.lasting names).map some)) ∧
    (∀ names, (client.base.resource names).pieces =
        some "" :: ((Url.trimmed client.base.segments).map Percent.decode? ++
          some "api" :: names.map some) ↔
      (∀ n ∈ names, n ≠ "." ∧ n ≠ "..") ∧ client.base.segments ≠ ["", ""]) ∧
    ∀ (c c' : Call) (r r' : Request), client.request c = .ok r → client.request c' = .ok r' →
      (r.url.path = r'.url.path ↔ Url.lasting c.names = Url.lasting c'.names) ∧
      ((∀ n ∈ c.places ++ c'.places, n ≠ "." ∧ n ≠ "..") → r.url.path = r'.url.path →
        c.places = c'.places) := by
  have hbase := segmented_of_ofUrl h
  refine ⟨Url.pieces_resource hbase, fun names => Url.pieces_resource_eq_iff hbase, ?_⟩
  intro c c' r r' hr hr'
  have hpath : r.url.path = r'.url.path ↔ Url.lasting c.names = Url.lasting c'.names := by
    rw [url_of_request hr, url_of_request hr', Url.path_resource_eq_iff hbase]
  refine ⟨hpath, fun hplaces hsame => ?_⟩
  calc
    c.places = Call.placesOf (Url.lasting c.names) :=
      (Call.placesOf_lasting fun n hn => hplaces n (List.mem_append_left _ hn)).symm
    _ = Call.placesOf (Url.lasting c'.names) := by rw [hpath.1 hsame]
    _ = c'.places := Call.placesOf_lasting fun n hn => hplaces n (List.mem_append_right _ hn)

/-- Names with slashes, percent signs and letters beyond ASCII are found in the path as they are. -/
theorem requests_addressed_below_a_path :
    let host : Host := .version6 [0, 0, 0, 0, 0, 0, 0, 1]
    let base : Url := ⟨"http", some host, some 15672, ["mq", ""], none⟩
    let client : Client := ⟨base, "guest", "guest", {}⟩
    let names := ["exchanges", "/", "größe/50%"]
    ofUrl "http://[::1]:15672/mq/" "guest" "guest" = .ok client ∧
      (∀ n ∈ names, n ≠ "." ∧ n ≠ "..") ∧ base.segments ≠ ["", ""] ∧
      (base.resource names).pieces =
        some "" :: ([some "mq"] ++ some "api" :: names.map some) := by
  intro host base client names
  have hread : Url.ofString? "http://[::1]:15672/mq/" = some base := by decide +kernel
  have hclient : ofUrl "http://[::1]:15672/mq/" "guest" "guest" = .ok client := by
    rw [ofUrl, hread]
  have hnames : ∀ n ∈ names, n ≠ "." ∧ n ≠ ".." := by decide
  have hbase : base.segments ≠ ["", ""] := by decide
  have hmq : (Url.trimmed base.segments).map Percent.decode? = [some "mq"] := by decide +kernel
  have hpieces := ((requests_addressed hclient).2.1 names).2 ⟨hnames, hbase⟩
  rw [hmq] at hpieces
  exact ⟨hclient, hnames, hbase, hpieces⟩

/-- Both exchanges named by dots are deleted at one path, which is that of no exchange at all. -/
theorem requests_for_dots_share_a_path :
    let host : Host := .version6 [0, 0, 0, 0, 0, 0, 0, 1]
    let base : Url := ⟨"http", some host, some 15672, ["mq", ""], none⟩
    let one : Call := .deleteExchange "prod" "."
    let other : Call := .deleteExchange "prod" ".."
    Url.ofString? "http://[::1]:15672/mq/" = some base ∧ one.name = other.name ∧
      one.places ≠ other.places ∧
      (base.resource one.names).path = "/mq/api/exchanges/prod" ∧
      (base.resource other.names).path = "/mq/api/exchanges/prod" ∧
      (base.resource one.names).pieces ≠
        some "" :: ((Url.trimmed base.segments).map Percent.decode? ++
          some "api" :: one.names.map some) := by
  decide +kernel

end BrokerControl.Management.Client
