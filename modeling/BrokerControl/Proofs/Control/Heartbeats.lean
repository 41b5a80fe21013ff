import BrokerControl.Proofs.Broker.Routes
import BrokerControl.Proofs.Control.Runs
import BrokerControl.Proofs.Json.ReadBack

/-! # Where heartbeats go

A heartbeat goes along the first route of its exchange, the queues in order, whose key has the
status in it. Nothing is published unless there is such a route, and then only once. The loop over
the queues, which leaves off at the first match and keeps the first key that did not match, answers
as a single search of all routes would. -/

namespace BrokerControl.Control

open Access (AdaptorId)
open Broker (Address Message Route flattened)

/-! ## Routes that fit -/

/-- The status stands in the key of the route without a gap. -/
def Fits (status : String) (r : Route) : Prop := status.toList <:+: r.2.toList

/-- The first route with the status in its key. -/
def routeFor (status : String) (routes : List Route) : Option Route :=
  routes.find? fun (_, key) => Text.occursIn status.toList key.toList

theorem routeFor_eq_some_iff {status : String} {routes : List Route} {r : Route} :
    routeFor status routes = some r ↔
      Fits status r ∧ ∃ before after, routes = before ++ r :: after ∧
        ∀ r' ∈ before, ¬Fits status r' := by
  simp [routeFor, List.find?_eq_some_iff_append, Fits, ← Text.occursIn_iff]

theorem routeFor_eq_none_iff {status : String} {routes : List Route} :
    routeFor status routes = none ↔ ∀ r ∈ routes, ¬Fits status r := by
  simp [routeFor, Fits, ← Text.occursIn_iff]

/-! ## The loop over the queues -/

section Loop

variable {status queue : String} {keys : List String} {queues : List (String × List String)}

/-- Among the routes of the first queue the search is one for a key. -/
theorem routeFor_flattened_cons :
    routeFor status (flattened ((queue, keys) :: queues)) =
      ((keys.find? fun key => Text.occursIn status.toList key.toList).map fun key =>
        (queue, key)).or (routeFor status (flattened queues)) := by
  have hfirst : routeFor status (keys.map fun key => (queue, key)) =
      (keys.find? fun key => Text.occursIn status.toList key.toList).map fun key =>
        (queue, key) := by
    rw [routeFor, List.find?_map]
    rfl
  rw [← hfirst]
  exact List.find?_append

theorem head?_flattened_cons :
    (flattened ((queue, keys) :: queues)).head?.map (·.2) =
      keys.head?.or ((flattened queues).head?.map (·.2)) := by
  cases keys <;> rfl

/-- Going through the queues answers as a single search of their routes, and the key that is carried
along ends up being that of the first route. -/
theorem forward_eq {publish : String → Procedure Unit} {giveUp : Option String → Failure}
    (firstMismatch : Option String) :
    forward status publish giveUp firstMismatch queues =
      match routeFor status (flattened queues) with
      | some (queue, key) => do
        publish key
        return ⟨queue, key⟩
      | none => throw (giveUp (firstMismatch.or ((flattened queues).head?.map (·.2)))) := by
  induction queues generalizing firstMismatch with
  | nil => cases firstMismatch <;> rfl
  | cons entry queues ih =>
    obtain ⟨queue, keys⟩ := entry
    rw [routeFor_flattened_cons, forward]
    cases keys.find? fun key => Text.occursIn status.toList key.toList with
    | some key => rfl
    | none =>
      -- the first key of this queue counts only if no queue before it had one
      dsimp only
      rw [ih, head?_flattened_cons, ← Option.or_assoc, Option.map_none, Option.none_or]
      cases firstMismatch <;> rfl

/-- The guard after the loop asks whether there is any route at all, and if there is one then there
is a key to name. -/
theorem unmatched_eq (id : String) :
    unmatched id queues ((flattened queues).head?.map (·.2)) =
      match flattened queues with
      | [] => .notFound s!"No queue bound to {id}"
      | (_, key) :: _ => .validation s!"Routing key not matched: {key}" := by
  cases hroutes : flattened queues with
  | cons r routes => rfl
  | nil =>
    have hempty : queues.all (·.2.isEmpty) = true := by
      simpa [flattened] using hroutes
    simp only [unmatched, hempty]
    rfl

end Loop

/-! ## Bodies -/

/-- The JSON value that a message carries. -/
def bodyOf (m : Message) : Option Json := (String.fromUTF8? m.body).bind Json.parse?

variable {w : World} {s : Settings} {h : Heartbeat} {id : AdaptorId}

/-- What a heartbeat for an adaptor with an exchange comes to. -/
theorem run_heartbeat (hstatus : h.status ≠ "") (hid : AdaptorId.ofString? h.adaptorId = .ok id)
    (hexchange : w.broker.exchanges.contains ⟨s.vhostOr h.vhost, id.text⟩ = true) :
    w.run s (.heartbeat h) =
      match routeFor h.status (w.broker.sortedRoutes ⟨s.vhostOr h.vhost, id.text⟩) with
      | some (queue, key) =>
        if w.broker.faults.publish then
          (.error (.remote "Heartbeat publish failed"
            (Broker.injected s!"/api/exchanges/{s.vhostOr h.vhost}/{id.text}/publish")), w)
        else (.ok ⟨queue, key⟩, w.withBroker { w.broker with
          published := w.broker.published ++
            [⟨s.vhostOr h.vhost, id.text, key, (heartbeatMessage id.text h.status).toUTF8⟩] })
      | none =>
        (.error (match w.broker.sortedRoutes ⟨s.vhostOr h.vhost, id.text⟩ with
          | [] => .notFound s!"No queue bound to {id.text}"
          | (_, key) :: _ => .validation s!"Routing key not matched: {key}"), w) := by
  obtain ⟨x, hx⟩ := Directory.contains_iff.1 hexchange
  have hdemand (message : String) :
      w.exec (Procedure.demand (h.status != "") message) = (.ok (), w) := by
    rw [Procedure.demand, if_pos (by simpa using hstatus)]
    rfl
  have hread : w.exec (readAdaptorId h.adaptorId) = (.ok id, w) := by
    rw [readAdaptorId, hid]
    rfl
  have hget (fault : Broker.Error → Failure) :
      w.exec (Procedure.require (.getExchange (s.vhostOr h.vhost) id.text) fault) =
        (.ok x, w) := by
    rw [World.exec_require, Broker.respond_getExchange, hx]
    rfl
  have hlist (fault : Broker.Error → Failure) :
      w.exec (Procedure.require (.listExchangeBindings (s.vhostOr h.vhost) id.text) fault) =
        (.ok (.ofRoutes (w.broker.routes ⟨s.vhostOr h.vhost, id.text⟩)), w) := by
    rw [World.exec_require, Broker.respond_listing hexchange]
    rfl
  rw [World.run_eq_exec, Operation.procedure, publishHeartbeat,
    World.exec_bind_of_ok (hdemand _), World.exec_bind_of_ok hread,
    World.exec_bind_of_ok (hget _), World.exec_bind_of_ok (hlist _)]
  dsimp only
  rw [forward_eq, Option.none_or, unmatched_eq, Broker.flattened_ofRoutes]
  cases routeFor h.status (w.broker.sortedRoutes ⟨s.vhostOr h.vhost, id.text⟩) with
  | some r =>
    dsimp only
    rw [World.exec_bind, World.exec_require, Broker.respond_publish, hexchange]
    cases w.broker.faults.publish <;> rfl
  | none => cases w.broker.sortedRoutes ⟨s.vhostOr h.vhost, id.text⟩ <;> rfl

/-! ## The first route that fits -/

theorem bodyOf_heartbeat (a : Address) (key id status : String) :
    bodyOf ⟨a.vhost, a.name, key, (heartbeatMessage id status).toUTF8⟩ =
      some (.object [("id", .string id), ("status", .string status)]) := by
  rw [bodyOf, Json.fromUTF8?_toUTF8, Option.bind_some, heartbeatMessage, Json.parse?,
    Json.read_print rfl]
  rfl

/-- A heartbeat for an adaptor with an exchange goes along the first route that fits, if there is
one: that route is the answer, and a message with the id and the status on it is all that changes.
If publishing fails, or no route fits, nothing changes; without a route that fits the failure is the
same whether publishing would have failed or not. -/
theorem heartbeat_takes_first_route (w : World) (s : Settings) {h : Heartbeat} {id : AdaptorId}
    (hstatus : h.status ≠ "") (hid : AdaptorId.ofString? h.adaptorId = .ok id)
    (hexchange : w.broker.exchanges.contains ⟨s.vhostOr h.vhost, id.text⟩ = true) :
    let a : Address := ⟨s.vhostOr h.vhost, id.text⟩
    let routes := w.broker.sortedRoutes a
    ((∃ r ∈ routes, Fits h.status r) →
      ∃ before queue key after, routes = before ++ (queue, key) :: after ∧
        Fits h.status (queue, key) ∧ (∀ r ∈ before, ¬Fits h.status r) ∧
        if w.broker.faults.publish then
          ∃ e, w.run s (.heartbeat h) = (.error (.remote "Heartbeat publish failed" e), w)
        else ∃ m : Message, m.vhost = a.vhost ∧ m.exchange = a.name ∧ m.routingKey = key ∧
          bodyOf m = some (.object [("id", .string id.text), ("status", .string h.status)]) ∧
          w.run s (.heartbeat h) = (.ok ⟨queue, key⟩,
            w.withBroker { w.broker with published := w.broker.published ++ [m] })) ∧
    ((∀ r ∈ routes, ¬Fits h.status r) →
      w.run s (.heartbeat h) = (.error (match routes with
        | [] => .notFound s!"No queue bound to {id.text}"
        | (_, key) :: _ => .validation s!"Routing key not matched: {key}"), w)) := by
  intro a routes
  have hrun := run_heartbeat hstatus hid hexchange
  constructor
  · rintro ⟨r, hr, hfits⟩
    cases hroute : routeFor h.status routes with
    | none => exact absurd hfits (routeFor_eq_none_iff.1 hroute r hr)
    | some first =>
      obtain ⟨queue, key⟩ := first
      obtain ⟨hfirst, before, after, hroutes, hbefore⟩ := routeFor_eq_some_iff.1 hroute
      refine ⟨before, queue, key, after, hroutes, hfirst, hbefore, ?_⟩
      rw [hroute] at hrun
      cases hfault : w.broker.faults.publish with
      | true =>
        rw [hfault] at hrun
        exact ⟨_, hrun⟩
      | false =>
        rw [hfault] at hrun
        exact ⟨_, rfl, rfl, rfl, bodyOf_heartbeat a key id.text h.status, hrun⟩
  · intro hnone
    rw [routeFor_eq_none_iff.2 hnone] at hrun
    exact hrun

/-- The keys of the first queue are passed over, and of the three queues with the key that fits the
first in order is taken. -/
theorem heartbeat_takes_first_route_to_database :
    let now : Timestamp := ⟨⟨2024, 1, 1, by decide⟩, 0, 0, 0, by decide⟩
    let adaptor := "org/group/server/item"
    let w := (World.new (fun _ => "secret") now).after {}
      [.perform .bootstrap, .perform (.registerAdaptor ⟨adaptor, "alice", none⟩)]
    let h : Heartbeat := ⟨adaptor, ".*", none⟩
    ∃ m : Message, m.routingKey = "org/group/server/item/.*" ∧
      w.run {} (.heartbeat h) = (.ok ⟨"database", "org/group/server/item/.*"⟩,
        w.withBroker { w.broker with published := w.broker.published ++ [m] }) := by
  intro now adaptor w h
  have hid : AdaptorId.ofString? h.adaptorId = .ok ⟨adaptor, by decide⟩ :=
    AdaptorId.ofString?_text ⟨adaptor, by decide⟩
  have hexchange : w.broker.exchanges.contains ⟨Settings.vhostOr {} h.vhost, adaptor⟩ = true := by
    decide +kernel
  have hroute : (w.run {} (.heartbeat h)).1 = .ok ⟨"database", "org/group/server/item/.*"⟩ := by
    decide +kernel
  obtain ⟨hsome, hnone⟩ := heartbeat_takes_first_route w {} (by decide) hid hexchange
  have hfits : ∃ r ∈ w.broker.sortedRoutes ⟨Settings.vhostOr {} h.vhost, adaptor⟩,
      Fits h.status r := by
    refine by_contra fun hno => ?_
    have hrun := hnone fun r hr hfits => hno ⟨r, hr, hfits⟩
    rw [hrun] at hroute
    cases hroute
  obtain ⟨before, queue, key, after, -, -, -, hends⟩ := hsome hfits
  have hfault : w.broker.faults.publish = false := by decide +kernel
  rw [hfault] at hends
  obtain ⟨m, -, -, hkey, -, hrun⟩ := hends
  rw [hrun] at hroute
  cases hroute
  exact ⟨m, hkey, hrun⟩

end BrokerControl.Control
