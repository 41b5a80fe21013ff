import BrokerControl.Control.Topology
import BrokerControl.Proofs.Broker.Topology
import BrokerControl.Proofs.Control.Execution

/-! # Declaring the topology

The bootstrap goes through a list of declarations: virtual hosts, system queues and an exchange.
Each adds its resource to the broker unless it is there already, and leaves everything else as it
is. In memory no declaration fails. -/

namespace BrokerControl.Control

open Broker (Address Call)

/-- A resource that the control plane depends on. -/
inductive Declaration where
  | vhost (name : String)
  | queue (a : Address)
  | exchange (a : Address)
  deriving DecidableEq

namespace Declaration

def call : Declaration → Call
  | .vhost name => .createVhost name
  | .queue a => .createQueue a.vhost a.name
  | .exchange a => .createExchange a.vhost a.name

def declare : Declaration → Procedure TopologyEntry
  | .vhost name => declareVhost name
  | .queue a => declareQueue a.vhost a.name
  | .exchange a => declareExchange a.vhost a.name

/-- What is reported of the resource. -/
def entry (created : Bool) : Declaration → TopologyEntry
  | .vhost name => ⟨"vhost", name, name, created⟩
  | .queue a => ⟨"queue", a.vhost, a.name, created⟩
  | .exchange a => ⟨"exchange", a.vhost, a.name, created⟩

/-- Whether a broker has the resource. -/
def isIn (b : Broker) : Declaration → Bool
  | .vhost name => b.vhosts.contains name
  | .queue a => b.queues.contains a
  | .exchange a => b.exchanges.contains a

end Declaration

/-- What the bootstrap declares, in order. -/
def Settings.declarations (s : Settings) : List Declaration :=
  [.vhost s.dataVhost, .vhost s.internalVhost] ++
    s.systemQueues.map (fun name => .queue ⟨s.dataVhost, name⟩) ++
      [.exchange ⟨s.internalVhost, s.notificationExchange⟩]

theorem bootstrap_eq (s : Settings) : bootstrap s = s.declarations.mapM Declaration.declare := by
  simp only [bootstrap, Settings.declarations, List.mapM_append, List.mapM_cons, List.mapM_map,
    List.mapM_nil, bind_assoc, pure_bind]
  rfl

/-! ## What declarations add -/

/-- The second broker has what the first one has and what is declared, and nothing else. Whatever
was there already is as it was. -/
structure Supplied (ds : List Declaration) (b b' : Broker) : Prop where
  vhosts : ∀ name, b'.vhosts.contains name = true ↔
    b.vhosts.contains name = true ∨ .vhost name ∈ ds
  queues : ∀ a, b'.queues.contains a = true ↔ b.queues.contains a = true ∨ .queue a ∈ ds
  exchanges : ∀ a, b'.exchanges.get? a = (b.exchanges.get? a).or
    (if .exchange a ∈ ds then some (.topic a.vhost a.name) else none)
  bindings : b'.bindings = b.bindings
  users : b'.users = b.users
  grants : b'.grants = b.grants
  published : b'.published = b.published
  faults : b'.faults = b.faults

namespace Supplied

variable {ds es : List Declaration} {b b' b'' : Broker}

theorem nil (b : Broker) : Supplied [] b b := by
  constructor <;> simp

theorem trans (h : Supplied ds b b') (h' : Supplied es b' b'') : Supplied (ds ++ es) b b'' where
  vhosts name := by rw [h'.vhosts, h.vhosts, List.mem_append, or_assoc]
  queues a := by rw [h'.queues, h.queues, List.mem_append, or_assoc]
  exchanges a := by
    rw [h'.exchanges, h.exchanges, Option.or_assoc]
    by_cases hds : Declaration.exchange a ∈ ds <;> simp [hds]
  bindings := h'.bindings.trans h.bindings
  users := h'.users.trans h.users
  grants := h'.grants.trans h.grants
  published := h'.published.trans h.published
  faults := h'.faults.trans h.faults

/-- In what order declarations are made, and how often, makes no difference. -/
theorem congr (h : Supplied ds b b') (hmem : ∀ d, d ∈ ds ↔ d ∈ es) : Supplied es b b' where
  vhosts name := by rw [h.vhosts, hmem]
  queues a := by rw [h.queues, hmem]
  exchanges a := by simp only [h.exchanges, hmem]
  bindings := h.bindings
  users := h.users
  grants := h.grants
  published := h.published
  faults := h.faults

theorem unique (h : Supplied ds b b') (h' : Supplied ds b b'') : b' = b'' := by
  have hvhosts : b'.vhosts = b''.vhosts :=
    Directory.ext_contains fun name => by rw [h.vhosts, h'.vhosts]
  have hqueues : b'.queues = b''.queues :=
    Directory.ext_contains fun a => by rw [h.queues, h'.queues]
  have hexchanges : b'.exchanges = b''.exchanges :=
    Directory.ext_get? fun a => by rw [h.exchanges, h'.exchanges]
  obtain ⟨-, -, -, hbindings, husers, hgrants, hpublished, hfaults⟩ := h
  obtain ⟨-, -, -, hbindings', husers', hgrants', hpublished', hfaults'⟩ := h'
  cases b'
  cases b''
  simp_all

theorem isIn (h : Supplied ds b b') {d : Declaration} (hd : d ∈ ds) : d.isIn b' = true := by
  cases d with
  | vhost name => exact (h.vhosts name).2 (.inr hd)
  | queue a => exact (h.queues a).2 (.inr hd)
  | exchange a =>
    rw [Declaration.isIn, Directory.contains, h.exchanges, if_pos hd]
    cases b.exchanges.get? a <;> rfl

/-- Declaring what is there already changes nothing. -/
theorem of_isIn {d : Declaration} (h : d.isIn b = true) : Supplied [d] b b where
  vhosts name := by
    refine ⟨.inl, fun h' => h'.elim id fun hd => ?_⟩
    obtain rfl := List.mem_singleton.1 hd
    exact h
  queues a := by
    refine ⟨.inl, fun h' => h'.elim id fun hd => ?_⟩
    obtain rfl := List.mem_singleton.1 hd
    exact h
  exchanges a := by
    split
    · next hd =>
      obtain rfl := List.mem_singleton.1 hd
      obtain ⟨x, hx⟩ := Directory.contains_iff.1 h
      rw [hx]
      rfl
    · rw [Option.or_none]
  bindings := rfl
  users := rfl
  grants := rfl
  published := rfl
  faults := rfl

end Supplied

/-! ## Single declarations -/

namespace Declaration

private theorem exec_declared {w w' : World} {call : Plan (Except Broker.Error Unit)}
    {made : Bool} (context what : String)
    (h : w.runPlan call = (if made then .ok () else .error (.alreadyExists what), w')) :
    w.exec (declared call context) = (.ok made, w') := by
  rw [declared, World.exec_lift_bind, h]
  cases made <;> rfl

/-- In memory no declaration fails, and a resource is reported as created if it was not there. -/
theorem exec_declare (w : World) (d : Declaration) :
    w.exec d.declare =
      (.ok (d.entry (!d.isIn w.broker)), w.withBroker (w.broker.respond d.call).2) := by
  cases d with
  | vhost name =>
    refine World.exec_bind_of_ok (exec_declared _ s!"vhost {name}" ?_) _
    rw [World.runPlan_broker, call, Broker.respond_createVhost, isIn]
    cases w.broker.vhosts.contains name <;> rfl
  | queue a =>
    refine World.exec_bind_of_ok (exec_declared _ s!"queue {a.name}" ?_) _
    rw [World.runPlan_broker, call, Broker.respond_createQueue, isIn]
    cases w.broker.queues.contains a <;> rfl
  | exchange a =>
    refine World.exec_bind_of_ok (exec_declared _ s!"exchange {a.name}" ?_) _
    rw [World.runPlan_broker, call, Broker.respond_createExchange, isIn]
    cases w.broker.exchanges.contains a <;> rfl

theorem supplied (d : Declaration) (b : Broker) : Supplied [d] b (b.respond d.call).2 := by
  cases d with
  | vhost name =>
    rw [call, Broker.respond_createVhost]
    split
    · next h => exact Supplied.of_isIn h
    · refine ⟨fun name' => ?_, fun a => ?_, fun a => ?_, rfl, rfl, rfl, rfl, rfl⟩
      · simp [Directory.contains_insert, eq_comm (a := name), or_comm]
      · simp
      · simp
  | queue a =>
    rw [call, Broker.respond_createQueue]
    split
    · next h => exact Supplied.of_isIn h
    · refine ⟨fun name => ?_, fun a' => ?_, fun a' => ?_, rfl, rfl, rfl, rfl, rfl⟩
      · simp
      · simp [Directory.contains_insert, eq_comm (a := a), or_comm]
      · simp
  | exchange a =>
    rw [call, Broker.respond_createExchange]
    split
    · next h => exact Supplied.of_isIn h
    · next h =>
      refine ⟨fun name => ?_, fun a' => ?_, fun a' => ?_, rfl, rfl, rfl, rfl, rfl⟩
      · simp
      · simp
      · by_cases ha : a = a'
        · subst ha
          have hnone : b.exchanges.get? a = none := by simpa [Directory.contains] using h
          simp [hnone]
        · simp [Directory.get?_insert, ha, Ne.symm ha]

end Declaration

/-! ## All declarations -/

/-- The broker after resources were declared one after the other. -/
def afterDeclaring (b : Broker) (ds : List Declaration) : Broker :=
  ds.foldl (fun b d => (b.respond d.call).2) b

/-- What is reported when resources are declared one after the other. -/
def report : Broker → List Declaration → List TopologyEntry
  | _, [] => []
  | b, d :: ds => d.entry (!d.isIn b) :: report (b.respond d.call).2 ds

theorem supplied_afterDeclaring (ds : List Declaration) (b : Broker) :
    Supplied ds b (afterDeclaring b ds) := by
  induction ds generalizing b with
  | nil => exact .nil b
  | cons d ds ih => exact (d.supplied b).trans (ih _)

theorem exec_declarations (w : World) (ds : List Declaration) :
    w.exec (ds.mapM Declaration.declare) =
      (.ok (report w.broker ds), w.withBroker (afterDeclaring w.broker ds)) := by
  induction ds generalizing w with
  | nil => rfl
  | cons d ds ih =>
    rw [List.mapM_cons, World.exec_bind_of_ok (d.exec_declare w), World.exec_bind_of_ok (ih _)]
    rfl

theorem exec_bootstrap (w : World) (s : Settings) :
    w.exec (bootstrap s) = (.ok (report w.broker s.declarations),
      w.withBroker (afterDeclaring w.broker s.declarations)) := by
  rw [bootstrap_eq, exec_declarations]

theorem report_of_isIn {ds : List Declaration} {b : Broker} (h : ∀ d ∈ ds, d.isIn b = true) :
    report b ds = ds.map (Declaration.entry false) ∧ afterDeclaring b ds = b := by
  induction ds with
  | nil => exact ⟨rfl, rfl⟩
  | cons d ds ih =>
    obtain ⟨hd, hds⟩ := List.forall_mem_cons.1 h
    have hsame : (b.respond d.call).2 = b := (d.supplied b).unique (.of_isIn hd)
    obtain ⟨hreport, hafter⟩ := ih hds
    rw [report, hsame, hreport, hd]
    refine ⟨rfl, ?_⟩
    rw [afterDeclaring, List.foldl_cons, hsame]
    exact hafter

/-! ## Queues -/

/-- The bindings are those of another broker, and so are all queues but some. -/
def KeepsQueues (names : List String) (b b' : Broker) : Prop :=
  b'.bindings = b.bindings ∧
    ∀ a : Address, a.name ∉ names → b'.queues.contains a = b.queues.contains a

theorem bootstrap_ends {w : World} (s : Settings) :
    w.Ends (bootstrap s) (fun _ w' => KeepsQueues s.systemQueues w.broker w'.broker)
      fun _ w' => KeepsQueues s.systemQueues w.broker w'.broker := by
  have hsupplied := supplied_afterDeclaring s.declarations w.broker
  refine .of_exec (P := fun w' => KeepsQueues s.systemQueues w.broker w'.broker) ?_
  rw [exec_bootstrap]
  refine ⟨hsupplied.bindings, fun a ha => ?_⟩
  have hnot : Declaration.queue a ∉ s.declarations := by
    intro h
    obtain ⟨name, hname, heq⟩ : ∃ name ∈ s.systemQueues, ⟨s.dataVhost, name⟩ = a := by
      simpa [Settings.declarations] using h
    exact ha (heq ▸ hname)
  rw [World.withBroker_broker, Bool.eq_iff_iff, hsupplied.queues]
  simp [hnot]

end BrokerControl.Control
