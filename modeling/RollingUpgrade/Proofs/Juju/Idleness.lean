import RollingUpgrade.Proofs.Juju.Waiting
import RollingUpgrade.Proofs.Model.Placement

namespace RollingUpgrade

namespace Snapshot

-- What a unit of the name reports about its agent. The units of an application and the subordinates
-- on them may share names, so there may be several such reports.
inductive AgentOf (s : Snapshot) (id : String) : Option Condition → Prop
  | own {a : Application} {unit : Principal} (deployed : a ∈ s.applications.values)
    (mem : (id, unit) ∈ a.units.toList) : AgentOf s id unit.agent
  | riding {a : Application} {unit : Principal} {sub : Subordinate}
    (deployed : a ∈ s.applications.values) (carrier : unit ∈ a.units.values)
    (mem : (id, sub) ∈ unit.subordinates.toList) : AgentOf s id sub.agent

-- There are states under the name, all of them idle, and no report behind them is missing.
structure IdleUnit (s : Snapshot) (id : String) : Prop where
  known : ∃ state ∈ s.unitStates, state.unit = id
  states : ∀ state ∈ s.unitStates, state.unit = id → state.agent = "idle"
  agents : ∀ agent, s.AgentOf id agent → ∃ c, agent = some c ∧ c.current = "idle"

-- All units that some application has are idle, whether they are looked up in the snapshot or asked
-- for through a client that shows this snapshot.
structure IdleThroughout (s : Snapshot) : Prop where
  placed : ∀ app units, PlacedUnit.ofApplication? s app = some units → ∀ u ∈ units, s.IdleUnit u.id
  asked : ∀ {σ : Type} (answer : Client.Handler σ) (t : σ), (answer .status t).1 = .ok s →
    ∀ app units, ((Client.units app).run answer t).result = .ok units → ∀ u ∈ units, s.IdleUnit u.id

variable {s : Snapshot} {app id status : String} {agent : Option Condition}
  {units : List PlacedUnit} {u : PlacedUnit}

-- The states of a snapshot say what all its agents report.
theorem exists_state_iff :
    (∃ state ∈ s.unitStates, state.unit = id ∧ state.agent = status) ↔
      ∃ agent, s.AgentOf id agent ∧ Condition.currentOf agent = status := by
  constructor
  · intro ⟨state, mem, named, reported⟩
    have ⟨a, deployed, mem⟩ := List.mem_flatMap.mp mem
    have ⟨e, known, mem⟩ := List.mem_flatMap.mp mem
    cases List.mem_cons.mp mem
    case inl own =>
      subst own named
      exact ⟨_, .own deployed known, reported⟩
    case inr riding =>
      have ⟨d, rides, eq⟩ := List.mem_map.mp riding
      subst eq named
      exact ⟨_, .riding deployed (List.mem_map_of_mem known) rides, reported⟩
  · intro ⟨agent, h, reported⟩
    cases h
    case own a unit deployed mem =>
      let state : UnitState :=
        ⟨id, Condition.currentOf unit.agent, Condition.currentOf unit.workload⟩
      have listed : state ∈ unitStatesOf a :=
        List.mem_flatMap.mpr ⟨_, mem, List.mem_cons_self ..⟩
      exact ⟨state, List.mem_flatMap.mpr ⟨a, deployed, listed⟩, rfl, reported⟩
    case riding a unit sub deployed carrier mem =>
      have ⟨e, known, eq⟩ := List.mem_map.mp carrier
      subst eq
      let state : UnitState :=
        ⟨id, Condition.currentOf sub.agent, Condition.currentOf sub.workload⟩
      have listed : state ∈ unitStatesOf a := by
        refine List.mem_flatMap.mpr ⟨e, known, List.mem_cons_of_mem _ ?_⟩
        exact List.mem_map.mpr ⟨_, mem, rfl⟩
      exact ⟨state, List.mem_flatMap.mpr ⟨a, deployed, listed⟩, rfl, reported⟩

theorem currentOf_eq_idle_iff :
    Condition.currentOf agent = "idle" ↔ ∃ c, agent = some c ∧ c.current = "idle" := by
  cases agent <;> simp [Condition.currentOf]

-- An application finds its units in its own record or on the units of its principals. Both are
-- records that the states cover.
theorem agentOf_of_placed (h : PlacedUnit.ofApplication? s app = some units) (hu : u ∈ units) :
    ∃ agent, s.AgentOf u.id agent := by
  have ⟨a, deployed, _⟩ := Option.map_eq_some_iff.mp h
  have mem (name : String) (a : Application) (deployed : s.applications.find? name = some a) :
      a ∈ s.applications.values := List.mem_map_of_mem (NameMap.find?_eq_some_iff.mp deployed)
  have listed := (PlacedUnit.mem_ids_units deployed h).mp (List.mem_map_of_mem hu)
  cases PlacedUnit.mem_ids_found.mp listed
  case inl own =>
    have ⟨unit, known⟩ := NameMap.mem_iff_find?.mp own
    exact ⟨_, .own (mem _ _ deployed) (NameMap.find?_eq_some_iff.mp known)⟩
  case inr carried =>
    have ⟨⟨name, _, principal, deployed, unit, carrier, rides⟩, _⟩ := carried
    have ⟨sub, known⟩ := NameMap.mem_iff_find?.mp rides
    exact ⟨_, .riding (mem _ _ deployed) carrier (NameMap.find?_eq_some_iff.mp known)⟩

-- The check fails if some agent is missing.
theorem isIdle_iff_agents :
    s.isIdle ↔ ∀ id agent, s.AgentOf id agent → ∃ c, agent = some c ∧ c.current = "idle" := by
  simp only [← currentOf_eq_idle_iff, isIdle_iff]
  constructor
  · intro idle id agent known
    have ⟨state, mem, _, reported⟩ := exists_state_iff.mpr ⟨agent, known, rfl⟩
    exact reported ▸ idle state mem
  · intro idle state mem
    have ⟨agent, known, reported⟩ := exists_state_iff.mp ⟨state, mem, rfl, rfl⟩
    exact reported ▸ idle state.unit agent known

theorem idleUnit_of_placed (idle : s.isIdle) (h : PlacedUnit.ofApplication? s app = some units)
    (hu : u ∈ units) : s.IdleUnit u.id := by
  have ⟨agent, known⟩ := agentOf_of_placed h hu
  have ⟨state, mem, named, _⟩ := exists_state_iff.mpr ⟨agent, known, rfl⟩
  refine ⟨⟨state, mem, named⟩, ?states, isIdle_iff_agents.mp idle u.id⟩
  case states => exact fun state mem _ => (isIdle_iff s).mp idle state mem

-- Who asks for the units of an application gets those that the snapshot shows.
theorem result_units_iff {σ : Type} {answer : Client.Handler σ} {t : σ}
    (shown : (answer .status t).1 = .ok s) :
    ((Client.units app).run answer t).result = .ok units ↔
      PlacedUnit.ofApplication? s app = some units := by
  have status : (Call.status.perform.run answer t).result = .ok s :=
    (Call.result_perform _ _).trans shown
  rw [Client.units, Program.run_bind, Run.andThen_ok status]
  cases PlacedUnit.ofApplication? s app
  case none       => exact ⟨nofun, nofun⟩
  case some found => simp [Program.run]

theorem idleThroughout_of_isIdle (idle : s.isIdle) : s.IdleThroughout where
  placed _ _ h _ := idleUnit_of_placed idle h
  asked _ _ shown _ _ h _ := idleUnit_of_placed idle ((result_units_iff shown).mp h)

end Snapshot

namespace Juju

-- A snapshot that passes the check shows all units idle. A wait for the whole model that ends well
-- has seen such a snapshot in its last look.
theorem awaitIdle_covers :
    (∀ s : Snapshot, s.isIdle → s.IdleThroughout) ∧
    ∀ {σ : Type} (j : Juju) (horizon : Horizon) (answer : Terminal.Handler σ) (t : σ),
      ((j.perform horizon .awaitIdle).run answer t).result = .ok () →
      ∃ n s, ((j.perform horizon .awaitIdle).run answer t).requests.count j.statusCommand = n + 1 ∧
        (j.looks answer t n).shown = .ok s ∧ s.IdleThroughout := by
  constructor
  · exact fun s => Snapshot.idleThroughout_of_isIdle
  · intro σ j horizon answer t ok
    have ⟨n, s, last, shown, idle⟩ := (wait_waited (fun s => .rfl) t).met ok
    exact ⟨n, s, last, shown, Snapshot.idleThroughout_of_isIdle idle⟩

-- A cluster rides on the unit of its principal, and both agents are idle.
def ridden : Snapshot :=
  let idle : Option Condition := some ⟨"idle", ""⟩
  ⟨.ofList [("ha", ⟨"ha", ["nova"], none, .empty⟩), ("nova", ⟨"nova", [], none,
    .ofList [("nova/0", ⟨false, "1", none, none, idle,
      .ofList [("ha/0", ⟨"ha", false, none, idle⟩)]⟩)]⟩)]⟩

theorem awaitIdle_covers_ridden :
    ridden.IdleUnit "nova/0" ∧ ridden.IdleUnit "ha/0" ∧
    ∃ n s, (untimed.looks bareTerminal 0 n).shown = .ok s ∧ s.IdleThroughout := by
  have idle : ridden.IdleThroughout := awaitIdle_covers.left ridden (by rfl)
  have own : PlacedUnit.ofApplication? ridden "nova" = some [⟨"nova/0", "nova", "1", none⟩] :=
    (PlacedUnit.ofApplication?_eq_some_iff rfl).mpr (PlacedUnit.arranged_eq_iff.mpr (by decide))
  have riding : PlacedUnit.ofApplication? ridden "ha" = some [⟨"ha/0", "ha", "1", none⟩] :=
    (PlacedUnit.ofApplication?_eq_some_iff rfl).mpr (PlacedUnit.arranged_eq_iff.mpr (by decide))
  have shown : ((ScriptedModel.empty.withSnapshot ridden).handler .status ()).1 = .ok ridden := rfl
  refine ⟨idle.placed _ _ own _ (List.mem_singleton_self _),
    idle.asked _ () shown _ _ ((Snapshot.result_units_iff shown).mpr riding) _
      (List.mem_singleton_self _), ?_⟩
  have ⟨n, s, _, shown, idle⟩ := awaitIdle_covers.right untimed twoLooks bareTerminal 0
    (wait_of_endsAt Snapshot.isIdle_iff (Nat.zero_le _) endsAt_bare).left
  exact ⟨n, s, shown, idle⟩

end Juju
end RollingUpgrade
