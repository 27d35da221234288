import Mathlib.Data.List.Nodup
import RollingUpgrade.Proofs.Series.Turn
import RollingUpgrade.Series.Application

namespace RollingUpgrade

namespace Application

-- The units of other names, in ascending order, each with its machine.
def others (a : Application) (leader : String) : List (String × String) :=
  (a.units.toList.filter (·.1 != leader)).map fun (name, unit) => (name, unit.machine)

-- The leader, then the other units, each with its machine.
def order (a : Application) : List (String × String) :=
  match a.leader? with
  | none                   => []
  | some (leader, leading) => (leader, leading.machine) :: a.others leader

variable {a : Application} {leader : String}

theorem others_ascending : ((a.others leader).map (·.1)).Pairwise (· < ·) := by
  rw [others, List.map_map]
  exact List.pairwise_map.mpr (a.units.ascending.filter _)

theorem mem_others {place : String × String} : place ∈ a.others leader ↔
    place.1 ≠ leader ∧ ∃ unit, (place.1, unit) ∈ a.units.toList ∧ unit.machine = place.2 := by
  simp only [others, List.mem_map, List.mem_filter, bne_iff_ne]
  constructor
  · rintro ⟨u, ⟨hu, ne⟩, rfl⟩
    exact ⟨ne, u.2, hu, rfl⟩
  · rintro ⟨ne, unit, hu, h⟩
    exact ⟨(place.1, unit), ⟨hu, ne⟩, Prod.ext rfl h⟩

theorem mem_machines_order (h : a.leader?.isSome) (machine : String) :
    machine ∈ a.order.map (·.2) ↔ ∃ u ∈ a.units.toList, u.2.machine = machine := by
  obtain ⟨⟨leader, leading⟩, hl⟩ := Option.isSome_iff_exists.mp h
  have leads := List.mem_of_find?_eq_some hl
  simp only [order, hl, List.map_cons, List.mem_cons, List.mem_map, mem_others]
  constructor
  · rintro (rfl | ⟨place, ⟨_, unit, hu, h⟩, rfl⟩)
    · exact ⟨_, leads, rfl⟩
    · exact ⟨_, hu, h⟩
  · rintro ⟨⟨name, unit⟩, hu, rfl⟩
    by_cases h : name = leader
    case pos =>
      subst h
      exact .inl (NameMap.value_unique hu leads ▸ rfl)
    case neg => exact .inr ⟨(name, unit.machine), ⟨h, unit, hu, rfl⟩, rfl⟩

end Application

-- The calls that come before the first upgrade of a machine.
inductive Call.Opens : Call → Prop
  | status : Opens .status
  | pause (unit : String) : Opens (.action unit "pause" .empty)

theorem Call.Opens.not_switches {c : Call} : c.Opens → ¬c.switches
  | status | pause _ => Bool.false_ne_true

namespace Series

-- The units whose machines are not completed. Of units that share a machine only the first counts.
def pending : List (String × String) → List String → List (String × String)
  | [], _ => []
  | (unit, machine) :: rest, completed =>
    if machine ∈ completed then pending rest completed
    else (unit, machine) :: pending rest (completed ++ [machine])

section

variable {order : List (String × String)} {completed : List String} {machine : String}

theorem pending_sublist : (pending order completed).Sublist order := by
  induction order generalizing completed
  case nil => exact .slnil
  case cons place rest hi =>
    rw [pending]
    split
    case isTrue  => exact hi.cons _
    case isFalse => exact hi.cons_cons _

theorem pending_disjoint (h : machine ∈ (pending order completed).map (·.2)) :
    machine ∉ completed := by
  induction order generalizing completed
  case nil => nomatch h
  case cons place rest hi =>
    rw [pending] at h
    split at h
    case isTrue  => exact hi h
    case isFalse fresh =>
      rw [List.map_cons, List.mem_cons] at h
      cases h
      case inl h => exact h ▸ fresh
      case inr h => exact fun hc => hi h (List.mem_append_left _ hc)

theorem pending_nodup : ((pending order completed).map (·.2)).Nodup := by
  induction order generalizing completed
  case nil => exact .nil
  case cons place rest hi =>
    rw [pending]
    split
    case isTrue  => exact hi
    case isFalse =>
      refine List.nodup_cons.mpr ⟨fun h => pending_disjoint h ?_, hi⟩
      exact List.mem_append_right _ List.mem_cons_self

-- No machine is forgotten: it is completed already or will be upgraded.
theorem pending_complete (h : machine ∈ order.map (·.2)) :
    machine ∈ completed ++ (pending order completed).map (·.2) := by
  induction order generalizing completed
  case nil => nomatch h
  case cons place rest hi =>
    rw [List.map_cons, List.mem_cons] at h
    rw [pending]
    split
    case isTrue stays =>
      cases h
      case inl h => exact List.mem_append_left _ (h ▸ stays)
      case inr h => exact hi h
    case isFalse =>
      rw [List.map_cons, List.append_cons]
      cases h
      case inl h => simp [h]
      case inr h => exact hi h

end

section

variable {σ : Type} (answer : Client.Handler σ) (settings : SeriesSettings) (hooks : List Hook)

-- Calls by which the machines of units are upgraded one after the other. If an upgrade fails, it is
-- the last.
inductive Rolling : List (String × String) → List Call → Except Error Unit → Prop
  | nil : Rolling [] [] (.ok ())
  | cut {unit machine : String} {s : σ} {e : Error} :
    ((upgradeMachine unit machine settings hooks).run answer s).result = .error e →
    Rolling [(unit, machine)] ((upgradeMachine unit machine settings hooks).run answer s).calls
      (.error e)
  | next {unit machine : String} {places : List (String × String)} {s : σ} {calls : List Call}
      {outcome : Except Error Unit} :
    ((upgradeMachine unit machine settings hooks).run answer s).result = .ok () →
    Rolling places calls outcome →
    Rolling ((unit, machine) :: places)
      (((upgradeMachine unit machine settings hooks).run answer s).calls ++ calls) outcome

theorem upgradeUnits_rolling (order : List (String × String)) (completed : List String) (s : σ) :
    let run := (upgradeUnits settings hooks order completed).run answer s
    ∃ places outcome, Rolling answer settings hooks places run.calls outcome ∧
      places <+: pending order completed ∧
      ∀ list, run.result = .ok list →
        outcome = .ok () ∧ places = pending order completed ∧
        list = completed ++ places.map (·.2) := by
  induction order generalizing completed s
  case nil =>
    refine ⟨[], _, .nil, List.nil_prefix, fun list h => ?_⟩
    cases h
    simp [pending]
  case cons place rest hi =>
    obtain ⟨unit, machine⟩ := place
    rw [upgradeUnits, pending]
    split
    case isTrue => exact hi completed s
    case isFalse fresh =>
      rw [Program.run_bind]
      dsimp only
      cases h : ((upgradeMachine unit machine settings hooks).run answer s).result
      case error e =>
        rw [Run.calls_andThen_error h, Run.andThen_error h]
        exact ⟨_, _, .cut h, by simp, nofun⟩
      case ok =>
        rw [Run.calls_andThen_ok h, Run.andThen_ok h]
        have ⟨places, outcome, rolling, taken, done⟩ := hi (completed ++ [machine])
          ((upgradeMachine unit machine settings hooks).run answer s).state
        refine ⟨_, outcome, .next h rolling, List.cons_prefix_cons.mpr ⟨rfl, taken⟩,
          fun list h => ?_⟩
        have ⟨ok, all, hl⟩ := done list h
        exact ⟨ok, all ▸ rfl, by rw [hl, List.append_assoc]; rfl⟩

variable {answer settings hooks} {places : List (String × String)} {calls : List Call}
  {outcome : Except Error Unit}

theorem Rolling.switches (harmless : Harmless answer hooks)
    (h : Rolling answer settings hooks places calls outcome) :
    calls.filter (·.switches) <+: places.flatMap fun place =>
      [.prepareSeries place.2 settings.toSeries, .completeSeries place.2] := by
  induction h
  case nil => exact List.nil_prefix
  case cut h => simpa using (upgradeMachine_turn harmless).switches
  case next h _ hi =>
    rw [List.filter_append, (upgradeMachine_whole harmless h).switches, List.flatMap_cons]
    exact (List.prefix_append_right_inj _).mpr hi

theorem Rolling.switches_ok (harmless : Harmless answer hooks)
    (h : Rolling answer settings hooks places calls outcome) (ok : outcome = .ok ()) :
    calls.filter (·.switches) = places.flatMap fun place =>
      [.prepareSeries place.2 settings.toSeries, .completeSeries place.2] := by
  induction h
  case nil => rfl
  case cut => cases ok
  case next h _ hi =>
    rw [List.filter_append, (upgradeMachine_whole harmless h).switches, List.flatMap_cons, hi ok]

theorem Rolling.upgrades {machine : String} (harmless : Harmless answer hooks)
    (h : Rolling answer settings hooks places calls outcome) (ok : outcome = .ok ())
    (hm : machine ∈ places.map (·.2)) :
    [Call.prepareSeries machine settings.toSeries, .completeSeries machine].Sublist calls := by
  obtain ⟨place, hp, rfl⟩ := List.mem_map.mp hm
  refine .trans ?_ (h.switches_ok harmless ok ▸ List.filter_sublist)
  exact List.sublist_flatten_of_mem (List.mem_map_of_mem hp)

theorem Rolling.upgraded {machine : String} (harmless : Harmless answer hooks)
    (h : Rolling answer settings hooks places calls outcome) (ok : outcome = .ok ())
    (asked : .prepareSeries machine settings.toSeries ∈ calls) : machine ∈ places.map (·.2) := by
  have switched := List.mem_filter.mpr ⟨asked, Call.switches_prepareSeries⟩
  have ⟨place, hp, hm⟩ := List.mem_flatMap.mp (h.switches_ok harmless ok ▸ switched)
  have same : machine = place.2 := by simpa using hm
  exact same ▸ List.mem_map_of_mem hp

theorem pause_opens (unit : String) : (pause unit).Only answer Call.Opens := by
  refine .bind (.emit _ _ _ _) fun _ => .bind (Call.perform_only (.pause unit)) fun result => ?_
  split
  case isTrue  => exact .fail _
  case isFalse => exact .done _

theorem pauseSubordinate_opens (unit : String) :
    (pauseSubordinate unit).Only answer Call.Opens := by
  rw [pauseSubordinate]
  split
  case isTrue  => exact .emit _ _ _ _
  case isFalse => exact pause_opens unit

theorem pauseUnit_opens (name : String) (unit : Principal) :
    (pauseUnit settings name unit).Only answer Call.Opens := by
  have primary :
      (if settings.pausePrimaries then pause name else pure ()).Only answer Call.Opens := by
    split
    case isTrue  => exact pause_opens name
    case isFalse => exact .done _
  rw [pauseUnit]
  split
  case isTrue  => exact .bind (.forM fun _ _ => pauseSubordinate_opens _) fun _ => primary
  case isFalse => exact primary

end

section

variable {σ : Type} (answer : Client.Handler σ) (application : String)

-- The application as the client describes it.
def described (s : σ) : Option Application :=
  match (answer .status s).1 with
  | .ok snapshot => snapshot.applications.find? application
  | .error _     => none

-- A run that upgrades an application: it makes the opening calls, then it upgrades the machines of
-- pending units in order, and if it succeeds then those of all of them.
def Rolls (settings : SeriesSettings) (hooks : List Hook) (app? : Option Application)
    (completed : List String) (run : Run Client σ (List String)) : Prop :=
  ∃ opening places calls outcome,
    run.calls = opening ++ calls ∧ (∀ c ∈ opening, c.Opens) ∧
    Rolling answer settings hooks places calls outcome ∧
    places <+: pending (app?.elim [] (·.order)) completed ∧
    ∀ list, run.result = .ok list →
      outcome = .ok () ∧ places = pending (app?.elim [] (·.order)) completed ∧
      list = completed ++ places.map (·.2) ∧ ∃ app, app? = some app ∧ app.leader?.isSome

namespace Rolls

variable {answer application} {settings : SeriesSettings} {hooks : List Hook}
  {app? : Option Application} {completed : List String} {s : σ} {α : Type}

theorem fail (e : Error) (s : σ) : Rolls answer settings hooks app? completed ⟨.error e, [], s⟩ :=
  ⟨[], [], [], _, rfl, nofun, .nil, List.nil_prefix, nofun⟩

theorem behind {r : Run Client σ α} {next : α → σ → Run Client σ (List String)}
    (opens : ∀ c ∈ r.calls, c.Opens)
    (h : ∀ a, r.result = .ok a → Rolls answer settings hooks app? completed (next a r.state)) :
    Rolls answer settings hooks app? completed (r.andThen next) := by
  rw [Rolls]
  cases hr : r.result
  case error e =>
    rw [Run.calls_andThen_error hr, Run.andThen_error hr]
    exact ⟨_, [], [], _, (List.append_nil _).symm, opens, .nil, List.nil_prefix, nofun⟩
  case ok a =>
    rw [Run.calls_andThen_ok hr, Run.andThen_ok hr]
    have ⟨opening, places, calls, outcome, split, opens', rest⟩ := h a hr
    refine ⟨r.calls ++ opening, places, calls, outcome, ?calls, ?opens, rest⟩
    case calls => rw [split, List.append_assoc]
    case opens => exact fun c hc => (List.mem_append.mp hc).elim (opens c) (opens' c)

theorem units {app : Application} (h : app.leader?.isSome) (s : σ) :
    Rolls answer settings hooks (some app) completed
      ((upgradeUnits settings hooks app.order completed).run answer s) := by
  have ⟨places, outcome, rolling, taken, done⟩ :=
    upgradeUnits_rolling answer settings hooks app.order completed s
  refine ⟨[], places, _, outcome, rfl, nofun, rolling, taken, fun list hr => ?_⟩
  have ⟨ok, all, hl⟩ := done list hr
  exact ⟨ok, all, hl, app, rfl, h⟩

end Rolls

theorem upgradeApplication_rolls (settings : SeriesSettings) (hooks : List Hook)
    (completed : List String) (s : σ) :
    Rolls answer settings hooks (described answer application s) completed
      ((upgradeApplication application settings completed hooks).run answer s) := by
  rw [upgradeApplication, Program.run_bind]
  refine .behind (Call.perform_only .status s) fun snapshot hs => ?_
  rw [Call.result_perform] at hs
  rw [described, hs]
  dsimp only
  cases snapshot.applications.find? application
  case none => exact .fail _ _
  case some app =>
    have units := @Rolls.units σ answer settings hooks completed app
    simp only [Application.order, Application.others] at units
    dsimp only
    cases hl : app.leader?
    case none => exact .fail _ _
    case some u =>
      rw [hl] at units
      rw [Program.run_bind]
      refine .behind (Program.Only.forM (fun _ _ => pauseUnit_opens _ _) _) fun _ _ => ?_
      exact units rfl _

end
end Series
end RollingUpgrade
