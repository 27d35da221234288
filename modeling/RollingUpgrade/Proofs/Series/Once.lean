import Mathlib.Data.List.Nodup
import RollingUpgrade.Client.Recorder
import RollingUpgrade.Proofs.Series.Rolling

namespace RollingUpgrade

namespace Call

-- Tells which machine a call is about, for one kind of call that each upgrade of a machine makes
-- once.
structure Marker (mark : Call → Option String) : Prop where
  quiet : ∀ c, ¬c.switches → mark c = none
  once : ∀ machine series,
    [prepareSeries machine series, completeSeries machine].filterMap mark = [machine]

theorem prepared_marker : Marker prepared? where
  quiet c h := by cases c <;> first | rfl | exact absurd rfl h
  once _ _ := rfl

theorem completed_marker : Marker completed? where
  quiet c h := by cases c <;> first | rfl | exact absurd rfl h
  once _ _ := rfl

namespace Marker

variable {mark : Call → Option String} {calls : List Call}

theorem filterMap_switches (m : Marker mark) :
    (calls.filter (·.switches)).filterMap mark = calls.filterMap mark := by
  rw [List.filterMap_filter]
  congr
  funext c
  split
  case isTrue  => rfl
  case isFalse h => exact (m.quiet c h).symm

theorem filterMap_opening (m : Marker mark) (h : ∀ c ∈ calls, c.Opens) :
    calls.filterMap mark = [] :=
  List.filterMap_eq_nil_iff.mpr fun c hc => m.quiet c (h c hc).not_switches

theorem filterMap_places (m : Marker mark) (series : String) (places : List (String × String)) :
    (places.flatMap fun place =>
      [prepareSeries place.2 series, completeSeries place.2]).filterMap mark =
        places.map (·.2) := by
  induction places
  case nil => rfl
  case cons place rest hi =>
    rw [List.flatMap_cons, List.filterMap_append, m.once, hi]
    rfl

end Marker
end Call

namespace Series

-- An upgrade of an application that is asked for.
structure Task where
  application : String
  settings : SeriesSettings
  hooks : List Hook

-- A task that is taken up, the machines that are completed before, and the state of the client.
structure Attempt (σ : Type) where
  task : Task
  completed : List String
  start : σ

section

variable {σ : Type} (answer : Client.Handler σ)

namespace Attempt

variable (a : Attempt σ)

def run : Run Client σ (List String) :=
  let program := upgradeApplication a.task.application a.task.settings a.completed a.task.hooks
  program.run answer a.start

def application? : Option Application :=
  described answer a.task.application a.start

-- The machines that are due for an upgrade.
def due : List String :=
  (pending ((a.application? answer).elim [] (·.order)) a.completed).map (·.2)

end Attempt

-- The tasks are taken up in order until one fails. Each is given the list that the one before it
-- gave.
def attempts : List Task → List String → σ → List (Attempt σ)
  | [], _, _ => []
  | task :: rest, completed, s =>
    let attempt : Attempt σ := ⟨task, completed, s⟩
    attempt :: match (attempt.run answer).result with
      | .ok completed => attempts rest completed (attempt.run answer).state
      | .error _      => []

-- What is asked of the client in the course of all attempts.
def callsOf (l : List (Attempt σ)) : List Call :=
  l.flatMap fun a => (a.run answer).calls

variable {answer} {mark : Call → Option String} {tasks : List Task} {completed list : List String}
  {s : σ} {a : Attempt σ}

theorem task_mem_of_mem_attempts (h : a ∈ attempts answer tasks completed s) : a.task ∈ tasks := by
  induction tasks generalizing completed s
  case nil => nomatch h
  case cons task rest hi =>
    rw [attempts, List.mem_cons] at h
    cases h
    case inl h => exact h ▸ List.mem_cons_self
    case inr h =>
      split at h
      · exact List.mem_cons_of_mem _ (hi h)
      · nomatch h

namespace Attempt

theorem rolls (answer : Client.Handler σ) (a : Attempt σ) :
    Rolls answer a.task.settings a.task.hooks (a.application? answer) a.completed (a.run answer) :=
  upgradeApplication_rolls ..

theorem marked (m : Call.Marker mark) (harmless : Harmless answer a.task.hooks) :
    (a.run answer).calls.filterMap mark <+: a.due answer := by
  have ⟨opening, places, calls, outcome, split, opens, rolling, taken, _⟩ := a.rolls answer
  have switches := (rolling.switches harmless).filterMap mark
  rw [m.filterMap_switches, m.filterMap_places] at switches
  rw [split, List.filterMap_append, m.filterMap_opening opens, List.nil_append]
  exact switches.trans (taken.map _)

theorem marked_ok (m : Call.Marker mark) (harmless : Harmless answer a.task.hooks)
    (h : (a.run answer).result = .ok list) :
    (a.run answer).calls.filterMap mark = a.due answer := by
  have ⟨opening, places, calls, outcome, split, opens, rolling, _, done⟩ := a.rolls answer
  have ⟨ok, all, _⟩ := done list h
  have switches := congrArg (·.filterMap mark) (rolling.switches_ok harmless ok)
  rw [m.filterMap_switches, m.filterMap_places] at switches
  rw [split, List.filterMap_append, m.filterMap_opening opens, List.nil_append, switches, all, due]

theorem due_eq {app : Application} (h : a.application? answer = some app) :
    a.due answer = (pending app.order a.completed).map (·.2) := by
  rw [due, h]
  rfl

theorem result_ok (h : (a.run answer).result = .ok list) :
    list = a.completed ++ a.due answer ∧
    ∃ app, a.application? answer = some app ∧ app.leader?.isSome := by
  have ⟨_, _, _, _, _, _, _, _, done⟩ := a.rolls answer
  have ⟨_, all, hl, described⟩ := done list h
  exact ⟨hl.trans (all ▸ rfl), described⟩

end Attempt

-- The list that an attempt gives holds all machines that it upgrades, so they are not due again.
theorem attempts_marked (m : Call.Marker mark) (completed : List String) (s : σ)
    (harmless : ∀ task ∈ tasks, Harmless answer task.hooks) :
    ((callsOf answer (attempts answer tasks completed s)).filterMap mark).Nodup ∧
    ∀ machine ∈ (callsOf answer (attempts answer tasks completed s)).filterMap mark,
      machine ∉ completed := by
  induction tasks generalizing completed s
  case nil => exact ⟨.nil, nofun⟩
  case cons task rest hi =>
    rw [List.forall_mem_cons] at harmless
    let a : Attempt σ := ⟨task, completed, s⟩
    have marked : ((a.run answer).calls.filterMap mark).Sublist (a.due answer) :=
      (a.marked m harmless.left).sublist
    have nodup := marked.nodup pending_nodup
    have fresh : ∀ machine ∈ (a.run answer).calls.filterMap mark, machine ∉ completed :=
      fun machine h => pending_disjoint (marked.subset h)
    rw [attempts, callsOf, List.flatMap_cons, List.filterMap_append]
    cases hr : (a.run answer).result
    case error e =>
      simp only [List.flatMap_nil, List.filterMap_nil, List.append_nil]
      exact ⟨nodup, fresh⟩
    case ok list =>
      dsimp only
      have ⟨hl, _⟩ := a.result_ok hr
      have ⟨nodup', fresh'⟩ := hi list (a.run answer).state harmless.right
      have apart : ∀ machine ∈ (a.run answer).calls.filterMap mark, machine ∈ list :=
        fun machine h => hl ▸ List.mem_append_right _ (marked.subset h)
      constructor
      · exact .append nodup nodup' fun machine h h' => fresh' machine h' (apart machine h)
      · intro machine h hc
        cases List.mem_append.mp h
        case inl h => exact fresh machine h hc
        case inr h => exact fresh' machine h (hl ▸ List.mem_append_left _ hc)

-- In the course of all upgrades, failed ones included, no machine is prepared twice or completed
-- twice, and none at all that was completed before. An upgrade that succeeds adds the machines that
-- it upgraded, in order, and no machine of the application is missing then.
theorem attempts_switch_once (completed : List String) (s : σ)
    (harmless : ∀ task ∈ tasks, Harmless answer task.hooks) :
    let prepared := (callsOf answer (attempts answer tasks completed s)).filterMap Call.prepared?
    let done := (callsOf answer (attempts answer tasks completed s)).filterMap Call.completed?
    (∀ machine, machine ∉ completed → prepared.count machine ≤ 1 ∧ done.count machine ≤ 1) ∧
    (∀ machine ∈ completed, prepared.count machine = 0 ∧ done.count machine = 0) ∧
    ∀ a ∈ attempts answer tasks completed s, ∀ list, (a.run answer).result = .ok list →
      ∃ app new, a.application? answer = some app ∧ list = a.completed ++ new ∧
        new.Nodup ∧ (∀ machine ∈ new, machine ∉ a.completed) ∧
        new = (a.run answer).calls.filterMap Call.completed? ∧
        (∀ machine ∈ new, ∃ unit ∈ app.units.toList, unit.2.machine = machine) ∧
        ∀ unit ∈ app.units.toList, unit.2.machine ∈ list := by
  have ⟨prepared_nodup, prepared_fresh⟩ :=
    attempts_marked Call.prepared_marker completed s harmless
  have ⟨done_nodup, done_fresh⟩ := attempts_marked Call.completed_marker completed s harmless
  refine ⟨fun machine _ => ?once, fun machine h => ?never, fun a ha list h => ?grown⟩
  case once =>
    exact ⟨List.nodup_iff_count_le_one.mp prepared_nodup machine,
      List.nodup_iff_count_le_one.mp done_nodup machine⟩
  case never =>
    exact ⟨List.count_eq_zero.mpr fun h' => prepared_fresh machine h' h,
      List.count_eq_zero.mpr fun h' => done_fresh machine h' h⟩
  case grown =>
    have quiet := harmless a.task (task_mem_of_mem_attempts ha)
    have ⟨hl, app, described, leads⟩ := a.result_ok h
    have due := Attempt.due_eq described
    have mem := Application.mem_machines_order leads
    have done := (a.marked_ok Call.completed_marker quiet h).symm
    refine ⟨app, a.due answer, described, hl, pending_nodup, fun _ => pending_disjoint, done,
      fun machine hm => ?unit, fun unit hu => ?all⟩
    case unit => exact (mem machine).mp ((pending_sublist.map _).subset (due ▸ hm))
    case all  => rw [hl, due]; exact pending_complete ((mem _).mpr ⟨unit, hu, rfl⟩)

-- Two applications that share a machine.
def neighbours : ScriptedModel :=
  ScriptedModel.empty.withSnapshot ⟨.ofList [
    ("keystone", ⟨"keystone", [], none, .ofList [
      ("keystone/0", ⟨true, "1", none, none, none, .empty⟩),
      ("keystone/1", ⟨false, "2", none, none, none, .empty⟩)]⟩),
    ("mysql", ⟨"mysql-innodb-cluster", [], none, .ofList [
      ("mysql/0", ⟨false, "2", none, none, none, .empty⟩),
      ("mysql/1", ⟨true, "3", none, none, none, .empty⟩)]⟩)]⟩

theorem attempts_switch_once_neighbours :
    let answer : Client.Handler Unit := fun c s => (neighbours.answer c, s)
    let tried := attempts answer [⟨"keystone", .default, []⟩, ⟨"mysql", .default, []⟩] [] ()
    tried.map (fun a => (a.run answer).result) = [.ok ["1", "2"], .ok ["1", "2", "3"]] ∧
      ((callsOf answer tried).filterMap Call.prepared?).count "2" ≤ 1 := by
  intro answer
  have harmless : ∀ task ∈ [Task.mk "keystone" .default [], ⟨"mysql", .default, []⟩],
      Harmless answer task.hooks := by
    simp [Harmless]
  have ⟨once, _⟩ := attempts_switch_once [] () harmless
  exact ⟨by rfl, (once "2" List.not_mem_nil).left⟩

end
end Series
end RollingUpgrade
