import Mathlib.Data.List.Basic
import RollingUpgrade.Proofs.Series.Procedure

namespace RollingUpgrade

namespace Call

-- The calls that take a machine down or bring it back.
def switches : Call → Bool
  | .prepareSeries .. | .completeSeries _ => true
  | _                                     => false

@[simp]
theorem switches_prepareSeries {machine series : String} :
    (prepareSeries machine series).switches = true :=
  rfl

@[simp]
theorem switches_completeSeries {machine : String} : (completeSeries machine).switches = true :=
  rfl

-- The calls that upgrade the release of a unit's machine or reboot it.
def restarts : Call → Bool
  | .ssh _ args => args = Series.releaseUpgradeArgs ∨ args = Series.rebootArgs
  | _           => false

def prepared? : Call → Option String
  | .prepareSeries machine _ => some machine
  | _                        => none

def completed? : Call → Option String
  | .completeSeries machine => some machine
  | _                       => none

end Call

namespace Series

def Quiet (calls : List Call) : Prop :=
  ∀ c ∈ calls, ¬c.switches

namespace Quiet

variable {l r : List Call}

theorem nil : Quiet [] :=
  fun _ h => nomatch h

theorem filter_switches (h : Quiet l) : l.filter (·.switches) = [] :=
  List.filter_eq_nil_iff.mpr h

theorem completeSeries_notMem (h : Quiet l) (machine : String) : .completeSeries machine ∉ l :=
  fun hm => h _ hm rfl

theorem notMem_down {machine series machine' : String} (hl : Quiet l) (hr : Quiet r) :
    .completeSeries machine' ∉ l ++ .prepareSeries machine series :: r := by
  simp [hl.completeSeries_notMem, hr.completeSeries_notMem]

end Quiet

-- Hooks that leave it to the upgrade to prepare and to complete machines.
def Harmless {σ : Type} (answer : Client.Handler σ) (hooks : List Hook) : Prop :=
  ∀ hook ∈ hooks, ∀ unit, (hook unit).Only answer fun c => ¬c.switches

-- The calls by which a machine is upgraded from beginning to end.
inductive Whole (unit machine series : String) : List Call → Prop
  | intro {before during after : List Call} (quiet_before : Quiet before)
    (quiet_during : Quiet during) (quiet_after : Quiet after)
    (restarts : during.filter (·.restarts) = [.ssh unit releaseUpgradeArgs, .ssh unit rebootArgs]) :
    Whole unit machine series
      (before ++ .prepareSeries machine series :: during ++ .completeSeries machine :: after)

-- The calls by which a machine is upgraded as far as faults allow: the upgrade may end before the
-- machine is prepared, while it is down, or after it is back.
inductive Turn (unit machine series : String) : List Call → Prop
  | early {calls : List Call} : Quiet calls → Turn unit machine series calls
  | down {before during : List Call} : Quiet before → Quiet during →
    Turn unit machine series (before ++ .prepareSeries machine series :: during)
  | back {calls : List Call} : Whole unit machine series calls → Turn unit machine series calls

section

variable {unit machine series : String} {calls : List Call}

theorem Whole.switches (h : Whole unit machine series calls) :
    calls.filter (·.switches) = [.prepareSeries machine series, .completeSeries machine] := by
  cases h
  case intro before during after hb hd ha _ =>
    simp [List.filter_cons, hb.filter_switches, hd.filter_switches, ha.filter_switches]

theorem Turn.switches (h : Turn unit machine series calls) :
    calls.filter (·.switches) <+: [.prepareSeries machine series, .completeSeries machine] := by
  cases h
  case early h    => simp [h.filter_switches]
  case down hb hd => simp [List.filter_cons, hb.filter_switches, hd.filter_switches]
  case back h     => simp [h.switches]

end

namespace Stage

-- The call that a stage makes, whatever comes of it. A hook may make any number of calls.
def call? (unit : String) : Stage → Option Call
  | command text => some (.run unit text)
  | shell args   => some (.ssh unit args)
  | call c       => some c
  | copy file    => (Path.fileName? file).map (.copy unit file)
  | hook _       => none

variable {σ : Type} {answer : Client.Handler σ} {unit : String} {s : σ}

theorem calls_issue (c : Call) (judge : Except Error c.Result → Verdict) :
    (issue answer c judge s).calls = [c] := by
  rw [issue]
  cases judge (answer c s).1 <;> rfl

theorem calls_run {t : Stage} (h : ∀ k, t ≠ hook k) :
    (t.run answer unit s).calls = (t.call? unit).toList := by
  cases t
  case command text => exact calls_issue _ _
  case shell args   => exact calls_issue _ _
  case call c       => exact calls_issue _ _
  case copy file    =>
    cases hf : Path.fileName? file <;> simp only [run, call?, hf]
    case none => rfl
    case some => exact calls_issue _ _
  case hook k       => exact absurd rfl (h k)

theorem quiet_run {t : Stage} (plain : ∀ k, t ≠ hook k)
    (h : ∀ c, t.call? unit = some c → ¬c.switches) : Quiet (t.run answer unit s).calls := by
  intro c hc
  rw [calls_run plain, Option.mem_toList] at hc
  exact h c hc

end Stage

section

variable {σ : Type} {answer : Client.Handler σ} {unit machine : String} {settings : SeriesSettings}
  {hooks : List Hook} {ts : List Stage} {s : σ}

theorem calls_walk_ok (plain : ∀ t ∈ ts, ∀ k, t ≠ .hook k)
    (h : (walk answer unit ts s).result = .ok ()) :
    (walk answer unit ts s).calls = ts.filterMap (·.call? unit) := by
  induction ts generalizing s
  case nil => rfl
  case cons t ts hi =>
    rw [List.forall_mem_cons] at plain
    rw [walk] at h ⊢
    cases ht : (t.run answer unit s).result
    case error e => rw [Run.andThen_error ht] at h; cases h
    case ok =>
      rw [Run.andThen_ok ht] at h
      have first : (t.run answer unit s).calls = (t.call? unit).toList := Stage.calls_run plain.left
      rw [Run.calls_andThen_ok ht, first, hi plain.right h, List.filterMap_cons]
      cases t.call? unit <;> rfl

theorem forall_calls_walk {kind : Call → Prop}
    (h : ∀ t ∈ ts, ∀ s, ∀ c ∈ (t.run answer unit s).calls, kind c) :
    ∀ c ∈ (walk answer unit ts s).calls, kind c := by
  induction ts generalizing s
  case nil => exact nofun
  case cons t ts hi =>
    rw [List.forall_mem_cons] at h
    rw [walk]
    cases ht : (t.run answer unit s).result
    case error e => rw [Run.calls_andThen_error ht]; exact h.left s
    case ok      =>
      rw [Run.calls_andThen_ok ht]
      exact List.forall_mem_append.mpr ⟨h.left s, hi h.right⟩

theorem quiet_walk (h : ∀ t ∈ ts, ∀ s, Quiet (t.run answer unit s).calls) :
    Quiet (walk answer unit ts s).calls :=
  forall_calls_walk h

theorem quiet_groundwork : Quiet (walk answer unit groundwork s).calls := by
  refine quiet_walk fun t ht _ => ?_
  simp only [groundwork, List.mem_cons, List.not_mem_nil, or_false] at ht
  rcases ht with rfl | rfl | rfl | rfl <;>
    exact Stage.quiet_run (by simp) (by simp [Stage.call?, Call.switches])

theorem plain_outage : ∀ t ∈ outage unit settings, ∀ k, t ≠ .hook k := by
  intro t ht k
  simp only [outage] at ht
  rintro rfl
  simp at ht

theorem quiet_outage : Quiet (walk answer unit (outage unit settings) s).calls := by
  refine quiet_walk fun t ht _ => Stage.quiet_run (plain_outage t ht) fun c hc => ?_
  cases t <;> simp [Stage.call?] at hc
  case command | shell => subst hc; simp [Call.switches]
  case copy file =>
    have ⟨_, _, h⟩ := hc
    subst h
    simp [Call.switches]
  case call =>
    subst hc
    simp [outage] at ht
    rcases ht with rfl | rfl | rfl | rfl | ⟨_, _, rfl | rfl⟩ <;> simp [Call.switches]

theorem restarts_outage (h : (walk answer unit (outage unit settings) s).result = .ok ()) :
    (walk answer unit (outage unit settings) s).calls.filter (·.restarts) =
      [.ssh unit releaseUpgradeArgs, .ssh unit rebootArgs] := by
  -- Copies are sent by other means than commands, and workarounds are other commands.
  have copies :
      ((settings.files.map Stage.copy).filterMap (·.call? unit)).filter (·.restarts) = [] := by
    rw [List.filterMap_map, List.filter_eq_nil_iff]
    intro c hc
    have ⟨file, _, h⟩ := List.mem_filterMap.mp hc
    have ⟨_, _, h⟩ := Option.map_eq_some_iff.mp h
    simp [← h, Call.restarts]
  rw [calls_walk_ok plain_outage h]
  simp only [outage, List.filterMap_append, List.filter_append, copies]
  cases settings.workaroundScript <;> cases settings.origin <;>
    simp [Stage.call?, Call.restarts, releaseUpgradeArgs, rebootArgs]

variable (unit settings) in
theorem quiet_aftermath (harmless : Harmless answer hooks) :
    Quiet (walk answer unit (aftermath unit settings hooks) s).calls := by
  refine quiet_walk fun t ht s => ?_
  simp [aftermath] at ht
  rcases ht with rfl | ⟨hook, hh, rfl⟩ | rfl | rfl | rfl
  -- Only a hook makes calls that are not known here.
  case inr.inl => exact harmless hook hh unit s
  all_goals exact Stage.quiet_run (by simp) (by simp [Stage.call?, Call.switches])

theorem calls_walk_call (c : Call) (s : σ) (h : ∀ s, Quiet (walk answer unit ts s).calls) :
    ∃ rest, Quiet rest ∧ (walk answer unit (.call c :: ts) s).calls = c :: rest := by
  have first : (Stage.run answer unit (.call c) s).calls = [c] := Stage.calls_issue _ _
  rw [walk]
  cases hc : (Stage.run answer unit (.call c) s).result
  case error e => exact ⟨[], .nil, by rw [Run.calls_andThen_error hc, first]⟩
  case ok      => exact ⟨_, h _, by rw [Run.calls_andThen_ok hc, first]; rfl⟩

-- From when a machine is prepared, either the upgrade fails before it completes the machine, or it
-- completes the machine after a release upgrade and a reboot.
theorem walk_from_outage (harmless : Harmless answer hooks) :
    let run := walk answer unit
      (outage unit settings ++ .call (.completeSeries machine) :: aftermath unit settings hooks) s
    Quiet run.calls ∧ run.result ≠ .ok () ∨
    ∃ during after, Quiet during ∧ Quiet after ∧
      during.filter (·.restarts) = [.ssh unit releaseUpgradeArgs, .ssh unit rebootArgs] ∧
      run.calls = during ++ .completeSeries machine :: after := by
  rw [walk_append]
  dsimp only
  cases ho : (walk answer unit (outage unit settings) s).result
  case error e =>
    rw [Run.calls_andThen_error ho, Run.andThen_error ho]
    exact .inl ⟨quiet_outage, nofun⟩
  case ok =>
    have ⟨after, quiet, h⟩ := calls_walk_call (.completeSeries machine)
      (walk answer unit (outage unit settings) s).state
      fun _ => quiet_aftermath unit settings harmless
    rw [Run.calls_andThen_ok ho, h]
    exact .inr ⟨_, after, quiet_outage, quiet, restarts_outage ho, rfl⟩

theorem walk_procedure (harmless : Harmless answer hooks) :
    let run := walk answer unit (procedure unit machine settings hooks) s
    Turn unit machine settings.toSeries run.calls ∧
    (run.result = .ok () → Whole unit machine settings.toSeries run.calls) := by
  let prepare : Call := .prepareSeries machine settings.toSeries
  rw [procedure, List.append_assoc, List.cons_append, walk_append]
  dsimp only
  cases hg : (walk answer unit groundwork s).result
  case error e =>
    rw [Run.calls_andThen_error hg, Run.andThen_error hg]
    exact ⟨.early quiet_groundwork, fun h => by cases h⟩
  case ok =>
    rw [Run.calls_andThen_ok hg, Run.andThen_ok hg, walk]
    dsimp only
    generalize (walk answer unit groundwork s).state = s
    have first : (Stage.run answer unit (.call prepare) s).calls = [prepare] :=
      Stage.calls_issue _ _
    cases hp : (Stage.run answer unit (.call prepare) s).result
    -- A machine counts as down even if its preparation fails, since nothing is known about it then.
    case error e =>
      rw [Run.calls_andThen_error hp, Run.andThen_error hp, first]
      exact ⟨.down quiet_groundwork .nil, fun h => by cases h⟩
    case ok =>
      rw [Run.calls_andThen_ok hp, Run.andThen_ok hp, first, List.singleton_append]
      cases walk_from_outage harmless
      case inl h => exact ⟨.down quiet_groundwork h.left, fun hr => absurd hr h.right⟩
      case inr h =>
        obtain ⟨during, after, quiet_during, quiet_after, restarts, h⟩ := h
        rw [h, ← List.cons_append, ← List.append_assoc]
        refine ⟨.back ?whole, Function.const _ ?whole⟩
        case whole => exact .intro quiet_groundwork quiet_during quiet_after restarts

-- An upgrade makes the calls of its stages, and those that hooks make.
theorem upgradeMachine_only {kind : Call → Prop}
    (performed : ∀ hook ∈ hooks, ∀ unit, (hook unit).Only answer kind)
    (issued : ∀ t ∈ procedure unit machine settings hooks, ∀ c, t.call? unit = some c → kind c) :
    (upgradeMachine unit machine settings hooks).Only answer kind := by
  intro s c hc
  have ⟨_, calls, _⟩ := upgradeMachine_walks answer unit machine settings hooks s
  have walked : ∀ c ∈ (walk answer unit (procedure unit machine settings hooks) s).calls, kind c :=
    forall_calls_walk fun t ht s c hc => by
      by_cases plain : ∀ k, t ≠ .hook k
      case pos =>
        rw [Stage.calls_run plain, Option.mem_toList] at hc
        exact issued t ht c hc
      case neg =>
        obtain ⟨hook, rfl⟩ := not_forall_not.mp plain
        have hh : hook ∈ hooks := by simpa [procedure, groundwork, outage, aftermath] using ht
        exact performed hook hh unit s c hc
  change c ∈ Run.calls _ at hc
  exact walked c (calls ▸ hc)

theorem upgradeMachine_turn (harmless : Harmless answer hooks) :
    Turn unit machine settings.toSeries
      ((upgradeMachine unit machine settings hooks).run answer s).calls := by
  have ⟨_, calls, _⟩ := upgradeMachine_walks answer unit machine settings hooks s
  exact calls ▸ (walk_procedure harmless).left

theorem upgradeMachine_whole (harmless : Harmless answer hooks)
    (h : ((upgradeMachine unit machine settings hooks).run answer s).result = .ok ()) :
    Whole unit machine settings.toSeries
      ((upgradeMachine unit machine settings hooks).run answer s).calls := by
  have ⟨result, calls, _⟩ := upgradeMachine_walks answer unit machine settings hooks s
  exact calls ▸ (walk_procedure harmless).right (result ▸ h)

end
end Series
end RollingUpgrade
