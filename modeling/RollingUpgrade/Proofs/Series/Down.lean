import Mathlib.Data.List.Basic
import RollingUpgrade.Client.Recorder
import RollingUpgrade.Proofs.Series.Rolling

namespace RollingUpgrade.Series

-- The machines that are prepared and not completed, after one more call.
def afterCall (down : List String) : Call → List String
  | .prepareSeries machine _ => machine :: down
  | .completeSeries machine  => down.erase machine
  | _                        => down

def downAfter (calls : List Call) : List String :=
  calls.foldl afterCall []

-- The last call that takes a machine down or brings one back is the preparation of the machine, and
-- since then its unit was sent one release upgrade and then one reboot, and no other unit any.
def Restarted (series : String) (places : List (String × String)) (machine : String)
    (calls : List Call) : Prop :=
  ∃ unit before during, (unit, machine) ∈ places ∧
    calls = before ++ .prepareSeries machine series :: during ∧ Quiet during ∧
    during.filter (·.restarts) = [.ssh unit releaseUpgradeArgs, .ssh unit rebootArgs]

def CompletesRestarted (series : String) (places : List (String × String)) (calls : List Call) :
    Prop :=
  ∀ l machine r, calls = l ++ .completeSeries machine :: r → Restarted series places machine l

-- The leader comes first, unless its machine is completed already. The others ascend by name.
def LeaderFirst (app : Application) (completed : List String) (places : List (String × String)) :
    Prop :=
  ∃ leader leading others, app.leader? = some (leader, leading) ∧
    places <+: (if leading.machine ∈ completed then [] else [(leader, leading.machine)]) ++ others ∧
    (others.map (·.1)).Pairwise (· < ·) ∧
    ∀ place ∈ others, place.1 ≠ leader ∧
      ∃ unit, (place.1, unit) ∈ app.units.toList ∧ unit.machine = place.2

section

variable {calls calls' : List Call} {down : List String} {series unit machine : String}
  {places places' : List (String × String)}

theorem afterCall_quiet {c : Call} (h : ¬c.switches) : afterCall down c = down := by
  cases c <;> first | rfl | exact absurd rfl h

theorem foldl_afterCall_switches :
    (calls.filter (·.switches)).foldl afterCall down = calls.foldl afterCall down := by
  induction calls generalizing down
  case nil => rfl
  case cons c calls hi =>
    rw [List.filter_cons, List.foldl_cons]
    split
    case isTrue    => exact hi
    case isFalse h => rw [hi, afterCall_quiet h]

-- Turns leave no machine down, so there is one machine down at most in the midst of a turn.
theorem down_of_prefix_switches (h : calls <+: places.flatMap fun place =>
    [.prepareSeries place.2 series, .completeSeries place.2]) :
    (calls.foldl afterCall []).length ≤ 1 := by
  induction places generalizing calls
  case nil => rw [List.prefix_nil.mp h]; exact Nat.zero_le _
  case cons place places hi =>
    rcases List.prefix_cons_iff.mp h with rfl | ⟨_, rfl, h'⟩
    · exact Nat.zero_le _
    · rcases List.prefix_cons_iff.mp h' with rfl | ⟨rest, rfl, h''⟩
      · exact Nat.le_refl _
      · simpa [afterCall] using hi h''

theorem Restarted.append (h : Restarted series places' machine calls') :
    Restarted series (places ++ places') machine (calls ++ calls') := by
  have ⟨unit, before, during, mem, split, rest⟩ := h
  refine ⟨unit, calls ++ before, during, List.mem_append_right _ mem, ?_, rest⟩
  rw [split, List.append_assoc]

theorem Restarted.mono (h : Restarted series places machine calls) :
    Restarted series (places ++ places') machine calls := by
  have ⟨unit, before, during, mem, rest⟩ := h
  exact ⟨unit, before, during, List.mem_append_left _ mem, rest⟩

namespace CompletesRestarted

theorem of_none (h : ∀ machine, .completeSeries machine ∉ calls) :
    CompletesRestarted series places calls :=
  fun _ machine _ eq => absurd (eq ▸ List.mem_append_right _ List.mem_cons_self) (h machine)

theorem quiet (h : Quiet calls) : CompletesRestarted series places calls :=
  of_none h.completeSeries_notMem

theorem append (h : CompletesRestarted series places calls)
    (h' : CompletesRestarted series places' calls') :
    CompletesRestarted series (places ++ places') (calls ++ calls') := by
  intro l machine r eq
  rcases List.append_eq_append_iff.mp eq with ⟨l', rfl, eq'⟩ | ⟨r', eq', hr⟩
  · exact (h' l' machine r eq').append
  · rcases List.cons_eq_append_iff.mp hr with ⟨rfl, eq''⟩ | ⟨r'', rfl, _⟩
    · have restarted : Restarted series (places ++ places') machine (calls ++ []) :=
        (h' [] machine r eq'').append
      rwa [eq', List.append_nil, List.append_nil] at restarted
    · exact (h l machine r'' eq').mono

theorem whole (h : Whole unit machine series calls) :
    CompletesRestarted series [(unit, machine)] calls := by
  cases h
  case intro before during after quiet_before quiet_during quiet_after restarts =>
    intro l machine' r eq
    have ⟨split, same, _⟩ := (List.append_cons_inj_of_notMem
      (quiet_before.notMem_down quiet_during) (quiet_after.completeSeries_notMem _)).mp eq
    cases same
    exact ⟨unit, before, during, List.mem_singleton_self _, split.symm, quiet_during, restarts⟩

theorem turn : Turn unit machine series calls → CompletesRestarted series [(unit, machine)] calls
  | .early quiet                    => .quiet quiet
  | .down quiet_before quiet_during => of_none fun _ => quiet_before.notMem_down quiet_during
  | .back h                         => whole h

end CompletesRestarted
end

section

variable {σ : Type} {answer : Client.Handler σ} {settings : SeriesSettings} {hooks : List Hook}
  {places : List (String × String)} {calls : List Call} {outcome : Except Error Unit}

theorem Rolling.completesRestarted (harmless : Harmless answer hooks)
    (h : Rolling answer settings hooks places calls outcome) :
    CompletesRestarted settings.toSeries places calls := by
  induction h
  case nil         => exact .quiet .nil
  case cut         => exact .turn (upgradeMachine_turn harmless)
  case next h _ hi => exact .append (.whole (upgradeMachine_whole harmless h)) hi

variable {app : Application} {completed : List String}

theorem leaderFirst_of_prefix_pending (h : places <+: pending app.order completed)
    (hp : places ≠ []) : LeaderFirst app completed places := by
  cases hl : app.leader?
  case none =>
    rw [Application.order, hl] at h
    exact absurd (List.prefix_nil.mp h) hp
  case some u =>
    obtain ⟨leader, leading⟩ := u
    have rest completed : ((pending (app.others leader) completed).map (·.1)).Pairwise (· < ·) ∧
        ∀ place ∈ pending (app.others leader) completed, place.1 ≠ leader ∧
          ∃ unit, (place.1, unit) ∈ app.units.toList ∧ unit.machine = place.2 :=
      ⟨Application.others_ascending.sublist (pending_sublist.map _),
        fun _ hm => Application.mem_others.mp (pending_sublist.subset hm)⟩
    rw [Application.order, hl, pending] at h
    split at h
    case isTrue done =>
      exact ⟨leader, leading, _, hl, by rw [if_pos done]; exact h, rest completed⟩
    case isFalse due =>
      exact ⟨leader, leading, _, hl, by rw [if_neg due]; exact h, rest _⟩

-- However far the upgrade of an application comes, no two machines are down at once, and a machine
-- is only brought back with a new release and rebooted. The machines are upgraded one after the
-- other, the leader's before the others.
theorem upgradeApplication_one_down (application : String) (completed : List String) (s : σ)
    (harmless : Harmless answer hooks) :
    let run := (upgradeApplication application settings completed hooks).run answer s
    (∀ l, l <+: run.calls → (downAfter l).length ≤ 1) ∧
    ∃ opening places calls outcome,
      run.calls = opening ++ calls ∧ (∀ c ∈ opening, c.Opens) ∧
      Rolling answer settings hooks places calls outcome ∧ (places.map (·.2)).Nodup ∧
      CompletesRestarted settings.toSeries places run.calls ∧
      (places ≠ [] → ∃ app, described answer application s = some app ∧
        places <+: pending app.order completed ∧ LeaderFirst app completed places) := by
  have ⟨opening, places, calls, outcome, split, opens, rolling, taken, _⟩ :=
    upgradeApplication_rolls answer application settings hooks completed s
  have quiet : Quiet opening := fun c hc => (opens c hc).not_switches
  refine ⟨fun l hl => ?down, opening, places, calls, outcome, split, opens, rolling,
    (taken.sublist.map _).nodup pending_nodup, ?restarted, fun hp => ?order⟩
  case down =>
    have switches := hl.filter (·.switches)
    rw [split, List.filter_append, quiet.filter_switches, List.nil_append] at switches
    rw [downAfter, ← foldl_afterCall_switches]
    exact down_of_prefix_switches (switches.trans (rolling.switches harmless))
  case restarted =>
    rw [split]
    have opening_restarted : CompletesRestarted settings.toSeries [] opening := .quiet quiet
    exact opening_restarted.append (rolling.completesRestarted harmless)
  case order =>
    cases hd : described answer application s
    case none     => rw [hd] at taken; exact absurd (List.prefix_nil.mp taken) hp
    case some app =>
      rw [hd] at taken
      exact ⟨app, rfl, taken, leaderFirst_of_prefix_pending taken hp⟩

-- A database with three units, of which the second leads.
def database : Snapshot :=
  ⟨.ofList [("mysql", ⟨"mysql-innodb-cluster", [], none, .ofList [
    ("mysql/0", ⟨false, "4", none, none, none, .empty⟩),
    ("mysql/1", ⟨true, "5", none, none, none, .empty⟩),
    ("mysql/2", ⟨false, "6", none, none, none, .empty⟩)]⟩)]⟩

theorem upgradeApplication_one_down_database :
    let run := (ScriptedModel.empty.withSnapshot database).run []
      (upgradeApplication "mysql" .default ["4"] [fun _ => Call.awaitIdle.perform])
    run.result = .ok ["4", "5", "6"] ∧
    (run.calls.filter (·.restarts) = ["mysql/1", "mysql/2"].flatMap fun unit =>
      [.ssh unit ["sudo", "DEBIAN_FRONTEND=noninteractive", "do-release-upgrade", "-f",
        "DistUpgradeViewNonInteractive"], .ssh unit ["sudo", "reboot", "&&", "exit"]]) ∧
    (∀ l, l <+: run.calls → (downAfter l).length ≤ 1) ∧
    CompletesRestarted "xenial" [("mysql/1", "5"), ("mysql/2", "6")] run.calls ∧
    ∃ app, database.applications.find? "mysql" = some app ∧
      LeaderFirst app ["4"] [("mysql/1", "5"), ("mysql/2", "6")] := by
  intro run
  have harmless : Harmless (Recorder.handleFaulty []) [fun _ => Call.awaitIdle.perform] := by
    intro hook h unit
    cases List.mem_singleton.mp h
    exact Call.perform_only Bool.false_ne_true
  have ⟨one_down, _, places, _, _, _, _, _, _, restarted, order⟩ :=
    @upgradeApplication_one_down _ _ .default _ "mysql" ["4"]
      (.ofModel (.withSnapshot .empty database), 0) harmless
  have back : .completeSeries "6" ∈ run.calls := by decide
  have ⟨_, _, split⟩ := List.append_of_mem back
  have ⟨unit, _, _, last, _⟩ := restarted _ _ _ split
  have ⟨app, described, taken, first⟩ := order (List.ne_nil_of_mem last)
  cases described
  -- The machine that is brought back last is the last of those to upgrade.
  have all : places = [("mysql/1", "5"), ("mysql/2", "6")] := by
    have taken : places <+: [("mysql/1", "5")] ++ [("mysql/2", "6")] := taken
    rcases List.prefix_concat_iff.mp taken with h | h
    · exact h
    · simpa using h.subset last
  exact ⟨by rfl, by rfl, one_down, all ▸ restarted, _, rfl, all ▸ first⟩

end
end RollingUpgrade.Series
