import Mathlib.Data.List.Flatten
import Mathlib.Data.List.Nodup
import RollingUpgrade.Proofs.Series.Opening

namespace RollingUpgrade

-- The units of a snapshot, subordinates included, each with the flag by which it leads its
-- application.
def Snapshot.flags (s : Snapshot) : List (String × Bool) :=
  s.applications.values.flatMap fun a => a.units.toList.flatMap fun u =>
    (u.1, u.2.leader) :: u.2.subordinates.toList.map fun sub => (sub.1, sub.2.leader)

namespace Series

-- A unit or a subordinate on it.
def RidesOn (name : String) (u : String × Principal) : Prop :=
  name = u.1 ∨ name ∈ u.2.subordinates

-- The settings want the unit paused, and it does not ride on the leader.
def Pausable (settings : SeriesSettings) (a : Application) (name : String) : Prop :=
  ∃ u ∈ a.followers,
    settings.pauseSubordinates ∧ name ∈ u.2.subordinates ∧ unitApplication name ∉ neverPaused ∨
    settings.pausePrimaries ∧ name = u.1

-- A run that pauses units in order, all of them if it succeeds.
structure Pauses {σ α : Type} (names : List String) (r : Run Client σ α) : Prop where
  begun : r.calls.filterMap Call.paused? <+: names
  done : ∀ a, r.result = .ok a → r.calls.filterMap Call.paused? = names

namespace Pauses

variable {σ α β : Type} {names names' : List String} {r : Run Client σ α}

theorem none {answer : Client.Handler σ} {p : Program Client α} {s : σ}
    (h : p.Only answer fun c => c.paused? = none) : Pauses [] (p.run answer s) := by
  have nil : (p.run answer s).calls.filterMap Call.paused? = [] :=
    List.filterMap_eq_nil_iff.mpr (h s)
  exact ⟨nil ▸ List.nil_prefix, fun _ _ => nil⟩

theorem andThen {next : α → σ → Run Client σ β} (hr : Pauses names r)
    (hn : ∀ a, r.result = .ok a → Pauses names' (next a r.state)) :
    Pauses (names ++ names') (r.andThen next) := by
  cases h : r.result
  case error e =>
    refine ⟨?begun, fun b hb => ?_⟩
    case begun =>
      rw [Run.calls_andThen_error h]
      exact hr.begun.trans (List.prefix_append _ _)
    rw [Run.andThen_error h] at hb
    cases hb
  case ok a =>
    have rest := hn a h
    refine ⟨?begun, fun b hb => ?done⟩
    case begun =>
      rw [Run.calls_andThen_ok h, List.filterMap_append, hr.done a h]
      exact (List.prefix_append_right_inj _).mpr rest.begun
    case done =>
      rw [Run.andThen_ok h] at hb
      rw [Run.calls_andThen_ok h, List.filterMap_append, hr.done a h, rest.done b hb]

theorem behind {next : α → σ → Run Client σ β} (hr : Pauses [] r)
    (hn : ∀ a, r.result = .ok a → Pauses names (next a r.state)) : Pauses names (r.andThen next) :=
  hr.andThen hn

theorem ahead {next : α → σ → Run Client σ β} (hr : Pauses names r)
    (hn : ∀ a, r.result = .ok a → Pauses [] (next a r.state)) : Pauses names (r.andThen next) :=
  List.append_nil names ▸ hr.andThen hn

end Pauses

section

variable {σ : Type} {answer : Client.Handler σ} {settings : SeriesSettings} {hooks : List Hook}
  {s : σ}

theorem Pauses.inTurn (names : List String) (s : σ) :
    Pauses names (Run.inTurn (names.map (pauseRun answer)) s) := by
  induction names generalizing s
  case nil => exact ⟨List.nil_prefix, fun _ _ => rfl⟩
  case cons name names hi =>
    have one : (pauseRun answer name s).calls.filterMap Call.paused? = [name] := by
      rw [pauseRun, Stage.calls_issue]
      rfl
    exact Pauses.andThen ⟨one ▸ List.prefix_rfl, fun _ _ => one⟩ fun _ _ => hi _

theorem Pauses.of_tracks {p : Program Client Unit} {names : List String}
    (h : p.Tracks answer (names.map (pauseRun answer))) : Pauses names (p.run answer s) := by
  have pauses : Pauses names (Run.inTurn (names.map (pauseRun answer)) s) := .inTurn names s
  have calls : (p.run answer s).calls = _ := h.requests s
  exact ⟨calls ▸ pauses.begun, fun a ok => calls ▸ pauses.done a (h.result s ▸ ok)⟩

theorem upgradeUnits_pauses (unpausing : Unpausing answer hooks) (order : List (String × String))
    (completed : List String) :
    Pauses [] ((upgradeUnits settings hooks order completed).run answer s) :=
  .none (upgradeUnits_unpausing unpausing)

theorem upgradeApplication_pauses (application : String) (completed : List String)
    (unpausing : Unpausing answer hooks) :
    Pauses ((described answer application s).elim [] (pausesFor settings))
      ((upgradeApplication application settings completed hooks).run answer s) := by
  rw [upgradeApplication, Program.run_bind]
  have silent : Call.status.perform.Only answer fun c => c.paused? = none := Call.perform_only rfl
  refine .behind (.none silent) fun snapshot hs => ?_
  rw [Call.result_perform] at hs
  rw [described, hs]
  dsimp only
  cases snapshot.applications.find? application
  case none => exact .none (.fail _)
  case some app =>
    dsimp only [Option.elim]
    cases hl : app.leader?
    case none =>
      rw [pausesFor, Application.followers, hl]
      exact .none (.fail _)
    case some leader =>
      dsimp only
      rw [Program.run_bind, ← Application.followers_of_leader hl]
      exact .ahead (.of_tracks (followers_track app)) fun _ _ => upgradeUnits_pauses unpausing _ _

variable {application name : String} {completed list : List String} {app : Application}

theorem mem_pausesFor : name ∈ pausesFor settings app ↔ Pausable settings app name := by
  rw [pausesFor, List.mem_flatMap]
  refine exists_congr fun u => and_congr_right fun _ => ?_
  have subordinate : name ∈ u.2.subordinates.keys.filter (unitApplication · ∉ neverPaused) ↔
      name ∈ u.2.subordinates ∧ unitApplication name ∉ neverPaused := by
    rw [List.mem_filter, decide_eq_true_iff]
    exact Iff.rfl
  rw [pausesOn, List.mem_append]
  refine or_congr ?subordinates ?primary
  case subordinates =>
    split
    case isTrue wanted   => exact subordinate.trans (and_iff_right wanted).symm
    case isFalse refused => exact iff_of_false List.not_mem_nil fun h => refused h.left
  case primary =>
    split
    case isTrue wanted   => exact List.mem_singleton.trans (and_iff_right wanted).symm
    case isFalse refused => exact iff_of_false List.not_mem_nil fun h => refused h.left

theorem mem_followers {u : String × Principal} : u ∈ app.followers ↔
    u ∈ app.units.toList ∧ ∃ leader, app.leader? = some leader ∧ u.1 ≠ leader.1 := by
  rw [Application.followers]
  cases app.leader? <;> simp

theorem mem_flags_of_unit {snapshot : Snapshot} {u : String × Principal}
    (ha : snapshot.applications.find? application = some app) (hu : u ∈ app.units.toList) :
    (u.1, u.2.leader) ∈ snapshot.flags ∧
      ∀ sub ∈ u.2.subordinates.toList, (sub.1, sub.2.leader) ∈ snapshot.flags := by
  have mem {flag} (h : flag ∈ (u.1, u.2.leader) ::
      u.2.subordinates.toList.map fun sub => (sub.1, sub.2.leader)) : flag ∈ snapshot.flags := by
    have listed := NameMap.find?_eq_some_iff.mp ha
    exact List.mem_flatMap.mpr ⟨app, List.mem_map_of_mem listed, List.mem_flatMap.mpr ⟨u, hu, h⟩⟩
  exact ⟨mem List.mem_cons_self,
    fun _ hs => mem (List.mem_cons_of_mem _ (List.mem_map_of_mem hs))⟩

theorem snapshot_of_described {snapshot : Snapshot} (hs : (answer .status s).1 = .ok snapshot) :
    described answer application s = snapshot.applications.find? application := by
  rw [described, hs]

theorem pausable_of_paused (unpausing : Unpausing answer hooks)
    (h : name ∈ List.filterMap Call.paused?
      ((upgradeApplication application settings completed hooks).run answer s).calls) :
    ∃ app, described answer application s = some app ∧ Pausable settings app name := by
  have listed := (upgradeApplication_pauses application completed unpausing).begun.subset h
  cases hd : described answer application s
  case none     => rw [hd] at listed; nomatch listed
  case some app => rw [hd] at listed; exact ⟨app, rfl, mem_pausesFor.mp listed⟩

-- Only units that do not ride on the leader are paused, and if the upgrade succeeds, all of them
-- that the settings want paused. Flags serve only to find the leader. So no unit that leads is
-- paused if each unit is flagged once and those that lead ride on the leader.
theorem upgradeApplication_pauses_followers (application : String) (completed : List String) (s : σ)
    (unpausing : Unpausing answer hooks) :
    let run := (upgradeApplication application settings completed hooks).run answer s
    let paused := run.calls.filterMap Call.paused?
    (∀ name ∈ paused, ∃ app, described answer application s = some app ∧
      Pausable settings app name) ∧
    (∀ list, run.result = .ok list → ∀ app, described answer application s = some app →
      ∀ name, Pausable settings app name → name ∈ paused) ∧
    ∀ snapshot, (answer .status s).1 = .ok snapshot → (snapshot.flags.map (·.1)).Nodup →
      (∀ app, snapshot.applications.find? application = some app → ∀ u ∈ app.followers,
        u.2.leader = false ∧ ∀ sub ∈ u.2.subordinates.toList, sub.2.leader = false) →
      ∀ name ∈ paused, (name, true) ∉ snapshot.flags := by
  refine ⟨fun name => pausable_of_paused unpausing, fun list h app hd name hp => ?all,
    fun snapshot hs unique apart name h flagged => ?unflagged⟩
  case all =>
    have all := (upgradeApplication_pauses application completed unpausing).done list h
    rw [hd] at all
    exact all ▸ mem_pausesFor.mpr hp
  case unflagged =>
    have ⟨app, hd, u, hu, why⟩ := pausable_of_paused unpausing h
    rw [snapshot_of_described hs] at hd
    have ⟨unit_flag, sub_flags⟩ := mem_flags_of_unit hd (mem_followers.mp hu).left
    have ⟨unit_apart, sub_apart⟩ := apart app hd u hu
    have unflagged : (name, false) ∈ snapshot.flags := by
      rcases why with ⟨_, hn, _⟩ | ⟨_, rfl⟩
      · have ⟨sub, hsub, e⟩ := List.mem_map.mp hn
        exact e ▸ sub_apart sub hsub ▸ sub_flags sub hsub
      · exact unit_apart ▸ unit_flag
    cases List.inj_on_of_nodup_map unique flagged unflagged rfl

theorem upgradeApplication_pauses_followers_cluster :
    let run := (ScriptedModel.empty.withSnapshot (cluster true)).run []
      (upgradeApplication "cinder" .default [] [])
    let paused := run.calls.filterMap Call.paused?
    paused = ["hacluster/1", "cinder/1", "cinder/2"] ∧
      ∀ name ∈ paused, (name, true) ∉ (cluster true).flags := by
  intro run paused
  have apart : ∀ app, (cluster true).applications.find? "cinder" = some app → ∀ u ∈ app.followers,
      u.2.leader = false ∧ ∀ sub ∈ u.2.subordinates.toList, sub.2.leader = false := by
    rintro _ ⟨⟩
    decide
  have unpausing : Unpausing (Recorder.handleFaulty []) [] := by simp [Unpausing]
  have ⟨_, _, unflagged⟩ := @upgradeApplication_pauses_followers _ _ .default _ "cinder" []
    (.ofModel (.withSnapshot .empty (cluster true)), 0) unpausing
  exact ⟨by rfl, unflagged (cluster true) rfl (by decide) apart⟩

-- A subordinate that leads is paused if it does not ride on the leader.
theorem upgradeApplication_pauses_leading_subordinate :
    let run := (ScriptedModel.empty.withSnapshot (cluster false)).run []
      (upgradeApplication "cinder" .default [] [])
    ("hacluster/1", true) ∈ (cluster false).flags ∧
      .action "hacluster/1" "pause" .empty ∈ run.calls := by
  decide

-- The pauses come before all upgrades of machines.
theorem suffix_of_paused {opening calls before after : List Call} {c : Call}
    (split : opening ++ calls = before ++ c :: after) (unpaused : ∀ c ∈ calls, c.paused? = none)
    (hc : c.paused? ≠ none) : calls <:+ after := by
  have notMem : c ∉ calls := fun h => hc (unpaused c h)
  rcases List.append_eq_append_iff.mp split with ⟨l, _, rfl⟩ | ⟨l, rfl, eq⟩
  · exact absurd (List.mem_append_right l List.mem_cons_self) notMem
  · rcases List.cons_eq_append_iff.mp eq with ⟨_, rfl⟩ | ⟨l', _, rfl⟩
    · exact absurd List.mem_cons_self notMem
    · exact List.suffix_append l' calls

theorem upgradeApplication_upgrades_paused_iff (harmless : Harmless answer hooks)
    (unpausing : Unpausing answer hooks)
    (h : ((upgradeApplication application settings completed hooks).run answer s).result =
      .ok list) :
    let run := (upgradeApplication application settings completed hooks).run answer s
    ∃ app, described answer application s = some app ∧
      run.calls.filterMap Call.paused? = pausesFor settings app ∧
      ∀ before name params after, run.calls = before ++ .action name "pause" params :: after →
        (∃ u ∈ app.followers, RidesOn name u) ∧
        ∀ u ∈ app.units.toList, RidesOn name u →
          (u.2.machine ∉ completed ↔ [.prepareSeries u.2.machine settings.toSeries,
            .completeSeries u.2.machine].Sublist after) := by
  have ⟨opening, places, calls, outcome, split, opens, rolling, _, done⟩ :=
    upgradeApplication_rolls answer application settings hooks completed s
  have ⟨ok, all, _, app, hd, leads⟩ := done list h
  have paused := (upgradeApplication_pauses application completed unpausing).done list h
  rw [hd] at paused all
  dsimp only [Option.elim] at paused all
  refine ⟨app, hd, paused, fun before name params after h => ⟨?rides, fun u hu _ => ?upgraded⟩⟩
  case rides =>
    have asked := h ▸ List.mem_append_right before (List.mem_cons_self (l := after))
    have mem : name ∈ pausesFor settings app :=
      paused ▸ List.mem_filterMap.mpr ⟨.action name "pause" params, asked, rfl⟩
    have ⟨u, hu, why⟩ := mem_pausesFor.mp mem
    exact ⟨u, hu, why.elim (fun h => .inr h.right.left) fun h => .inl h.right⟩
  case upgraded =>
    have suffix : calls <:+ after :=
      suffix_of_paused (split.symm.trans h) (rolling.unpausing unpausing) (by simp [Call.paused?])
    constructor
    case mp =>
      intro fresh
      have due := (Application.mem_machines_order leads u.2.machine).mpr ⟨u, hu, rfl⟩
      have place := all ▸ (List.mem_append.mp (pending_complete due)).resolve_left fresh
      exact (rolling.upgrades harmless ok place).trans suffix.sublist
    case mpr =>
      intro turn
      let prepare : Call := .prepareSeries u.2.machine settings.toSeries
      have asked : prepare ∈ opening ++ calls := by
        rw [← split, h]
        exact List.mem_append_right _ (List.mem_cons_of_mem _ (turn.subset List.mem_cons_self))
      have later : prepare ∈ calls :=
        (List.mem_append.mp asked).resolve_left fun ho => (opens _ ho).not_switches rfl
      exact pending_disjoint (all ▸ rolling.upgraded harmless ok later)

theorem upgradeApplication_upgrades_paused_iff_cluster :
    let run := (ScriptedModel.empty.withSnapshot (cluster true)).run []
      (upgradeApplication "cinder" .default ["5"] [])
    run.result = .ok ["5", "4", "6"] ∧
    ∀ app, (cluster true).applications.find? "cinder" = some app →
      run.calls.filterMap Call.paused? = pausesFor .default app ∧
      ∀ before name params after, run.calls = before ++ .action name "pause" params :: after →
        ∀ u ∈ app.units.toList, RidesOn name u →
          (u.2.machine ∉ ["5"] ↔
            [.prepareSeries u.2.machine "xenial", .completeSeries u.2.machine].Sublist after) := by
  intro run
  refine ⟨by rfl, fun app ha => ?_⟩
  have harmless : Harmless (Recorder.handleFaulty []) [] := by simp [Harmless]
  have unpausing : Unpausing (Recorder.handleFaulty []) [] := by simp [Unpausing]
  have ⟨app', hd, paused, upgraded⟩ :=
    @upgradeApplication_upgrades_paused_iff _ _ .default _
      (.ofModel (.withSnapshot .empty (cluster true)), 0) "cinder" ["5"] _ harmless unpausing
      (by rfl)
  have same : app' = app := Option.some.inj (hd.symm.trans ha)
  subst same
  exact ⟨paused, fun before name params after h => (upgraded before name params after h).right⟩

-- A unit is paused also if its machine is completed before, so it stays paused.
theorem upgradeApplication_pauses_completed :
    let run := (ScriptedModel.empty.withSnapshot (cluster true)).run []
      (upgradeApplication "cinder" .default ["5"] [])
    run.result = .ok ["5", "4", "6"] ∧
    .action "cinder/1" "pause" .empty ∈ run.calls ∧
    run.calls.filterMap Call.prepared? = ["4", "6"] ∧
    ∃ app unit, (cluster true).applications.find? "cinder" = some app ∧
      app.units.find? "cinder/1" = some unit ∧ unit.machine = "5" := by
  exact ⟨by rfl, by decide, by rfl, _, _, rfl, rfl, rfl⟩

end
end Series
end RollingUpgrade
