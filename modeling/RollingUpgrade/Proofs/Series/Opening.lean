import RollingUpgrade.Proofs.Series.Rolling

namespace RollingUpgrade

-- The unit that a call pauses.
def Call.paused? : Call → Option String
  | .action unit name _ => if name = "pause" then some unit else none
  | _                   => none

-- The units that do not lead.
def Application.followers (a : Application) : List (String × Principal) :=
  a.leader?.elim [] fun leader => a.units.toList.filter (·.1 != leader.1)

theorem Application.followers_of_leader {a : Application} {leader : String × Principal}
    (h : a.leader? = some leader) : a.followers = a.units.toList.filter (·.1 != leader.1) := by
  rw [followers, h]
  rfl

theorem Application.followers_ascending (a : Application) :
    (a.followers.map (·.1)).Pairwise (· < ·) := by
  cases h : a.leader?
  case none        => simp [followers, h]
  case some leader =>
    rw [followers_of_leader h]
    exact List.pairwise_map.mpr (a.units.ascending.filter _)

theorem Application.order_of_leader {a : Application} {leader : String × Principal}
    (h : a.leader? = some leader) : a.order =
      (leader.1, leader.2.machine) :: a.followers.map fun u => (u.1, u.2.machine) := by
  rw [order, h, followers_of_leader h]
  rfl

abbrev Call.pause (unit : String) : Call := .action unit "pause" .empty

namespace Series

-- Hooks that leave it to the upgrade to pause units.
def Unpausing {σ : Type} (answer : Client.Handler σ) (hooks : List Hook) : Prop :=
  ∀ hook ∈ hooks, ∀ unit, (hook unit).Only answer fun c => c.paused? = none

-- The units that are to be paused on the machine of a unit.
def pausesOn (settings : SeriesSettings) (u : String × Principal) : List String :=
  (if settings.pauseSubordinates then
    u.2.subordinates.keys.filter (unitApplication · ∉ neverPaused) else []) ++
  if settings.pausePrimaries then [u.1] else []

-- The units that are to be paused before an application is upgraded, in order.
def pausesFor (settings : SeriesSettings) (a : Application) : List String :=
  a.followers.flatMap (pausesOn settings)

-- A unit that was asked to pause may also report that it failed to.
def Verdict.ofPause (unit : String) : Except Error ActionResult → Verdict
  | .ok result =>
    if result.failed then fatal (.actionFailed unit "pause" result.message) else passed
  | .error e => fatal e

section

variable {σ : Type} (answer : Client.Handler σ)

def pauseRun (unit : String) : σ → Run Client σ Unit :=
  issue answer (.pause unit) (Verdict.ofPause unit)

-- The pauses of units, each in the state in which the one before it left the client.
def pauseRuns (names : List String) : σ → List (Run Client σ Unit) :=
  Run.each (names.map (pauseRun answer))

-- A run that makes some calls and ends with an error.
structure StopsAfter {α : Type} (calls : List Call) (e : Error) (run : Run Client σ α) : Prop where
  result : run.result = .error e
  calls  : run.calls = calls

-- A run that goes on with pauses after some calls. If all pauses succeed, the rest starts in the
-- state in which they left the client, and otherwise the first one that fails is the last call.
structure PausesNext {α : Type} (before : List Call) (names : List String)
    (rest : σ → Run Client σ α) (s : σ) (run : Run Client σ α) : Prop where
  passed : (∀ r ∈ pauseRuns answer names s, r.result = .ok ()) →
    let rest := rest (Run.inTurn (names.map (pauseRun answer)) s).state
    run.result = rest.result ∧ run.calls = before ++ names.map .pause ++ rest.calls
  failed : ∀ k r e, (∀ r ∈ (pauseRuns answer names s).take k, r.result = .ok ()) →
    (pauseRuns answer names s)[k]? = some r → r.result = .error e →
    StopsAfter (before ++ (names.take (k + 1)).map .pause) e run

end

section

variable {σ : Type} {answer : Client.Handler σ} {settings : SeriesSettings} {hooks : List Hook}
  {s : σ}

theorem calls_pauseRuns (names : List String) (s : σ) :
    (pauseRuns answer names s).flatMap Run.calls = names.map .pause := by
  rw [pauseRuns]
  induction names generalizing s
  case nil => rfl
  case cons name names hi =>
    rw [List.map_cons, Run.each, List.flatMap_cons, hi, pauseRun, Stage.calls_issue]
    rfl

-- Notes apart, the program makes one pause.
theorem pause_tracks (unit : String) : (pause unit).Tracks answer [pauseRun answer unit] := by
  refine (Program.Tracks.note _ _ _).bind fun _ => .part fun s => ?_
  rw [Program.run_bind, Call.run_perform, pauseRun, issue]
  cases (answer (.action unit "pause" .empty) s).1
  case error e   => rfl
  case ok result => by_cases h : result.failed <;> simp [Verdict.ofPause, Run.andThen, h] <;> rfl

theorem pauseSubordinate_tracks (unit : String) : (pauseSubordinate unit).Tracks answer
    (([unit].filter (unitApplication · ∉ neverPaused)).map (pauseRun answer)) := by
  rw [pauseSubordinate]
  split
  case isTrue h  => simpa [h] using .note _ _ _
  case isFalse h => simpa [h] using pause_tracks unit

theorem pauseUnit_tracks (u : String × Principal) : (pauseUnit settings u.1 u.2).Tracks answer
    ((pausesOn settings u).map (pauseRun answer)) := by
  have primary : (if settings.pausePrimaries then pause u.1 else pure ()).Tracks answer
      ((if settings.pausePrimaries then [u.1] else []).map (pauseRun answer)) := by
    split
    case isTrue  => exact pause_tracks u.1
    case isFalse => exact .done _
  rw [pauseUnit, pausesOn]
  split
  case isTrue  =>
    let wanted (unit : String) : Bool := unitApplication unit ∉ neverPaused
    have subordinates : u.2.subordinates.keys.filter wanted =
        u.2.subordinates.keys.flatMap fun unit => [unit].filter wanted := by
      rw [← List.filter_flatMap, List.flatMap_singleton']
    rw [subordinates, List.map_append, List.map_flatMap]
    exact (Program.Tracks.forM fun _ _ => pauseSubordinate_tracks _).bind fun _ => primary
  case isFalse => exact primary

theorem followers_track (app : Application) :
    (app.followers.forM fun u => pauseUnit settings u.1 u.2).Tracks answer
      ((pausesFor settings app).map (pauseRun answer)) := by
  rw [pausesFor, List.map_flatMap]
  exact .forM fun u _ => pauseUnit_tracks u

theorem upgradeMachine_unpausing {unit machine : String} (unpausing : Unpausing answer hooks) :
    (upgradeMachine unit machine settings hooks).Only answer fun c => c.paused? = none := by
  refine upgradeMachine_only unpausing fun t ht c hc => ?_
  cases t <;> simp only [Stage.call?, Option.some.injEq, Option.map_eq_some_iff, reduceCtorEq] at hc
  case command | shell => subst hc; rfl
  case copy =>
    obtain ⟨_, _, rfl⟩ := hc
    rfl
  case call c =>
    subst hc
    cases c
    case action => simp [procedure, groundwork, outage, aftermath] at ht
    all_goals rfl

theorem Rolling.unpausing {places : List (String × String)} {calls : List Call}
    {outcome : Except Error Unit} (unpausing : Unpausing answer hooks)
    (h : Rolling answer settings hooks places calls outcome) : ∀ c ∈ calls, c.paused? = none := by
  induction h
  case nil         => exact nofun
  case cut         => exact upgradeMachine_unpausing unpausing _
  case next h _ hi =>
    exact List.forall_mem_append.mpr ⟨upgradeMachine_unpausing unpausing _, hi⟩

theorem upgradeUnits_unpausing {order : List (String × String)} {completed : List String}
    (unpausing : Unpausing answer hooks) :
    (upgradeUnits settings hooks order completed).Only answer fun c => c.paused? = none := by
  intro s
  have ⟨_, _, rolling, _⟩ := upgradeUnits_rolling answer settings hooks order completed s
  exact rolling.unpausing unpausing

namespace StopsAfter

variable {α β : Type} {r : Run Client σ α} {next : α → σ → Run Client σ β} {a : α} {e : Error}
  {calls : List Call}

theorem of_error (h : r.result = .error e) : StopsAfter r.calls e (r.andThen next) :=
  ⟨by rw [Run.andThen_error h], Run.calls_andThen_error h⟩

theorem behind (h : r.result = .ok a) (stops : StopsAfter calls e (next a r.state)) :
    StopsAfter (r.calls ++ calls) e (r.andThen next) := by
  rw [← stops.calls]
  exact ⟨by rw [Run.andThen_ok h, stops.result], Run.calls_andThen_ok h⟩

end StopsAfter

namespace PausesNext

variable {α β : Type} {names : List String} {rest : σ → Run Client σ β}

theorem of_tracks {p : Program Client Unit} (h : p.Tracks answer (names.map (pauseRun answer)))
    (rest : σ → Run Client σ β) (s : σ) :
    PausesNext answer [] names rest s ((p.run answer s).andThen fun _ => rest) where
  passed all := by
    have ⟨result, calls, _⟩ := Run.inTurn_of_no_failure all
    have calls := (h.requests s).trans (calls.trans (calls_pauseRuns names s))
    rw [← h.result] at result
    rw [← h.state, Run.calls_andThen_ok result, Run.andThen_ok result]
    exact ⟨rfl, congrArg (· ++ _) calls⟩
  failed k r e passed failed hr := by
    have ⟨result, calls, _⟩ := Run.inTurn_of_first_failure passed failed hr
    rw [Run.take_each, ← List.map_take] at calls
    have calls := (h.requests s).trans (calls.trans (calls_pauseRuns (names.take (k + 1)) s))
    rw [← h.result] at result
    exact calls ▸ .of_error result

theorem behind {r : Run Client σ α} {next : α → σ → Run Client σ β} {a : α}
    {before : List Call} (h : r.result = .ok a)
    (pauses : PausesNext answer before names rest r.state (next a r.state)) :
    PausesNext answer (r.calls ++ before) names rest r.state (r.andThen next) where
  passed all := by
    have ⟨result, calls⟩ := pauses.passed all
    rw [Run.calls_andThen_ok h, Run.andThen_ok h, result, calls]
    simp only [List.append_assoc, and_self]
  failed k r' e passed failed hr := by
    rw [List.append_assoc]
    exact .behind h (pauses.failed k r' e passed failed hr)

end PausesNext

-- An upgrade that cannot tell the leader does nothing but ask for the status. Otherwise the units
-- that do not lead are paused in ascending order, each after its subordinates, and if a pause fails
-- then it is the last call. Machines are upgraded only when all pauses have succeeded, and
-- meanwhile nothing is paused, unless a hook does so.
theorem upgradeApplication_pauses_first (answer : Client.Handler σ) (application : String)
    (settings : SeriesSettings) (completed : List String) (hooks : List Hook) (s : σ) :
    let run := (upgradeApplication application settings completed hooks).run answer s
    (∀ e, (answer .status s).1 = .error e → StopsAfter [.status] e run) ∧
    ∀ snapshot, (answer .status s).1 = .ok snapshot →
      (snapshot.applications.find? application = none →
        StopsAfter [.status] (.client s!"application {application} not found") run) ∧
      ∀ app, snapshot.applications.find? application = some app →
        (app.leader? = none →
          StopsAfter [.status] (.client s!"application {application} has no leader unit") run) ∧
        (app.leader?.isSome →
          let rest := (upgradeUnits settings hooks app.order completed).run answer
          (app.followers.map (·.1)).Pairwise (· < ·) ∧
          PausesNext answer [.status] (pausesFor settings app) rest (answer .status s).2 run ∧
          (Unpausing answer hooks → ∀ t, ∀ c ∈ (rest t).calls, c.paused? = none)) := by
  have asked : (Call.status.perform.run answer s).calls = [.status] := by
    rw [Call.run_perform]
    rfl
  have state : (Call.status.perform.run answer s).state = (answer .status s).2 := by
    rw [Call.run_perform]
  rw [upgradeApplication, Program.run_bind, ← asked, ← state, ← Call.result_perform]
  refine ⟨fun e h => .of_error h, fun snapshot hs => ⟨?unknown, fun app found => ⟨?alone, ?led⟩⟩⟩
  case unknown =>
    intro unknown
    rw [← List.append_nil (Run.calls _)]
    refine .behind hs ?_
    rw [unknown]
    exact ⟨rfl, rfl⟩
  case alone =>
    intro alone
    rw [← List.append_nil (Run.calls _)]
    refine .behind hs ?_
    rw [found]
    dsimp only
    rw [alone]
    exact ⟨rfl, rfl⟩
  case led =>
    intro led
    obtain ⟨leader, leads⟩ := Option.isSome_iff_exists.mp led
    refine ⟨app.followers_ascending, ?pauses, fun unpausing => upgradeUnits_unpausing unpausing⟩
    rw [← List.append_nil (Run.calls _)]
    refine .behind hs ?_
    rw [found]
    dsimp only
    rw [leads, Application.order_of_leader leads]
    dsimp only
    rw [Program.run_bind, ← Application.followers_of_leader leads]
    exact .of_tracks (followers_track app) _ _

-- Three units with subordinates, of which one leads: that on the leader or that on another unit.
def cluster (together : Bool) : Snapshot :=
  ⟨.ofList [("cinder", ⟨"cinder", [], none, .ofList [
    ("cinder/0", ⟨true, "4", none, none, none, .ofList [
      ("hacluster/0", ⟨"hacluster", together, none, none⟩)]⟩),
    ("cinder/1", ⟨false, "5", none, none, none, .ofList [
      ("cinder-ceph/1", ⟨"cinder-ceph", false, none, none⟩),
      ("hacluster/1", ⟨"hacluster", !together, none, none⟩)]⟩),
    ("cinder/2", ⟨false, "6", none, none, none, .empty⟩)]⟩)]⟩

-- A client by which one of the units fails to pause.
def busy : Client.Handler Unit
  | .action "cinder/1" .., s => (.ok ⟨"failed", "busy", .empty⟩, s)
  | c, s                     => (ScriptedModel.empty.withSnapshot (cluster true)).handler c s

theorem upgradeApplication_pauses_first_cluster :
    StopsAfter [.status, .pause "hacluster/1", .pause "cinder/1"]
      (.actionFailed "cinder/1" "pause" "busy")
      ((upgradeApplication "cinder" .default [] []).run busy ()) := by
  have ⟨_, known⟩ := upgradeApplication_pauses_first busy "cinder" .default [] [] ()
  have ⟨_, found⟩ := known (cluster true) rfl
  have ⟨_, led⟩ := found _ rfl
  have ⟨_, pauses, _⟩ := led rfl
  exact pauses.failed 1 _ _ (by decide) rfl rfl

end
end Series
end RollingUpgrade
