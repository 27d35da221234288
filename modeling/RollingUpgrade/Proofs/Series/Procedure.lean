import RollingUpgrade.Proofs.InTurn
import RollingUpgrade.Series.Machine

namespace RollingUpgrade.Series

-- What a reply means for the upgrade: it goes on, it goes on after a warning, or it ends.
inductive Verdict
  | passed
  | tolerated (warning : Log.Event)
  | fatal (e : Error)

namespace Verdict

def commandWarning (unit command : String) (result : CommandResult) : Log.Event where
  level   := .warn
  target  := Log.Target.series
  message := "command returned non-zero"
  fields  := [("unit", .quoted unit), ("command", .quoted command),
    ("code", .number result.exitCode), ("stderr", .shown result.stderr)]

def shellWarning (unit command : String) (code : Int) : Log.Event where
  level   := .warn
  target  := Log.Target.series
  message := "ssh command failed, continuing"
  fields  := [("unit", .quoted unit), ("command", .shown command), ("code", .number code)]

-- A command on a unit may report a failure, but the report itself has to arrive.
def ofCommand (unit command : String) : Except Error CommandResult → Verdict
  | .ok result => if result.success then passed else tolerated (commandWarning unit command result)
  | .error e   => fatal e

-- A command that is sent by secure shell may exit with a failure, but no other fault is tolerated.
def ofShell (unit : String) : Except Error Unit → Verdict
  | .ok _                                     => passed
  | .error (.commandFailed _ command code _)  => tolerated (shellWarning unit command code)
  | .error e                                  => fatal e

def ofCall {α : Type} : Except Error α → Verdict
  | .ok _    => passed
  | .error e => fatal e

end Verdict

-- A stage of the upgrade of a machine. All stages are about the same unit. A hook is one stage,
-- whatever it does.
inductive Stage
  | command (text : String)
  | shell (args : List String)
  | call (c : Call)
  | copy (file : String)
  | hook (h : Hook)

variable {σ : Type} (answer : Client.Handler σ) (unit : String)

-- Makes a call and goes by the verdict on the reply.
def issue (c : Call) (judge : Except Error c.Result → Verdict) (s : σ) : Run Client σ Unit :=
  let reply := (answer c s).1
  match judge reply with
  | .passed            => ⟨.ok (), [.asked c reply], (answer c s).2⟩
  | .tolerated warning => ⟨.ok (), [.asked c reply, .logged warning], (answer c s).2⟩
  | .fatal e           => ⟨.error e, [.asked c reply], (answer c s).2⟩

namespace Stage

def run : Stage → σ → Run Client σ Unit
  | command text => issue answer (.run unit text) (Verdict.ofCommand unit text)
  | shell args   => issue answer (.ssh unit args) (Verdict.ofShell unit)
  | call c       => issue answer c Verdict.ofCall
  | copy file    =>
    match Path.fileName? file with
    | some name => issue answer (.copy unit file name) Verdict.ofCall
    | none      => fun s => ⟨.error (.invalidArgument ("not a file path: " ++ file)), [], s⟩
  | hook h       => (h unit).run answer

end Stage

-- The runs of stages when each starts in the state in which the one before it ended, no matter how
-- that one ended.
def stageRuns : List Stage → σ → List (Run Client σ Unit)
  | [],      _ => []
  | t :: ts, s => t.run answer unit s :: stageRuns ts (t.run answer unit s).state

-- The run of stages up to the first one that fails.
def walk : List Stage → σ → Run Client σ Unit
  | [],      s => ⟨.ok (), [], s⟩
  | t :: ts, s => (t.run answer unit s).andThen fun _ => walk ts

-- The stages before the machine is prepared.
def groundwork : List Stage :=
  [.command keepConfCommand, .command aptUpdate, .command distUpgradeCommand, .call .awaitIdle]

-- The stages between the preparation of the machine and its completion.
def outage (settings : SeriesSettings) : List Stage :=
  [.call (.awaitWorkload unit "blocked"), .call .awaitIdle] ++
  settings.files.map .copy ++
  settings.workaroundScript.toList.map (fun script => .shell ["sudo " ++ script]) ++
  [.shell releaseUpgradeArgs, .shell rebootArgs] ++
  [.call (.awaitWorkload unit "blocked"), .call .awaitIdle] ++
  settings.origin.toList.flatMap fun origin =>
    [.call (.setConfig (unitApplication unit) (.ofList [(origin, defaultPocket)])),
      .call .awaitIdle]

-- The stages after the machine is completed.
def aftermath (settings : SeriesSettings) (hooks : List Hook) : List Stage :=
  [.call .awaitIdle] ++
  hooks.map .hook ++
  [.call (.awaitWorkload unit "active"), .call .awaitIdle] ++
  [.call (.setSeries (unitApplication unit) settings.toSeries)]

def procedure (machine : String) (settings : SeriesSettings) (hooks : List Hook) : List Stage :=
  groundwork ++
  .call (.prepareSeries machine settings.toSeries) :: outage unit settings ++
  .call (.completeSeries machine) :: aftermath unit settings hooks

section

variable {answer unit} {s : σ} {e : Error} {ts us : List Stage}

theorem walk_eq_inTurn : walk answer unit ts s = Run.inTurn (ts.map (Stage.run answer unit)) s := by
  induction ts generalizing s
  case nil => rfl
  case cons t ts hi =>
    rw [walk, List.map_cons, Run.inTurn]
    congr
    funext _ s
    exact hi

theorem stageRuns_eq_each :
    stageRuns answer unit ts s = Run.each (ts.map (Stage.run answer unit)) s := by
  induction ts generalizing s
  case nil          => rfl
  case cons t ts hi => rw [stageRuns, hi]; rfl

theorem walk_append :
    walk answer unit (ts ++ us) s =
      (walk answer unit ts s).andThen fun _ => walk answer unit us := by
  have rest : walk answer unit us = Run.inTurn (us.map (Stage.run answer unit)) :=
    funext fun _ => walk_eq_inTurn
  rw [walk_eq_inTurn, List.map_append, Run.inTurn_append, walk_eq_inTurn, rest]

theorem walk_singleton {t : Stage} : walk answer unit [t] s = t.run answer unit s :=
  walk_eq_inTurn.trans Run.inTurn_singleton

theorem walk_of_no_failure (h : ∀ r ∈ stageRuns answer unit ts s, r.result = .ok ()) :
    (walk answer unit ts s).result = .ok () ∧
    (walk answer unit ts s).calls = (stageRuns answer unit ts s).flatMap Run.calls ∧
    (walk answer unit ts s).warnings = (stageRuns answer unit ts s).flatMap Run.warnings := by
  rw [walk_eq_inTurn, stageRuns_eq_each] at *
  exact Run.inTurn_of_no_failure h

theorem walk_of_first_failure {k : Nat} {r : Run Client σ Unit}
    (passed : ∀ r ∈ (stageRuns answer unit ts s).take k, r.result = .ok ())
    (failed : (stageRuns answer unit ts s)[k]? = some r) (h : r.result = .error e) :
    (walk answer unit ts s).result = .error e ∧
    (walk answer unit ts s).calls = ((stageRuns answer unit ts s).take (k + 1)).flatMap Run.calls ∧
    (walk answer unit ts s).warnings =
      ((stageRuns answer unit ts s).take (k + 1)).flatMap Run.warnings := by
  rw [stageRuns_eq_each] at passed failed
  rw [walk_eq_inTurn, stageRuns_eq_each]
  exact Run.inTurn_of_first_failure passed failed h

end

-- A program follows stages if its runs are theirs, up to notes and to the value that it gives.
def Follows {α : Type} (p : Program Client α) (ts : List Stage) : Prop :=
  ∀ s, (p.run answer s).outline = (walk answer unit ts s).outline

namespace Follows

variable {answer unit} {α β : Type} {ts us : List Stage} {p : Program Client α}
  {f : α → Program Client β}

theorem iff_tracks :
    Follows answer unit p ts ↔ p.Tracks answer (ts.map (Stage.run answer unit)) := by
  simp only [Follows, Program.Tracks, walk_eq_inTurn]

theorem bind (hp : Follows answer unit p ts) (hf : ∀ a, Follows answer unit (f a) us) :
    Follows answer unit (p >>= f) (ts ++ us) := by
  rw [iff_tracks, List.map_append]
  exact (iff_tracks.mp hp).bind fun a => iff_tracks.mp (hf a)

theorem stage {t : Stage} (h : ∀ s, (p.run answer s).outline = (t.run answer unit s).outline) :
    Follows answer unit p [t] :=
  iff_tracks.mpr (.part h)

theorem of_eq (h : Follows answer unit p ts) (e : ts = us) : Follows answer unit p us :=
  e ▸ h

theorem done (a : α) : Follows answer unit (.done a) [] :=
  iff_tracks.mpr (.done a)

theorem note (message : String) (fields : List (String × Log.Value)) :
    Follows answer unit (Program.emit .info Log.Target.series message fields) [] :=
  iff_tracks.mpr (.note _ message fields)

theorem outline_perform (c : Call) (s : σ) :
    (c.perform.run answer s).outline = (issue answer c Verdict.ofCall s).outline := by
  rw [Call.run_perform, issue]
  cases (answer c s).1 <;> rfl

theorem perform (c : Call) : Follows answer unit c.perform [.call c] :=
  stage (outline_perform c)

theorem forM {l : List α} {f : α → Program Client PUnit} {g : α → Stage}
    (h : ∀ a ∈ l, Follows answer unit (f a) [g a]) : Follows answer unit (l.forM f) (l.map g) := by
  rw [iff_tracks, List.map_map, List.map_eq_flatMap]
  exact .forM fun a ha => iff_tracks.mp (h a ha)

theorem optionForM {o : Option α} {f : α → Program Client PUnit} {g : α → List Stage}
    (h : ∀ a, Follows answer unit (f a) (g a)) :
    Follows answer unit (o.forM f) (o.toList.flatMap g) := by
  cases o
  case none   => exact done _
  case some a => simpa using h a

end Follows

section

variable {answer unit}

theorem runLogged_follows (text : String) :
    Follows answer unit (runLogged unit text) [.command text] := by
  refine .stage fun s => ?_
  rw [runLogged, Program.run_bind, Call.run_perform, Stage.run, issue]
  cases (answer (.run unit text) s).1
  case error e   => rfl
  case ok result => by_cases h : result.success <;> simp [Verdict.ofCommand, Run.andThen, h] <;> rfl

theorem sshLogged_follows (args : List String) :
    Follows answer unit (sshLogged unit args) [.shell args] := by
  refine .stage fun s => ?_
  rw [sshLogged, Program.run_bind, Stage.run, issue]
  simp only [Call.attempt, Program.run]
  cases (answer (.ssh unit args) s).1
  case ok      => rfl
  case error e => cases e <;> rfl

theorem distUpgrade_follows :
    Follows answer unit (distUpgrade unit) [.command aptUpdate, .command distUpgradeCommand] :=
  (Follows.note _ _).bind fun _ => (runLogged_follows _).bind fun _ => runLogged_follows _

theorem releaseUpgrade_follows :
    Follows answer unit (releaseUpgrade unit) [.shell releaseUpgradeArgs] :=
  (Follows.note _ _).bind fun _ => sshLogged_follows _

theorem reboot_follows : Follows answer unit (reboot unit) [.shell rebootArgs] :=
  (Follows.note _ _).bind fun _ => sshLogged_follows _

theorem setOrigin_follows (application origin pocket : String) :
    Follows answer unit (setOrigin application origin pocket)
      [.call (.setConfig application (.ofList [(origin, pocket)]))] :=
  (Follows.note _ _).bind fun _ => Follows.perform _

theorem copyFile_follows (file : String) :
    Follows answer unit (copyFile unit file) [.copy file] := by
  refine .stage fun s => ?_
  cases h : Path.fileName? file
  case none      => simp only [copyFile, Stage.run, h]; rfl
  case some name => simpa only [copyFile, Stage.run, h] using Follows.outline_perform _ s

theorem runAsRoot_follows (command : String) :
    Follows answer unit (runAsRoot unit command) [.shell ["sudo " ++ command]] :=
  sshLogged_follows _

theorem preparedReleaseUpgrade_follows (settings : SeriesSettings) :
    Follows answer unit (preparedReleaseUpgrade unit settings)
      (settings.files.map .copy ++
        (settings.workaroundScript.toList.flatMap (fun script => [.shell ["sudo " ++ script]]) ++
          [.shell releaseUpgradeArgs])) :=
  (Follows.forM fun _ _ => copyFile_follows _).bind fun _ =>
    (Follows.optionForM runAsRoot_follows).bind fun _ => releaseUpgrade_follows

theorem newOrigin_follows (application origin : String) :
    Follows answer unit (do setOrigin application origin defaultPocket; idle)
      [.call (.setConfig application (.ofList [(origin, defaultPocket)])), .call .awaitIdle] :=
  .bind (setOrigin_follows _ _ _) fun _ => .perform _

theorem hook_follows (h : Hook) : Follows answer unit (h unit) [.hook h] :=
  .stage fun _ => rfl

end

variable (machine : String) (settings : SeriesSettings) (hooks : List Hook)

theorem upgradeMachine_follows :
    Follows answer unit (upgradeMachine unit machine settings hooks)
      (procedure unit machine settings hooks) := by
  apply Follows.of_eq
  case h =>
    exact
      .bind (.note _ _)                                     fun _ =>
      .bind (runLogged_follows _)                           fun _ =>
      .bind distUpgrade_follows                             fun _ =>
      .bind (.perform _)                                    fun _ =>
      .bind (.perform (.prepareSeries ..))                  fun _ =>
      .bind (.perform _)                                    fun _ =>
      .bind (.perform _)                                    fun _ =>
      .bind (preparedReleaseUpgrade_follows _)              fun _ =>
      .bind reboot_follows                                  fun _ =>
      .bind (.perform _)                                    fun _ =>
      .bind (.perform _)                                    fun _ =>
      .bind (.optionForM fun _ => newOrigin_follows _ _)    fun _ =>
      .bind (.perform (.completeSeries _))                  fun _ =>
      .bind (.perform _)                                    fun _ =>
      .bind (.forM fun h _ => hook_follows h)               fun _ =>
      .bind (.perform _)                                    fun _ =>
      .bind (.perform _)                                    fun _ =>
      .bind (.perform (.setSeries ..))                      fun _ =>
      .note _ _
  case e =>
    simp [procedure, groundwork, outage, aftermath, List.map_eq_flatMap]

theorem upgradeMachine_walks (s : σ) :
    let run := (upgradeMachine unit machine settings hooks).run answer s
    let walk := walk answer unit (procedure unit machine settings hooks) s
    run.result = walk.result ∧ run.calls = walk.calls ∧ run.warnings = walk.warnings := by
  have h := Follows.iff_tracks.mp (upgradeMachine_follows answer unit machine settings hooks)
  dsimp only
  rw [walk_eq_inTurn]
  exact ⟨h.result s, h.requests s, h.warnings s⟩

-- If every stage succeeds then all of them are performed. Otherwise the upgrade ends with the error
-- of the first stage that fails, and all stages up to this one are performed, and no others. The
-- warnings are those of the stages performed: a stage logs one if its failure is tolerated.
theorem upgradeMachine_performs_procedure (s : σ) :
    let run := (upgradeMachine unit machine settings hooks).run answer s
    let stages := stageRuns answer unit (procedure unit machine settings hooks) s
    ((∀ r ∈ stages, r.result = .ok ()) →
      run.result = .ok () ∧
      run.calls = stages.flatMap Run.calls ∧
      run.warnings = stages.flatMap Run.warnings) ∧
    ∀ k r e, (∀ r ∈ stages.take k, r.result = .ok ()) → stages[k]? = some r → r.result = .error e →
      run.result = .error e ∧
      run.calls = (stages.take (k + 1)).flatMap Run.calls ∧
      run.warnings = (stages.take (k + 1)).flatMap Run.warnings := by
  have ⟨result, calls, warnings⟩ := upgradeMachine_walks answer unit machine settings hooks s
  dsimp only
  rw [result, calls, warnings]
  exact ⟨walk_of_no_failure, fun _ _ _ => walk_of_first_failure⟩

end RollingUpgrade.Series
