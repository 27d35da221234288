import Mathlib.Data.List.Forall2
import RollingUpgrade.Proofs.Path
import RollingUpgrade.Proofs.Series.Opening

namespace RollingUpgrade.Series

-- A failure that ends the upgrade: any but that of the command that is sent by secure shell.
structure Fatal (reply : Except Error Unit) (e : Error) : Prop where
  failed : reply = .error e
  other : ∀ unit command code stderr, e ≠ .commandFailed unit command code stderr

variable {σ : Type} (answer : Client.Handler σ) (unit : String) (settings : SeriesSettings)

-- The call copies the file to the unit under its own name.
inductive CopyOf (file : String) : Call → Prop
  | intro {name : String} : Path.EndsIn file.toList name.toList → CopyOf file (.copy unit file name)

-- The calls by which files are copied, all with success, and the state in which they leave the
-- client.
inductive Copied : List String → σ → List Call → σ → Prop
  | nil {s : σ} : Copied [] s [] s
  | cons {file name : String} {files : List String} {s t : σ} {calls : List Call} :
    Path.EndsIn file.toList name.toList → (answer (.copy unit file name) s).1 = .ok () →
    Copied files (answer (.copy unit file name) s).2 calls t →
    Copied (file :: files) s (.copy unit file name :: calls) t

abbrev scriptCall (script : String) : Call := .ssh unit ["sudo " ++ script]

def scriptCalls : List Call := settings.workaroundScript.toList.map (scriptCall unit)

abbrev upgradeCall : Call := .ssh unit releaseUpgradeArgs

-- The state in which the workaround script leaves the client.
def afterScript (t : σ) : σ :=
  (scriptCalls unit settings).foldl (fun t c => (answer c t).2) t

-- What an upgrade does with its files, and when it goes on to its commands.
structure CopiesFirst (s : σ) (run : Run Client σ Unit) : Prop where
  -- The calls are copies of files in the order of the list, and commands only after the last file.
  order : ∃ copied copies commands, run.calls = copies ++ commands ∧
    copied <+: settings.files ∧ List.Forall₂ (CopyOf unit) copied copies ∧
    commands <+: scriptCalls unit settings ++ [upgradeCall unit] ∧
    (commands ≠ [] → copied = settings.files)
  nameless : ∀ done file later copies t, settings.files = done ++ file :: later →
    Copied answer unit done s copies t → (∀ name, ¬Path.EndsIn file.toList name) →
    StopsAfter copies (.invalidArgument ("not a file path: " ++ file)) run
  refused : ∀ done file name later copies t e, settings.files = done ++ file :: later →
    Copied answer unit done s copies t → Path.EndsIn file.toList name.toList →
    (answer (.copy unit file name) t).1 = .error e →
    StopsAfter (copies ++ [.copy unit file name]) e run
  halted : ∀ copies t script e, Copied answer unit settings.files s copies t →
    settings.workaroundScript = some script →
    Fatal (answer (scriptCall unit script) t).1 e →
    StopsAfter (copies ++ scriptCalls unit settings) e run
  finished : ∀ copies t, Copied answer unit settings.files s copies t →
    (∀ script ∈ settings.workaroundScript, ∀ e,
      ¬Fatal (answer (scriptCall unit script) t).1 e) →
    run.calls = copies ++ scriptCalls unit settings ++ [upgradeCall unit] ∧
    ∀ e, run.result = .error e ↔
      Fatal (answer (upgradeCall unit) (afterScript answer unit settings t)).1 e
  upgraded : upgradeCall unit ∈ run.calls → ∃ copies t,
    Copied answer unit settings.files s copies t ∧
    run.calls = copies ++ scriptCalls unit settings ++ [upgradeCall unit]

section

variable {answer unit settings} {s t : σ} {file name : String} {files : List String}
  {copies : List Call}

theorem copyFile_of_endsIn (h : Path.EndsIn file.toList name.toList) :
    copyFile unit file = (Call.copy unit file name).perform := by
  rw [copyFile, Path.fileName?_eq_some_iff.mpr h]

theorem copyFile_of_nameless (h : ∀ name, ¬Path.EndsIn file.toList name) :
    copyFile unit file = .fail (.invalidArgument ("not a file path: " ++ file)) := by
  rw [copyFile, Path.fileName?_eq_none_iff.mpr h]

-- After files that were copied the run goes on with the others.
theorem Copied.goes_on (h : Copied answer unit files s copies t) (others : List String) :
    let run := ((files ++ others).forM (copyFile unit)).run answer s
    let rest := (others.forM (copyFile unit)).run answer t
    run.result = rest.result ∧ run.calls = copies ++ rest.calls ∧ run.state = rest.state := by
  induction h
  case nil => exact ⟨rfl, rfl, rfl⟩
  case cons file name files s t copies ends replied _ hi =>
    have ⟨result, calls, state⟩ := hi
    have copied : ((Call.copy unit file name).perform.run answer s).result = .ok () :=
      (Call.result_perform ..).trans replied
    rw [List.cons_append, Program.forM_cons, copyFile_of_endsIn ends, Program.run_bind]
    refine ⟨?result, ?calls, ?state⟩
    case result => rw [Run.andThen_ok copied, Call.run_perform]; exact result
    case calls  =>
      rw [Run.calls_andThen_ok copied, Call.run_perform]
      exact congrArg (Call.copy unit file name :: ·) calls
    case state  => rw [Run.andThen_ok copied, Call.run_perform]; exact state

theorem StopsAfter.andThen {α β : Type} {r : Run Client σ α} {next : α → σ → Run Client σ β}
    {calls : List Call} {e : Error} (h : StopsAfter calls e r) :
    StopsAfter calls e (r.andThen next) :=
  h.calls ▸ .of_error h.result

theorem Copied.stops {e : Error} {calls : List Call} (later : List String)
    (h : Copied answer unit files s copies t)
    (stops : StopsAfter calls e ((copyFile unit file).run answer t)) :
    StopsAfter (copies ++ calls) e
      (((files ++ file :: later).forM (copyFile unit)).run answer s) := by
  have ⟨result, goes_on, _⟩ := h.goes_on (file :: later)
  have first : StopsAfter calls e (((file :: later).forM (copyFile unit)).run answer t) := by
    rw [Program.forM_cons, Program.run_bind, ← stops.calls]
    exact .of_error stops.result
  exact ⟨result.trans first.result, by rw [goes_on, first.calls]⟩

-- The run after the last file.
theorem Copied.ends (h : Copied answer unit files s copies t) :
    let run := (files.forM (copyFile unit)).run answer s
    run.result = .ok () ∧ run.calls = copies ∧ run.state = t := by
  have ⟨result, calls, state⟩ := h.goes_on []
  rw [List.append_nil] at result calls state
  exact ⟨result, calls.trans (List.append_nil _), state⟩

theorem Copied.forall₂ (h : Copied answer unit files s copies t) :
    List.Forall₂ (CopyOf unit) files copies := by
  induction h
  case nil              => exact .nil
  case cons ends _ _ hi => exact .cons (.intro ends) hi

theorem upgrade_notMem_copies {calls : List Call} (h : List.Forall₂ (CopyOf unit) files calls) :
    upgradeCall unit ∉ calls := by
  induction h
  case nil => exact List.not_mem_nil
  case cons copy _ hi =>
    cases copy
    simpa using hi

-- The files are copied in order, as far as the run comes.
theorem copies_in_order (answer : Client.Handler σ) (unit : String) (files : List String) (s : σ) :
    let run := (files.forM (copyFile unit)).run answer s
    (∃ copied, copied <+: files ∧ List.Forall₂ (CopyOf unit) copied run.calls) ∧
    (run.result = .ok () → Copied answer unit files s run.calls run.state) := by
  induction files generalizing s
  case nil => exact ⟨⟨[], List.nil_prefix, .nil⟩, fun _ => .nil⟩
  case cons file files hi =>
    rw [Program.forM_cons, Program.run_bind]
    cases h : Path.fileName? file
    case none =>
      rw [copyFile_of_nameless (Path.fileName?_eq_none_iff.mp h)]
      exact ⟨⟨[], List.nil_prefix, .nil⟩, nofun⟩
    case some name =>
      have ends := Path.fileName?_eq_some_iff.mp h
      rw [copyFile_of_endsIn ends, Call.run_perform]
      cases reply : (answer (.copy unit file name) s).1
      case error e =>
        refine ⟨⟨[file], ?_, .cons (.intro ends) .nil⟩, nofun⟩
        exact List.cons_prefix_cons.mpr ⟨rfl, List.nil_prefix⟩
      case ok =>
        have ⟨⟨copied, start, copies⟩, all⟩ := hi (answer (.copy unit file name) s).2
        refine ⟨⟨file :: copied, ?_, .cons (.intro ends) copies⟩, fun ok => ?_⟩
        · exact List.cons_prefix_cons.mpr ⟨rfl, start⟩
        · exact .cons ends reply (all ok)

theorem ofShell_eq_fatal_iff {reply : Except Error Unit} {e : Error} :
    Verdict.ofShell unit reply = .fatal e ↔ Fatal reply e := by
  have fatal : Fatal reply e ↔
      reply = .error e ∧ ∀ unit command code stderr, e ≠ .commandFailed unit command code stderr :=
    ⟨fun h => ⟨h.failed, h.other⟩, fun h => ⟨h.left, h.right⟩⟩
  rw [fatal]
  cases reply
  case ok => simp [Verdict.ofShell]
  case error failure =>
    -- An error that is handed on is not one of a command.
    cases failure <;> simp [Verdict.ofShell]
    all_goals
      intro same
      simp [← same]

theorem result_issue {c : Call} {judge : Except Error c.Result → Verdict} {e : Error} :
    (issue answer c judge s).result = .error e ↔ judge (answer c s).1 = .fatal e := by
  rw [issue]
  cases judge (answer c s).1 <;> simp

theorem state_issue {c : Call} {judge : Except Error c.Result → Verdict} :
    (issue answer c judge s).state = (answer c s).2 := by
  rw [issue]
  cases judge (answer c s).1 <;> rfl

-- What a command that is sent by secure shell does.
theorem sshLogged_asks (answer : Client.Handler σ) (unit : String) (args : List String) (s : σ) :
    let run := (sshLogged unit args).run answer s
    run.calls = [.ssh unit args] ∧ run.state = (answer (.ssh unit args) s).2 ∧
    ∀ e, run.result = .error e ↔ Fatal (answer (.ssh unit args) s).1 e := by
  have tracks : (sshLogged unit args).Tracks answer
      [issue answer (.ssh unit args) (Verdict.ofShell unit)] :=
    Follows.iff_tracks.mp (sshLogged_follows args)
  have result := tracks.result s
  have state := tracks.state s
  have calls : ((sshLogged unit args).run answer s).calls = _ := tracks.requests s
  rw [Run.inTurn_singleton] at result state calls
  refine ⟨calls.trans (Stage.calls_issue _ _), state.trans state_issue, fun e => ?_⟩
  rw [result, result_issue, ofShell_eq_fatal_iff]

-- What is left to do when all files are copied.
def afterCopies (unit : String) (settings : SeriesSettings) : Program Client Unit := do
  settings.workaroundScript.forM (runAsRoot unit)
  releaseUpgrade unit

theorem preparedReleaseUpgrade_eq : preparedReleaseUpgrade unit settings =
    settings.files.forM (copyFile unit) >>= fun _ => afterCopies unit settings :=
  rfl

theorem releaseUpgrade_asks (answer : Client.Handler σ) (unit : String) (t : σ) :
    let run := (releaseUpgrade unit).run answer t
    run.calls = [upgradeCall unit] ∧
    ∀ e, run.result = .error e ↔ Fatal (answer (upgradeCall unit) t).1 e := by
  have ⟨calls, _, result⟩ := sshLogged_asks answer unit releaseUpgradeArgs t
  exact ⟨calls, result⟩

theorem runAsRoot_asks (answer : Client.Handler σ) (unit script : String) (t : σ) :
    let run := (runAsRoot unit script).run answer t
    run.calls = [scriptCall unit script] ∧ run.state = (answer (scriptCall unit script) t).2 ∧
    ∀ e, run.result = .error e ↔ Fatal (answer (scriptCall unit script) t).1 e :=
  sshLogged_asks answer unit ["sudo " ++ script] t

theorem afterCopies_of_fatal {script : String} {e : Error}
    (h : settings.workaroundScript = some script)
    (fatal : Fatal (answer (scriptCall unit script) t).1 e) :
    StopsAfter (scriptCalls unit settings) e ((afterCopies unit settings).run answer t) := by
  have ⟨calls, _, result⟩ := runAsRoot_asks answer unit script t
  have same : scriptCalls unit settings = [scriptCall unit script] := by simp [scriptCalls, h]
  rw [afterCopies, h, Program.run_bind, same, ← calls]
  exact .of_error ((result e).mpr fatal)

theorem afterCopies_of_not_fatal (tolerated : ∀ script ∈ settings.workaroundScript, ∀ e,
      ¬Fatal (answer (scriptCall unit script) t).1 e) :
    let run := (afterCopies unit settings).run answer t
    run.calls = scriptCalls unit settings ++ [upgradeCall unit] ∧
    ∀ e, run.result = .error e ↔
      Fatal (answer (upgradeCall unit) (afterScript answer unit settings t)).1 e := by
  rw [afterCopies, afterScript, scriptCalls]
  cases h : settings.workaroundScript
  case none => exact releaseUpgrade_asks answer unit t
  case some script =>
    have ⟨calls, state, result⟩ := runAsRoot_asks answer unit script t
    have passed : ((runAsRoot unit script).run answer t).result = .ok () := by
      cases ended : ((runAsRoot unit script).run answer t).result
      case ok      => rfl
      case error e => exact absurd ((result e).mp ended) (tolerated script h e)
    have ⟨calls', result'⟩ := releaseUpgrade_asks answer unit
      ((runAsRoot unit script).run answer t).state
    rw [Program.run_bind, Option.forM]
    constructor
    · rw [Run.calls_andThen_ok passed, calls, calls']
      rfl
    · rw [Run.andThen_ok passed]
      exact state ▸ result'

-- The workaround script either ends the upgrade or does not.
theorem fatal_or_tolerated (answer : Client.Handler σ) (unit : String) (settings : SeriesSettings)
    (t : σ) :
    (∃ script e, settings.workaroundScript = some script ∧
      Fatal (answer (scriptCall unit script) t).1 e) ∨
    ∀ script ∈ settings.workaroundScript, ∀ e, ¬Fatal (answer (scriptCall unit script) t).1 e := by
  cases Classical.em (∃ script e, settings.workaroundScript = some script ∧
    Fatal (answer (scriptCall unit script) t).1 e)
  case inl h => exact .inl h
  case inr h => exact .inr fun script given e fatal => h ⟨script, e, given, fatal⟩

theorem afterCopies_in_order (answer : Client.Handler σ) (unit : String)
    (settings : SeriesSettings) (t : σ) :
    let run := (afterCopies unit settings).run answer t
    run.calls <+: scriptCalls unit settings ++ [upgradeCall unit] ∧
    (upgradeCall unit ∈ run.calls →
      run.calls = scriptCalls unit settings ++ [upgradeCall unit]) := by
  cases fatal_or_tolerated answer unit settings t
  case inl h =>
    obtain ⟨script, e, given, fatal⟩ := h
    have stops := afterCopies_of_fatal given fatal
    refine ⟨stops.calls ▸ List.prefix_append _ _, fun h => ?_⟩
    rw [stops.calls] at h
    simp [scriptCalls, scriptCall, upgradeCall, releaseUpgradeArgs] at h
  case inr h =>
    have calls := (afterCopies_of_not_fatal h).left
    exact ⟨calls ▸ List.prefix_rfl, fun _ => calls⟩

-- A file that stops the copies stops the upgrade.
theorem Copied.stops_upgrade {e : Error} {later : List String} {calls : List Call}
    (h : Copied answer unit files s copies t) (split : settings.files = files ++ file :: later)
    (stops : StopsAfter calls e ((copyFile unit file).run answer t)) :
    StopsAfter (copies ++ calls) e ((preparedReleaseUpgrade unit settings).run answer s) := by
  rw [preparedReleaseUpgrade_eq, Program.run_bind, split]
  exact (h.stops later stops).andThen

theorem Copied.upgrade_goes_on (h : Copied answer unit settings.files s copies t) :
    let run := (preparedReleaseUpgrade unit settings).run answer s
    let rest := (afterCopies unit settings).run answer t
    run.result = rest.result ∧ run.calls = copies ++ rest.calls := by
  have ⟨passed, calls, state⟩ := h.ends
  rw [preparedReleaseUpgrade_eq, Program.run_bind]
  exact ⟨by rw [Run.andThen_ok passed, state], by rw [Run.calls_andThen_ok passed, calls, state]⟩

-- Either all files are copied, or some of them are and nothing else is done.
theorem all_or_some_copied (answer : Client.Handler σ) (unit : String) (settings : SeriesSettings)
    (s : σ) :
    (∃ copies t, Copied answer unit settings.files s copies t) ∨
    ∃ copied, copied <+: settings.files ∧ List.Forall₂ (CopyOf unit) copied
      ((preparedReleaseUpgrade unit settings).run answer s).calls := by
  have ⟨part, all⟩ := copies_in_order answer unit settings.files s
  rw [preparedReleaseUpgrade_eq, Program.run_bind]
  cases h : ((settings.files.forM (copyFile unit)).run answer s).result
  case ok      => exact .inl ⟨_, _, all h⟩
  case error e => exact .inr (Run.calls_andThen_error h ▸ part)

-- Files are copied strictly in the order of the list, each under its own name, and no command is
-- sent before the last copy. The first file without a name, and the first copy that fails, end the
-- upgrade. Once all files are copied the workaround script is run if there is one, and then the
-- release is upgraded, even if the script exits with a failure.
theorem preparedReleaseUpgrade_copies_first (answer : Client.Handler σ) (unit : String)
    (settings : SeriesSettings) (s : σ) :
    CopiesFirst answer unit settings s ((preparedReleaseUpgrade unit settings).run answer s) := by
  have after := afterCopies_in_order answer unit settings
  constructor
  case order =>
    cases all_or_some_copied answer unit settings s
    case inl all =>
      have ⟨copies, t, copied⟩ := all
      exact ⟨_, copies, _, copied.upgrade_goes_on.right, List.prefix_rfl, copied.forall₂,
        (after t).left, fun _ => rfl⟩
    case inr part =>
      have ⟨copied, start, copies⟩ := part
      exact ⟨copied, _, [], (List.append_nil _).symm, start, copies, List.nil_prefix,
        fun h => absurd rfl h⟩
  case nameless =>
    intro done file later copies t split copied nameless
    rw [← List.append_nil copies]
    refine copied.stops_upgrade split ?_
    rw [copyFile_of_nameless nameless]
    exact ⟨rfl, rfl⟩
  case refused =>
    intro done file name later copies t e split copied ends refused
    refine copied.stops_upgrade split ?_
    rw [copyFile_of_endsIn ends, Call.run_perform]
    exact ⟨refused, rfl⟩
  case halted =>
    intro copies t script e copied given fatal
    have ⟨result, calls⟩ := copied.upgrade_goes_on
    have stops := afterCopies_of_fatal given fatal
    exact ⟨result.trans stops.result, by rw [calls, stops.calls]⟩
  case finished =>
    intro copies t copied tolerated
    have ⟨result, calls⟩ := copied.upgrade_goes_on
    have ⟨calls', result'⟩ := afterCopies_of_not_fatal tolerated
    exact ⟨by rw [calls, calls', List.append_assoc], fun e => result ▸ result' e⟩
  case upgraded =>
    intro upgrade
    cases all_or_some_copied answer unit settings s
    case inl all =>
      have ⟨copies, t, copied⟩ := all
      have ⟨_, calls⟩ := copied.upgrade_goes_on
      have fresh : upgradeCall unit ∉ copies := upgrade_notMem_copies copied.forall₂
      rw [calls] at upgrade ⊢
      have sent := (List.mem_append.mp upgrade).resolve_left fresh
      rw [(after t).right sent, ← List.append_assoc]
      exact ⟨copies, t, copied, rfl⟩
    case inr part =>
      have ⟨_, _, copies⟩ := part
      exact absurd upgrade (upgrade_notMem_copies copies)

-- Points behind a name do not matter, but a path may not lead upwards.
theorem preparedReleaseUpgrade_copies_first_upwards :
    let settings := SeriesSettings.default.withFiles ["/tmp/file", "hooks//script/.", "/tmp/.."]
    StopsAfter [.copy "app/2" "/tmp/file" "file", .copy "app/2" "hooks//script/." "script"]
      (.invalidArgument "not a file path: /tmp/..")
      ((preparedReleaseUpgrade "app/2" settings).run ScriptedModel.empty.handler ()) := by
  intro settings
  have first := preparedReleaseUpgrade_copies_first ScriptedModel.empty.handler "app/2" settings ()
  exact first.nameless ["/tmp/file", "hooks//script/."] "/tmp/.." [] _ () rfl
    (.cons (Path.fileName?_eq_some_iff.mp (by decide)) rfl
      (.cons (Path.fileName?_eq_some_iff.mp (by decide)) rfl .nil))
    (Path.fileName?_eq_none_iff.mp (by decide))

end
end RollingUpgrade.Series
