import RollingUpgrade.Client.Call
import RollingUpgrade.Juju.Reply
import RollingUpgrade.Juju.Terminal
import RollingUpgrade.Log.Target
import RollingUpgrade.PollSettings

namespace RollingUpgrade

-- How the tool is used, and in which words its replies are refused.
structure Juju where
  binary : String
  model : Option String
  poll : PollSettings
  refusal : Juju.Refusal := Juju.wordless

namespace Juju

open Program

def default : Juju := { binary := "juju", model := none, poll := .default }

def ofModel (model : String) : Juju := { default with model := some model }

def arguments (j : Juju) (subcommand : String) (args : List String) : List String :=
  subcommand :: (j.model.elim [] fun m => ["-m", m]) ++ args

def start (j : Juju) (subcommand : String) (args : List String) : Program Terminal Exit := do
  let args := j.arguments subcommand args
  emit .trace Log.Target.client "running juju"
    [("binary", .shown j.binary), ("args", .names args)]
  match ← question (I := Terminal) (.start j.binary args) with
  | .ok exit => return exit
  | .error failure =>
    if failure.notFound then .fail (.client s!"{j.binary} binary not found: {failure.message}")
    else .fail (.client s!"{j.binary} {subcommand} failed: {failure.message}")

-- What a command printed; a command that fails, fails.
def printed (j : Juju) (subcommand : String) (args : List String) : Program Terminal String := do
  let exit ← j.start subcommand args
  if exit.success then return exit.output
  else
    let errors := Text.trim exit.errors
    .fail (.client s!"juju {subcommand} exited with code {exit.shownCode}: {errors}")

def command (j : Juju) (subcommand : String) (args : List String) : Program Terminal Unit := do
  let _ ← j.printed subcommand args

def look (j : Juju) : Program Terminal Snapshot := do
  ofExcept (snapshot j.refusal (← j.printed "status" ["--format=json"]))

def clock : Program Terminal Nat := question (I := Terminal) .clock

def pause (seconds : Nat) : Program Terminal Unit := question (I := Terminal) (.pause seconds)

def nanosPerSecond : Nat := 1000000000

-- How a wait goes on after a look: it ends if the look met what it waits for, or if the time is
-- over.
def afterLook (j : Juju) (what : String) (met : Bool) (elapsed : Nat)
    (next : Program Terminal Unit) : Program Terminal Unit :=
  if met then
    emit .debug Log.Target.client "wait satisfied"
      [("what", .quoted what), ("elapsed_ms", .number (elapsed / 1000000))]
  else if j.poll.timeoutSecs * nanosPerSecond ≤ elapsed then
    .fail (.timeout what j.poll.timeoutSecs)
  else next

def lookThen (j : Juju) (what : String) (done : Snapshot → Bool) (start : Nat)
    (next : Program Terminal Unit) : Program Terminal Unit := do
  let snapshot ← j.look
  let now ← clock
  j.afterLook what (done snapshot) (now - start) next

-- How far a wait is followed, for it may never end: for so many looks after the first one. A wait
-- that would look once more comes to an end of its own, which is none of the ends of a wait.
structure Horizon where
  looks : Nat
  beyond : Error

def waitFrom (j : Juju) (what : String) (done : Snapshot → Bool) (start : Nat) (beyond : Error) :
    Nat → Program Terminal Unit
  | 0 => j.lookThen what done start (.fail beyond)
  | again + 1 => j.lookThen what done start do
    pause j.poll.intervalSecs
    waitFrom j what done start beyond again

def wait (j : Juju) (horizon : Horizon) (what : String) (done : Snapshot → Bool) :
    Program Terminal Unit := do
  let start ← clock
  j.waitFrom what done start horizon.beyond horizon.looks

def assignments (settings : NameMap String) : List String :=
  settings.toList.map fun (key, value) => key ++ "=" ++ value

-- A command by secure shell, the only one whose failure is the failure of a command on a unit.
def ssh (j : Juju) (unit : String) (args : List String) : Program Terminal Unit := do
  let exit ← j.start "ssh" (unit :: args)
  if !exit.success then
    .fail (.commandFailed unit (" ".intercalate args) exit.shownCode (Text.trim exit.errors))

def perform (j : Juju) (horizon : Horizon) : (c : Call) → Program Terminal c.Result
  | .status => j.look
  | .config application => do
    ofExcept (config j.refusal (← j.printed "config" [application, "--format=json"]))
  | .setConfig application settings =>
    j.command "config" (application :: assignments settings)
  | .run unit command => do
    ofExcept (runResult j.refusal
      (← j.printed "run" ["--format=json", "--unit", unit, "--", command]))
  | .action unit action params => do
    ofExcept (actionResult j.refusal (← j.printed "run-action"
      (["--wait", "--format=json", unit, action] ++ assignments params)))
  | .copy unit source destination =>
    j.command "scp" [source, unit ++ ":" ++ destination]
  | .ssh unit args => j.ssh unit args
  | .prepareSeries machine series => do
    emit .info Log.Target.client "preparing series upgrade"
      [("machine", .quoted machine), ("to_series", .quoted series)]
    j.command "upgrade-series" [machine, "prepare", series, "--yes"]
  | .completeSeries machine => do
    emit .info Log.Target.client "completing series upgrade" [("machine", .quoted machine)]
    j.command "upgrade-series" [machine, "complete"]
  | .setSeries application series => j.command "set-series" [application, series]
  | .awaitIdle => j.wait horizon "all units idle" Snapshot.isIdle
  | .awaitWorkload unit status =>
    j.wait horizon s!"{unit} workload status {status}" fun s => s.workload? unit == some status

def runThrough {α : Type} (j : Juju) (horizon : Horizon) (p : Program Client α) :
    Program Terminal α :=
  p.through fun c => (j.perform horizon c).attempt

end Juju
end RollingUpgrade
