import RollingUpgrade.Model.Outcome
import RollingUpgrade.Model.PlacedUnit
import RollingUpgrade.Program

namespace RollingUpgrade

-- A call to the orchestration tool of one model.
inductive Call
  | status
  | config (application : String)
  | setConfig (application : String) (settings : NameMap String)
  | run (unit command : String)
  | action (unit action : String) (params : NameMap String)
  | copy (unit source destination : String)
  | ssh (unit : String) (args : List String)
  | prepareSeries (machine series : String)
  | completeSeries (machine : String)
  | setSeries (application series : String)
  | awaitIdle
  | awaitWorkload (unit status : String)
  deriving DecidableEq

abbrev Call.Result : Call → Type
  | .status => Snapshot
  | .config _ => ApplicationConfig
  | .run .. => CommandResult
  | .action .. => ActionResult
  | _ => Unit

-- The tool as programs see it: every call may fail.
abbrev Client : Interface := ⟨Call, fun c => Except Error c.Result⟩

def Run.calls {σ α : Type} (r : Run Client σ α) : List Call := r.requests

namespace Call

def perform (c : Call) : Program Client c.Result := .ask (I := Client) c .ofExcept

-- Makes a call and gives its failure as a value.
def attempt (c : Call) : Program Client (Except Error c.Result) := .ask (I := Client) c .done

end Call

namespace Client

def units (application : String) : Program Client (List PlacedUnit) := do
  let snapshot ← Call.status.perform
  match PlacedUnit.ofApplication? snapshot application with
  | some units => return units
  | none => .fail (.client s!"application {application} not found")

-- Runs a command on a unit and gives what it printed; a command that fails, fails.
def output (unit command : String) : Program Client String := do
  let result ← (Call.run unit command).perform
  if result.success then return result.stdout
  else .fail (.commandFailed unit command result.exitCode result.stderr)

end Client
end RollingUpgrade
