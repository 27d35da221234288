import RollingUpgrade.Client.Call
import RollingUpgrade.Log.Target
import RollingUpgrade.Pids.Validation

namespace RollingUpgrade.Pids

-- The command that lists the processes of a name. Where none are expected its exit code is
-- turned round, so that finding none is a success.
def command (process : String) (expectSuccess : Bool) : String :=
  "pidof -x \"" ++ process ++ "\"" ++ if expectSuccess then "" else " || exit 0 && exit 1"

def find (unit process : String) (expectSuccess : Bool) : Program Client (List String) := do
  let command := command process expectSuccess
  let result ← (Call.run unit command).perform
  if !result.success then
    .fail (.processIdsFailed unit command result.exitCode result.stderr)
  let pids := Text.words result.stdout
  Program.emit .debug Log.Target.discovery "pidof"
    [("unit", .quoted unit), ("process", .quoted process), ("pids", .names pids)]
  return pids

def findAll (expected : ExpectedPids) (expectSuccess : Bool) : Program Client FoundPids := do
  let units ← expected.toList.mapM fun (unit, processes) => do
    let found ← processes.keys.mapM fun process => do
      return (process, ← find unit process expectSuccess)
    return (unit, NameMap.ofList found)
  return .ofList units

end RollingUpgrade.Pids
