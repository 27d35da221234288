import RollingUpgrade.Client.Scripted

namespace RollingUpgrade

structure Recorder where
  model : ScriptedModel
  -- The calls since the start or the last clearing, in order, failed ones included.
  calls : List Call

namespace Recorder

def ofModel (m : ScriptedModel) : Recorder := ⟨m, []⟩

def clear (r : Recorder) : Recorder := { r with calls := [] }

def record (c : Call) : StateM Recorder Unit :=
  modify fun r => { r with calls := r.calls ++ [c] }

-- Takes a call without any further effect.
def accept (c : Call) : StateM Recorder (Except Error Unit) := do
  record c
  return .ok ()

def status : StateM Recorder (Except Error Snapshot) := do
  record .status
  return .ok (← get).model.snapshot

def config (application : String) : StateM Recorder (Except Error ApplicationConfig) := do
  record (.config application)
  return .ok ((← get).model.configOf application)

def runOnUnit (unit command : String) : StateM Recorder (Except Error CommandResult) := do
  record (.run unit command)
  return .ok ((← get).model.resultOf unit command)

def runAction (unit action : String) (params : NameMap String) :
    StateM Recorder (Except Error ActionResult) := do
  record (.action unit action params)
  return .ok ((← get).model.outcomeOf action)

def ssh (unit : String) (args : List String) : StateM Recorder (Except Error Unit) := do
  record (.ssh unit args)
  return (← get).model.sshOutcome unit args

def handle : (c : Call) → StateM Recorder (Except Error c.Result)
  | .status                         => status
  | .config application             => config application
  | .setConfig application settings => accept (.setConfig application settings)
  | .run unit command               => runOnUnit unit command
  | .action unit action params      => runAction unit action params
  | .copy unit source destination   => accept (.copy unit source destination)
  | .ssh unit args                  => ssh unit args
  | .prepareSeries machine series   => accept (.prepareSeries machine series)
  | .completeSeries machine         => accept (.completeSeries machine)
  | .setSeries application series   => accept (.setSeries application series)
  | .awaitIdle                      => accept .awaitIdle
  | .awaitWorkload unit status      => accept (.awaitWorkload unit status)

-- Handles calls of which those that `faults` names by their places, counted from zero, are recorded
-- and then fail.
def handleFaulty (faults : List (Nat × Error)) (c : Call) :
    StateM (Recorder × Nat) (Except Error c.Result) := fun (r, place) =>
  let (reply, r) := (handle c).run r
  ((faults.lookup place).elim reply .error, r, place + 1)

def run {α : Type} (r : Recorder) (faults : List (Nat × Error)) (p : Program Client α) :
    Run Client (Recorder × Nat) α :=
  p.run (handleFaulty faults) (r, 0)

def commands (r : Recorder) : List (String × String) :=
  r.calls.filterMap fun
    | .run unit command => some (unit, command)
    | _ => none

def configLookups (r : Recorder) : List String :=
  r.calls.filterMap fun
    | .config application => some application
    | _ => none

end Recorder

namespace ScriptedModel

def answer (m : ScriptedModel) (c : Call) : Except Error c.Result :=
  ((Recorder.handle c).run (.ofModel m)).1

def run {α : Type} (m : ScriptedModel) (faults : List (Nat × Error)) (p : Program Client α) :
    Run Client (Recorder × Nat) α :=
  (Recorder.ofModel m).run faults p

end ScriptedModel
end RollingUpgrade
