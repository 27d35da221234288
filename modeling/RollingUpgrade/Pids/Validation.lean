import RollingUpgrade.Error
import RollingUpgrade.Pids.Expectation

namespace RollingUpgrade

namespace PidExpectation

def check (unit : String) (found : NameMap (List String)) (process : String)
    (expected : PidExpectation) : Except Error Unit :=
  match found.find? process with
  | none => .error (.processNameMismatch unit process)
  | some pids =>
    if expected.accepts pids.length then .ok ()
    else .error (.pidCountMismatch unit process expected.describe pids.length)

end PidExpectation

namespace ExpectedPids

def countUnits (expected : ExpectedPids) (found : FoundPids) : Except Error Unit :=
  if expected.size ≠ found.size then .error (.unitCountMismatch expected.size found.size)
  else .ok ()

-- The processes found on a unit, of which there have to be as many as expected.
def processesOf (found : FoundPids) (unit : String) (expected : NameMap PidExpectation) :
    Except Error (NameMap (List String)) :=
  match found.find? unit with
  | none => .error (.unitNotFound unit)
  | some processes =>
    if expected.size ≠ processes.size then
      .error (.processNameCountMismatch unit expected.size processes.size)
    else .ok processes

def checkUnit (found : FoundPids) (unit : String) (expected : NameMap PidExpectation) :
    Except Error Unit := do
  let processes ← processesOf found unit expected
  expected.toList.forM fun (process, e) => e.check unit processes process

def validate (expected : ExpectedPids) (found : FoundPids) : Except Error Unit := do
  countUnits expected found
  expected.toList.forM fun (unit, processes) => checkUnit found unit processes

end ExpectedPids
end RollingUpgrade
