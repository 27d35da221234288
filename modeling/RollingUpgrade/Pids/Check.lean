import RollingUpgrade.Log.Target
import RollingUpgrade.Pids.Validation
import RollingUpgrade.Program

namespace RollingUpgrade

def PidExpectation.spelled : PidExpectation → String
  | .running b => s!"Running({b})"
  | .exact n => s!"Exact({n})"
  | .oneOf counts => "OneOf([" ++ ", ".intercalate (counts.map toString) ++ "])"

namespace NameMap

def spelled {α : Type} (value : α → String) (m : NameMap α) : String :=
  let entries := m.toList.map fun (name, a) => Text.quote name ++ ": " ++ value a
  "\x7b" ++ ", ".intercalate entries ++ "\x7d"

end NameMap

namespace ExpectedPids

variable {I : Interface} {σ : Type}

def tellProcess (unit : String) (found : NameMap (List String)) (process : String)
    (expected : PidExpectation) : Program I Unit := do
  .ofExcept (expected.check unit found process)
  Program.emit .debug Log.Target.validation "pid count ok"
    [("unit", .shown unit), ("process", .shown process),
      ("count", .number ((found.find? process).getD []).length)]

def tellUnit (found : FoundPids) (unit : String) (expected : NameMap PidExpectation) :
    Program I Unit := do
  let processes ← .ofExcept (processesOf found unit expected)
  expected.toList.forM fun (process, e) => tellProcess unit processes process e

-- Compares found processes with expected ones and logs on the way.
def check (expected : ExpectedPids) (found : FoundPids) : Program I Unit := do
  Program.emit .debug Log.Target.validation "validating unit process ids"
    [("expected", .shown (expected.spelled (NameMap.spelled PidExpectation.spelled))),
      ("actual", .shown (found.spelled (NameMap.spelled Text.quoteList)))]
  .ofExcept (countUnits expected found)
  expected.toList.forM fun (unit, processes) => tellUnit found unit processes

variable (answer : (r : I.Request) → σ → I.Reply r × σ) (s : σ)

theorem result_tellProcess (unit : String) (found : NameMap (List String)) (process : String)
    (expected : PidExpectation) :
    ((tellProcess unit found process expected).run answer s).result =
      expected.check unit found process := by
  unfold tellProcess
  cases expected.check unit found process <;> rfl

theorem result_tellUnit (found : FoundPids) (unit : String) (expected : NameMap PidExpectation) :
    ((tellUnit found unit expected).run answer s).result = checkUnit found unit expected := by
  unfold tellUnit checkUnit
  cases processesOf found unit expected with
  | error e => rfl
  | ok processes =>
    exact Program.result_run_forM answer (fun _ s => result_tellProcess answer s ..) _ s

theorem result_check (expected : ExpectedPids) (found : FoundPids) :
    ((check expected found).run answer s).result = expected.validate found := by
  unfold check validate
  cases countUnits expected found with
  | error e => rfl
  | ok _ => exact Program.result_run_forM answer (fun _ s => result_tellUnit answer s ..) _ s

end ExpectedPids
end RollingUpgrade
