import RollingUpgrade.Client.Call

namespace RollingUpgrade

-- What a scripted model answers. Commands without a script succeed silently, actions without one
-- complete, and applications without one have no options.
structure ScriptedModel where
  name : Option String
  snapshot : Snapshot
  configs : NameMap ApplicationConfig
  unitResults : NameMap (NameMap CommandResult)
  commandResults : NameMap CommandResult
  actionResults : NameMap ActionResult
  failingSsh : List String

namespace ScriptedModel

def empty : ScriptedModel := ⟨none, ⟨.empty⟩, .empty, .empty, .empty, .empty, []⟩

instance : Inhabited ScriptedModel := ⟨empty⟩

def withName (m : ScriptedModel) (name : String) : ScriptedModel := { m with name := some name }

def withSnapshot (m : ScriptedModel) (s : Snapshot) : ScriptedModel := { m with snapshot := s }

def configOf (m : ScriptedModel) (application : String) : ApplicationConfig :=
  (m.configs.find? application).getD .empty

def withConfig (m : ScriptedModel) (application : String) (options : List (String × JsonValue)) :
    ScriptedModel :=
  let config := options.foldl (fun c o => c.insert o.1 o.2) (m.configOf application)
  { m with configs := m.configs.insert application config }

def withRunResult (m : ScriptedModel) (unit command : String) (r : CommandResult) :
    ScriptedModel :=
  let results := ((m.unitResults.find? unit).getD .empty).insert command r
  { m with unitResults := m.unitResults.insert unit results }

def withCommandResult (m : ScriptedModel) (command : String) (r : CommandResult) : ScriptedModel :=
  { m with commandResults := m.commandResults.insert command r }

def withActionResult (m : ScriptedModel) (action : String) (r : ActionResult) : ScriptedModel :=
  { m with actionResults := m.actionResults.insert action r }

-- Makes every command that is sent to a unit by secure shell fail.
def withFailingSsh (m : ScriptedModel) (unit : String) : ScriptedModel :=
  { m with failingSsh := unit :: m.failingSsh }

def unitResult? (m : ScriptedModel) (unit command : String) : Option CommandResult :=
  (m.unitResults.find? unit).bind (·.find? command)

def resultOf (m : ScriptedModel) (unit command : String) : CommandResult :=
  ((m.unitResult? unit command).or (m.commandResults.find? command)).getD (.ofExit 0 "" "")

def outcomeOf (m : ScriptedModel) (action : String) : ActionResult :=
  (m.actionResults.find? action).getD .completed

def sshOutcome (m : ScriptedModel) (unit : String) (args : List String) : Except Error Unit :=
  if unit ∈ m.failingSsh then
    .error (.commandFailed unit (" ".intercalate args) 255 "Connection to host closed")
  else .ok ()

theorem configOf_withConfig_of_ne (m : ScriptedModel) {a b : String}
    (options : List (String × JsonValue)) (h : b ≠ a) :
    (m.withConfig a options).configOf b = m.configOf b := by
  simp [configOf, withConfig, h]

theorem configOf_withConfig (m : ScriptedModel) (a : String)
    (options : List (String × JsonValue)) :
    (m.withConfig a options).configOf a =
      options.foldl (fun c o => c.insert o.1 o.2) (m.configOf a) := by
  simp [configOf, withConfig]

theorem unitResult?_withRunResult (m : ScriptedModel) (unit command : String) (r : CommandResult)
    (u c : String) : (m.withRunResult unit command r).unitResult? u c =
      if u = unit ∧ c = command then some r else m.unitResult? u c := by
  by_cases hu : u = unit
  · subst hu
    by_cases hc : c = command <;> cases h : m.unitResults.find? u <;>
      simp [unitResult?, withRunResult, hc, h]
  · simp [unitResult?, withRunResult, hu]

theorem resultOf_withRunResult (m : ScriptedModel) (unit command : String) (r : CommandResult) :
    (m.withRunResult unit command r).resultOf unit command = r := by
  simp [resultOf, unitResult?_withRunResult]

end ScriptedModel
end RollingUpgrade
