import RollingUpgrade.Client.Recorder
import RollingUpgrade.Proofs.NameMap
import RollingUpgrade.Proofs.Run

namespace RollingUpgrade

-- One step of a script: something that the model has, or something that it replies.
inductive ScriptStep
  | named (name : String)
  | snapshot (s : Snapshot)
  | config (app : String) (options : List (String × JsonValue))
  | onUnit (unit command : String) (r : CommandResult)
  | onAny (command : String) (r : CommandResult)
  | action (name : String) (r : ActionResult)
  | failingSsh (unit : String)

namespace ScriptStep

def apply (m : ScriptedModel) : ScriptStep → ScriptedModel
  | named name            => m.withName name
  | snapshot s            => m.withSnapshot s
  | config app options    => m.withConfig app options
  | onUnit unit command r => m.withRunResult unit command r
  | onAny command r       => m.withCommandResult command r
  | action name r         => m.withActionResult name r
  | failingSsh unit       => m.withFailingSsh unit

-- The result that is scripted for a command on a unit.
def onUnit? (unit command : String) : ScriptStep → Option CommandResult
  | onUnit unit' command' r => if unit = unit' ∧ command = command' then some r else none
  | _                       => none

-- The result that is scripted for a command on any unit.
def onAny? (command : String) : ScriptStep → Option CommandResult
  | onAny command' r => if command = command' then some r else none
  | _                => none

-- The options that are scripted for an application.
def optionsOf (app : String) : ScriptStep → List (String × JsonValue)
  | config app' options => if app = app' then options else []
  | _                   => []

end ScriptStep

-- The value of an option, if it has this name.
def valueUnder (name : String) (option : String × JsonValue) : Option JsonValue :=
  if name = option.1 then some option.2 else none

namespace ScriptedModel

def ofScript (script : List ScriptStep) : ScriptedModel := script.foldl ScriptStep.apply empty

variable (m : ScriptedModel) (step : ScriptStep) (script : List ScriptStep)
variable (unit command app : String)

theorem unitResult?_apply : (step.apply m).unitResult? unit command =
    (step.onUnit? unit command).or (m.unitResult? unit command) := by
  cases step
  case onUnit =>
    rw [ScriptStep.apply, unitResult?_withRunResult, ScriptStep.onUnit?]
    split <;> rfl
  all_goals rfl

theorem commandResults_apply : (step.apply m).commandResults.find? command =
    (step.onAny? command).or (m.commandResults.find? command) := by
  cases step
  case onAny =>
    rw [ScriptStep.apply, withCommandResult, NameMap.find?_insert, ScriptStep.onAny?]
    split <;> rfl
  all_goals rfl

theorem configOf_apply : (step.apply m).configOf app =
    (step.optionsOf app).foldl (fun c o => c.insert o.1 o.2) (m.configOf app) := by
  cases step
  case config app' options =>
    rw [ScriptStep.apply, ScriptStep.optionsOf]
    by_cases h : app = app'
    case pos => rw [h, if_pos rfl, configOf_withConfig]
    case neg => rw [if_neg h, configOf_withConfig_of_ne _ _ h]; rfl
  all_goals rfl

-- A unit's own script goes before one for all units, whichever of them was there first.
theorem resultOf_ofScript : (ofScript script).resultOf unit command =
    ((script.filterMap (·.onUnit? unit command)).getLast?.or
      (script.filterMap (·.onAny? command)).getLast?).getD (.ofExit 0 "" "") := by
  have own := foldl_last_written (·.unitResult? unit command) (unitResult?_apply · · unit command)
    script empty
  have general := foldl_last_written (·.commandResults.find? command)
    (commandResults_apply · · command) script empty
  rw [resultOf, ofScript, own, general]
  simp [empty, unitResult?]

theorem configOf_foldl : (script.foldl ScriptStep.apply m).configOf app =
    (script.flatMap (·.optionsOf app)).foldl (fun c o => c.insert o.1 o.2) (m.configOf app) := by
  induction script generalizing m
  case nil => rfl
  case cons step script hi =>
    rw [List.foldl_cons, hi, configOf_apply, List.flatMap_cons, List.foldl_append]

theorem find?_insert_eq_or (c : ApplicationConfig) (option : String × JsonValue) (name : String) :
    (c.insert option.1 option.2).find? name = (valueUnder name option).or (c.find? name) := by
  rw [NameMap.find?_insert, valueUnder]
  split <;> rfl

-- An application has every option that was ever scripted for it.
theorem configOf_ofScript (name : String) : ((ofScript script).configOf app).find? name =
    ((script.flatMap (·.optionsOf app)).filterMap (valueUnder name)).getLast? := by
  rw [ofScript, configOf_foldl, foldl_last_written (·.find? name) (find?_insert_eq_or · · name)]
  exact Option.or_none

end ScriptedModel

namespace Recorder

-- What is done with a model: its script goes on, it takes a call, or its record is cleared.
inductive Use
  | script (step : ScriptStep)
  | call (c : Call)
  | clear

namespace Use

def script? : Use → Option ScriptStep
  | script step => some step
  | _           => none

def call? : Use → Option Call
  | call c => some c
  | _      => none

end Use

def use (r : Recorder) : Use → Recorder
  | .script step => { r with model := step.apply r.model }
  | .call c      => (handle c r).2
  | .clear       => r.clear

def ofUses (uses : List Use) : Recorder := uses.foldl use (ofModel .empty)

def reply (r : Recorder) (c : Call) : Except Error c.Result := (handle c r).1

-- What was done after the record was last cleared.
inductive SinceClear : List Use → List Use → Prop
  | never {uses : List Use} : .clear ∉ uses → SinceClear uses uses
  | cleared (before : List Use) {later : List Use} : .clear ∉ later →
    SinceClear (before ++ .clear :: later) later

variable (r : Recorder) (u : Use) (uses : List Use) (c : Call)

theorem reply_eq_answer : r.reply c = r.model.answer c := by
  rw [reply, handle_eq]

theorem model_use : (r.use u).model = u.script?.elim r.model fun step => step.apply r.model := by
  cases u
  case call c => rw [use, handle_eq]; rfl
  all_goals rfl

theorem model_foldl_use :
    (uses.foldl use r).model = (uses.filterMap Use.script?).foldl ScriptStep.apply r.model := by
  induction uses generalizing r
  case nil => rfl
  case cons u uses hi =>
    rw [List.foldl_cons, hi, model_use]
    cases u <;> rfl

-- Neither calls nor the record have a part in the model.
theorem model_ofUses : (ofUses uses).model = .ofScript (uses.filterMap Use.script?) :=
  model_foldl_use ..

theorem calls_use {u : Use} (h : u ≠ .clear) : (r.use u).calls = r.calls ++ u.call?.toList := by
  cases u
  case script => exact (List.append_nil _).symm
  case call c => rw [use, handle_eq]; rfl
  case clear  => exact absurd rfl h

theorem calls_foldl_use {uses : List Use} (h : .clear ∉ uses) :
    (uses.foldl use r).calls = r.calls ++ uses.filterMap Use.call? := by
  induction uses generalizing r
  case nil => exact (List.append_nil _).symm
  case cons u uses hi =>
    have ⟨ne, h⟩ := not_or.mp (mt List.mem_cons.mpr h)
    rw [List.foldl_cons, hi _ h, calls_use r (Ne.symm ne), List.append_assoc]
    cases u <;> rfl

theorem exists_sinceClear : ∃ later, SinceClear uses later := by
  induction uses
  case nil => exact ⟨[], .never List.not_mem_nil⟩
  case cons u uses hi =>
    have ⟨later, since⟩ := hi
    cases since
    case cleared before none => exact ⟨later, .cleared (u :: before) none⟩
    case never none =>
      by_cases h : u = .clear
      case pos => exact ⟨uses, h ▸ .cleared [] none⟩
      case neg => exact ⟨u :: uses, .never (List.not_mem_cons_of_ne_of_not_mem (Ne.symm h) none)⟩

theorem calls_ofUses {uses later : List Use} (h : SinceClear uses later) :
    (ofUses uses).calls = later.filterMap Use.call? := by
  cases h
  case never none => exact calls_foldl_use _ none
  case cleared before none =>
    rw [ofUses, List.foldl_append, List.foldl_cons, calls_foldl_use _ none]
    rfl

theorem exchanges_run {α : Type} (p : Program Client α) :
    (r.run [] p).exchanges = (r.run [] p).calls.map fun c => ⟨c, r.reply c⟩ := by
  have steps := (ScriptedModel.run_recorded p r).right
  have told : (p.run r.model.handler ()).exchanges =
      (p.run r.model.handler ()).requests.map fun c => ⟨c, r.reply c⟩ :=
    Program.exchanges_run_of_replies (fun c _ => (reply_eq_answer r c).symm) p ()
  rw [Run.exchanges, Run.calls, Run.requests, steps]
  exact told

-- However a model was used: a command on a unit gets the last result that is scripted for both, or
-- else the last one for the command, or else it succeeds silently; an application has all options
-- ever scripted for it, each with its last value. No reply depends on the calls before it, within
-- a program or before. The record holds the calls since it was last cleared, whatever they got, and
-- a program adds its calls to it even where some of them are made to fail.
theorem replies_follow_script (uses : List Use) :
    let r := ofUses uses
    let script := uses.filterMap Use.script?
    (∀ unit command, r.reply (.run unit command) =
      .ok (((script.filterMap (·.onUnit? unit command)).getLast?.or
        (script.filterMap (·.onAny? command)).getLast?).getD (.ofExit 0 "" ""))) ∧
    (∀ app, ∃ config, r.reply (.config app) = .ok config ∧ ∀ name, config.find? name =
      ((script.flatMap (·.optionsOf app)).filterMap (valueUnder name)).getLast?) ∧
    (∀ c, r.reply c = (ofModel (.ofScript script)).reply c) ∧
    (∃ later, SinceClear uses later ∧ r.calls = later.filterMap Use.call?) ∧
    ∀ (α : Type) (p : Program Client α),
      (r.run [] p).exchanges = (r.run [] p).calls.map (fun c => ⟨c, r.reply c⟩) ∧
      ∀ faults, (r.run faults p).state.1 =
        { r with calls := r.calls ++ (r.run faults p).calls } := by
  intro r script
  have model : r.model = .ofScript script := model_ofUses uses
  refine ⟨fun unit command => ?run, fun app => ?config, fun c => ?fresh, ?record, fun α p =>
    ⟨exchanges_run r p, fun faults => state_run faults p r⟩⟩
  case run =>
    rw [reply_eq_answer, model, ← ScriptedModel.resultOf_ofScript]
    rfl
  case config =>
    refine ⟨_, ?_, ScriptedModel.configOf_ofScript script app⟩
    rw [reply_eq_answer, model]
    rfl
  case fresh  => rw [reply_eq_answer, reply_eq_answer, model]; rfl
  case record =>
    have ⟨later, since⟩ := exists_sinceClear uses
    exact ⟨later, since, calls_ofUses since⟩

end Recorder
end RollingUpgrade
