import RollingUpgrade.Proofs.Juju.Command
import RollingUpgrade.Proofs.Juju.Wrapping
import RollingUpgrade.Proofs.Upgrade.Lookups

namespace RollingUpgrade.Juju

open Program

-- A text that stands for an object with the key settings, under which there is an object.
inductive HasSettings (text : String) (settings : NameMap Json) : Prop
  | intro {j : Json} {reply : NameMap Json} : Json.parse text = some j →
    j.settle? = some (object reply) → reply.find? "settings" = some (object settings) →
    HasSettings text settings

-- The value that the body of an option gives: what is set, or else the default, or else null. A
-- body that is no object gives null.
inductive Gives : Json → Json → Prop
  | set {body : NameMap Json} {v : Json} : body.find? "value" = some v → Gives (object body) v
  | default {body : NameMap Json} {v : Json} : "value" ∉ body → body.find? "default" = some v →
    Gives (object body) v
  | unset {body : NameMap Json} : "value" ∉ body → "default" ∉ body → Gives (object body) .null
  | bare {body : Json} : (∀ entries, body ≠ .object entries) → Gives body .null

section

variable {refusal : Refusal} {text key : String} {settings reply : NameMap Json}
  {body v w : Json} {entries : List (String × Json)}

-- An object of data has each key once, in ascending order.
theorem exists_object_of_settled
    (settled : (Json.object entries).settle? = some (.object entries)) :
    ∃ m, Json.object entries = object m := by
  obtain ⟨es, _, same⟩ := Json.settle?_object_iff.mp settled
  exact ⟨.ofList es, same.symm⟩

theorem settle?_of_get? (settled : v.settle? = some v) (found : v.get? key = some w) :
    w.settle? = some w := by
  cases v
  case object entries =>
    have ⟨_, settles, _⟩ := Json.get?_settled settled found
    exact Json.settle?_idem settles
  all_goals nomatch found

theorem gives_optionValue (settled : body.settle? = some body) : Gives body (optionValue body) := by
  cases body
  case object entries =>
    obtain ⟨m, same⟩ := exists_object_of_settled settled
    rw [same, optionValue, get?_object, get?_object]
    cases set : m.find? "value"
    case some v => exact .set set
    case none =>
      have notSet := NameMap.find?_eq_none_iff.mp set
      cases default : m.find? "default"
      case some v => exact .default notSet default
      case none   => exact .unset notSet (NameMap.find?_eq_none_iff.mp default)
  all_goals exact .bare nofun

theorem Gives.settled (h : Gives body v) (settled : body.settle? = some body) :
    v.settle? = some v := by
  cases h
  case set found       => exact settle?_of_get? settled found
  case default _ found => exact settle?_of_get? settled found
  all_goals rfl

-- The value of an option as data.
def valueOf (body : Json) : JsonValue := (JsonValue.ofJson? (optionValue body)).getD .null

theorem ofJson?_optionValue (settled : body.settle? = some body) :
    JsonValue.ofJson? (optionValue body) = some (valueOf body) ∧
      Gives body (valueOf body).json := by
  have gives := gives_optionValue settled
  have read : JsonValue.ofJson? (optionValue body) = some ⟨_, gives.settled settled⟩ :=
    JsonValue.ofJson?_eq_some_iff.mpr (gives.settled settled)
  rw [valueOf, read]
  exact ⟨rfl, gives⟩

-- All options are read, whatever is said of them.
theorem configOf_object (settled : (object reply).settle? = some (object reply))
    (found : reply.find? "settings" = some (object settings)) :
    configOf (object reply) = .ok (settings.map fun _ body => valueOf body) ∧
      ∀ e ∈ settings.toList, Gives e.2 (valueOf e.2).json := by
  have settled : (object settings).settle? = some (object settings) := settle?_of_get? settled found
  have body {e : String × Json} (mem : e ∈ settings.toList) : e.2.settle? = some e.2 :=
    settle?_of_get? settled (NameMap.find?_eq_some_iff.mpr mem)
  have read : settings.toList.filterMap (fun e =>
      (JsonValue.ofJson? (optionValue e.2)).map fun v => (e.1, v)) =
      (settings.map fun _ body => valueOf body).toList := by
    refine (List.filterMap_congr fun e mem => ?_).trans (congrFun List.filterMap_eq_map _)
    rw [(ofJson?_optionValue (body mem)).left]
    rfl
  have options : configOf (object reply) = .ok (.ofList (settings.toList.filterMap fun e =>
      (JsonValue.ofJson? (optionValue e.2)).map fun v => (e.1, v))) := by
    rw [configOf, get?_object, found]
    rfl
  rw [options, read, NameMap.ofList_toList]
  exact ⟨rfl, fun e mem => (ofJson?_optionValue (body mem)).right⟩

theorem HasSettings.config_eq (refusal : Refusal) (h : HasSettings text settings) :
    config refusal text = .ok (settings.map fun _ body => valueOf body) ∧
      ∀ e ∈ settings.toList, Gives e.2 (valueOf e.2).json := by
  cases h
  case intro j reply parsed readable found =>
    rw [config, data_eq parsed readable]
    exact configOf_object (Json.settle?_idem readable) found

theorem exists_of_data {d : JsonValue} (h : data refusal text = .ok d) :
    ∃ j, Json.parse text = some j ∧ j.settle? = some d.json := by
  rw [data] at h
  split at h
  case h_1 found =>
    obtain ⟨j, parsed, settled⟩ := Option.bind_eq_some_iff.mp found
    cases h
    exact ⟨j, parsed, JsonValue.ofJson?_eq_some_iff.mp settled⟩
  case h_2 => cases h

theorem exists_of_configOf {c : ApplicationConfig} (settled : v.settle? = some v)
    (h : configOf v = .ok c) : ∃ reply settings, v = object reply ∧
      reply.find? "settings" = some (object settings) := by
  rw [configOf] at h
  split at h
  case h_2 => nomatch h
  case h_1 options found =>
    obtain ⟨settings, same⟩ := exists_object_of_settled (settle?_of_get? settled found)
    cases v
    case object entries =>
      obtain ⟨reply, same'⟩ := exists_object_of_settled settled
      rw [same', same] at found
      exact ⟨reply, settings, same', found⟩
    all_goals nomatch found

theorem hasSettings_of_config {c : ApplicationConfig} (h : config refusal text = .ok c) :
    ∃ settings, HasSettings text settings := by
  cases read : data refusal text
  case error => rw [config, read] at h; nomatch h
  case ok d =>
    rw [config, read] at h
    have ⟨j, parsed, readable⟩ := exists_of_data read
    have ⟨reply, settings, same, found⟩ := exists_of_configOf d.settled h
    exact ⟨settings, .intro parsed (same ▸ readable) found⟩

end

-- The tool as the client of programs.
def client {σ : Type} (j : Juju) (horizon : Horizon) (answer : Terminal.Handler σ) :
    Client.Handler σ := fun c s =>
  (((j.perform horizon c).run answer s).result, ((j.perform horizon c).run answer s).state)

-- The command that tells of the options of an application.
def configCommand (j : Juju) (app : String) : Terminal.Request :=
  .start j.binary (j.arguments "config" [app, "--format=json"])

variable {σ α : Type} {refusal : Refusal} {j : Juju} {horizon : Horizon}
  {answer : Terminal.Handler σ} {s : σ} {exit : Exit} {app : String} {a : Application}

-- What a program comes to through the tool is what it comes to where the tool is its client.
theorem result_runThrough (p : Program Client α) (s : σ) :
    ((j.runThrough horizon p).run answer s).result =
      (p.run (j.client horizon answer) s).result := by
  induction p generalizing s
  case done | fail       => rfl
  case log event next hi => exact hi s
  case ask call next hi  =>
    rw [runThrough, through, run_bind, Run.andThen_ok (result_run_attempt _ s), state_run_attempt]
    exact hi _ _

theorem result_config (horizon : Horizon) (ends : (answer (j.configCommand app) s).1 = .ok exit)
    (success : exit.success = true) :
    ((j.perform horizon (.config app)).run answer s).result = config j.refusal exit.output :=
  result_read ends success (config j.refusal)

theorem result_nonOpenstack (answer : Client.Handler σ) (app : String) (a : Application) (s : σ) :
    ((Filter.nonOpenstack.excludes app a).run answer s).result =
      (answer (.config app) s).1.map (!Filter.sourced ·) := by
  rw [Filter.run_nonOpenstack]
  cases read : (answer (.config app) s).1
  case error e => rw [Run.andThen_error ((Call.result_perform _ s).trans read)]; rfl
  case ok c    => rw [Run.andThen_ok ((Call.result_perform _ s).trans read)]; rfl

theorem result_runThrough_nonOpenstack (ends : (answer (j.configCommand app) s).1 = .ok exit)
    (success : exit.success = true) (a : Application) :
    ((j.runThrough horizon (Filter.nonOpenstack.excludes app a)).run answer s).result =
      (config j.refusal exit.output).map (!Filter.sourced ·) := by
  have read : (j.client horizon answer (.config app) s).1 = config j.refusal exit.output :=
    result_config horizon ends success
  rw [result_runThrough, result_nonOpenstack, read]

theorem sourced_map {settings : NameMap Json} :
    Filter.sourced (settings.map fun _ body => valueOf body) ↔
      "openstack-origin" ∈ settings ∨ "source" ∈ settings := by
  have named (name : String) :
      (settings.map fun _ body => valueOf body).contains name ↔ name ∈ settings := by
    rw [NameMap.contains, NameMap.find?_map, Option.isSome_map, Option.isSome_iff_exists,
      NameMap.mem_iff_find?]
  rw [Filter.sourced_iff, named, named]

theorem excluded_iff {text : String} {excluded : Bool} :
    (config refusal text).map (!Filter.sourced ·) = .ok excluded ↔
      ∃ settings, HasSettings text settings ∧
        (excluded ↔ "openstack-origin" ∉ settings ∧ "source" ∉ settings) := by
  have verdict {settings : NameMap Json} (h : HasSettings text settings) :
      (config refusal text).map (!Filter.sourced ·) = .ok excluded ↔
        (excluded ↔ "openstack-origin" ∉ settings ∧ "source" ∉ settings) := by
    rw [(h.config_eq refusal).left, ← not_or, ← sourced_map]
    cases sourced : Filter.sourced (settings.map fun _ body => valueOf body) <;>
      cases excluded <;> simp [Except.map, sourced]
  constructor
  · intro h
    cases read : config refusal text
    case error e => rw [read] at h; nomatch h
    case ok c =>
      have ⟨settings, told⟩ := hasSettings_of_config read
      exact ⟨settings, told, (verdict told).mp h⟩
  · exact fun ⟨settings, told, decided⟩ => (verdict told).mpr decided

-- The options of an application are found just if the command prints an object with settings. Then
-- they are all options that are told there, each with its value. So the filter for other services
-- excludes an application just if its settings have no source.
theorem config_tells_settings (horizon : Horizon)
    (ends : (answer (j.configCommand app) s).1 = .ok exit) (success : exit.success = true)
    (a : Application) :
    let reply := ((j.perform horizon (.config app)).run answer s).result
    let verdict := ((j.runThrough horizon (Filter.nonOpenstack.excludes app a)).run answer s).result
    ((∃ c, reply = .ok c) ↔ ∃ settings, HasSettings exit.output settings) ∧
    (∀ settings, HasSettings exit.output settings → ∃ c, reply = .ok c ∧ c.keys = settings.keys ∧
      ∀ e ∈ settings.toList, ∃ v, c.find? e.1 = some v ∧ Gives e.2 v.json) ∧
    ∀ excluded, verdict = .ok excluded ↔ ∃ settings, HasSettings exit.output settings ∧
      (excluded ↔ "openstack-origin" ∉ settings ∧ "source" ∉ settings) := by
  intro reply verdict
  have reads : reply = config j.refusal exit.output := result_config horizon ends success
  refine ⟨⟨?found, ?told⟩, ?options, fun excluded => ?verdict⟩
  case found => exact fun ⟨c, read⟩ => hasSettings_of_config (reads.symm.trans read)
  case told  => exact fun ⟨settings, told⟩ => ⟨_, reads.trans (told.config_eq _).left⟩
  case options =>
    intro settings told
    have ⟨read, gives⟩ := told.config_eq j.refusal
    refine ⟨_, reads.trans read, by simp [NameMap.keys, NameMap.map], fun e mem => ?_⟩
    have found : settings.find? e.1 = some e.2 := NameMap.find?_eq_some_iff.mpr mem
    exact ⟨valueOf e.2, by rw [NameMap.find?_map, found]; rfl, gives e mem⟩
  case verdict =>
    exact (result_runThrough_nonOpenstack ends success a).congr_left.trans excluded_iff

-- An option without a body to speak of, and one with a default.
def terseText : String :=
  "\x7b\"settings\":\x7b\"source\":null,\"tag\":\x7b\"default\":\"a\"\x7d\x7d\x7d"

def terseSettings : NameMap Json :=
  .ofList [("source", .null), ("tag", .object [("default", .string "a")])]

def terseExit : Exit := ⟨some 0, terseText.toUTF8.toList, []⟩

def terseTerminal : Terminal.Handler Unit
  | .start _ _, s => (.ok terseExit, s)
  | .clock, s     => ((0 : Nat), s)
  | .pause _, s   => ((), s)

theorem config_tells_settings_terse :
    HasSettings terseExit.output terseSettings ∧
    (∃ c, ((default.perform noWaits (.config "heat")).run terseTerminal ()).result = .ok c ∧
      c.keys = ["source", "tag"]) ∧
    ((default.runThrough noWaits
      (Filter.nonOpenstack.excludes "heat" ⟨"heat", [], none, .empty⟩)).run
      terseTerminal ()).result = .ok false := by
  let reply : Json := .object
    [("settings", .object [("source", .null), ("tag", .object [("default", .string "a")])])]
  have parsed : Json.parse terseText = some reply := by cbv
  have readable : reply.settle? =
      some (object (.ofList [("settings", object terseSettings)])) := by cbv
  have decoded : terseExit.output = terseText := by cbv
  have told : HasSettings terseExit.output terseSettings :=
    .intro (decoded ▸ parsed) readable rfl
  have ends : (terseTerminal (default.configCommand "heat") ()).1 = .ok terseExit := rfl
  obtain ⟨_, options, verdict⟩ := config_tells_settings noWaits ends rfl ⟨"heat", [], none, .empty⟩
  obtain ⟨c, read, names, _⟩ := options terseSettings told
  have sourced : "source" ∈ terseSettings := by decide
  exact ⟨told, ⟨c, read, names⟩, (verdict false).mpr ⟨terseSettings, told, by simp [sourced]⟩⟩

end RollingUpgrade.Juju
