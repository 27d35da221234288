import RollingUpgrade.Client.Recorder
import RollingUpgrade.Juju.Client
import RollingUpgrade.Proofs.Client.Query
import RollingUpgrade.Proofs.Juju.Command
import RollingUpgrade.Proofs.Juju.RunReply
import RollingUpgrade.Proofs.Model.RoundTrip

namespace RollingUpgrade.Juju

open Program

section

variable {refusal : Refusal} {text : String} {s : Snapshot} {c : ApplicationConfig}
  {r : CommandResult}

theorem snapshot_of_toJson (parsed : Json.parse text = some s.toJson) :
    snapshot refusal text = .ok s := by
  rw [snapshot, parsed, Option.bind_some, s.reads_toJson]

-- The options of an application as the tool tells of them.
def settings (c : ApplicationConfig) : Json :=
  .object [("settings", .ofMap (fun v => .object [("value", v.json)]) c)]

theorem settle?_settings (c : ApplicationConfig) : (settings c).settle? = some (settings c) := by
  have option (v : JsonValue) : (Json.object [("value", v.json)]).settle? =
      some (.object [("value", v.json)]) :=
    Json.settle?_object_self (List.pairwise_singleton _ _) (List.forall_mem_singleton.mpr v.settled)
  exact Json.settle?_object_self (List.pairwise_singleton _ _)
    (List.forall_mem_singleton.mpr (Json.settle?_ofMap option))

theorem configOf_settings (c : ApplicationConfig) : configOf (settings c) = .ok c := by
  have kept (e : String × JsonValue) : (JsonValue.ofJson? (optionValue
      (.object [("value", e.2.json)]))).map (Prod.mk e.1) = some e :=
    congrArg (Option.map (Prod.mk e.1)) e.2.ofJson?_json
  have read : (c.toList.map fun e => (e.1, Json.object [("value", e.2.json)])).filterMap
      (fun e => (JsonValue.ofJson? (optionValue e.2)).map (Prod.mk e.1)) = c.toList := by
    rw [List.filterMap_map]
    exact (congrArg (List.filterMap · c.toList) (funext kept)).trans List.filterMap_some
  exact congrArg Except.ok ((congrArg NameMap.ofList read).trans c.ofList_toList)

theorem config_of_settings (parsed : Json.parse text = some (settings c)) :
    config refusal text = .ok c := by
  rw [config, data_eq parsed (settle?_settings c)]
  exact configOf_settings c

theorem runResult_of_toJson (parsed : Json.parse text = some (.array [r.toJson])) :
    runResult refusal text = .ok r := by
  have readable : r.toJson.settle? = some (.object
      [("Code", .string r.code), ("Stderr", .string r.stderr),
        ("Stdout", .string r.stdout)]) := by cbv
  exact runResult_listed parsed readable rfl

end

section

variable {σ α : Type} {j : Juju} {answer : Terminal.Handler σ} {subcommand : String}
  {args : List String} {reply : Json}

-- Whatever happened before, the command ends well and prints a text that stands for the reply.
def Prints (j : Juju) (answer : Terminal.Handler σ) (subcommand : String) (args : List String)
    (reply : Json) : Prop :=
  ∀ s, ∃ exit, (answer (.start j.binary (j.arguments subcommand args)) s).1 = .ok exit ∧
    exit.success = true ∧ Json.parse exit.output = some reply

theorem Prints.result_read (h : j.Prints answer subcommand args reply)
    {read : String → Except Error α} {a : α}
    (told : ∀ text, Json.parse text = some reply → read text = .ok a) (s : σ) :
    ((j.printed subcommand args >>= fun text => ofExcept (read text)).run answer s).result =
      .ok a := by
  have ⟨exit, ends, success, parsed⟩ := h s
  exact (Juju.result_read ends success read).trans (told exit.output parsed)

-- The tool tells of a scripted model: of its snapshot, of the options of its applications, and of
-- the results that it has for commands on units.
structure TellsOf (j : Juju) (answer : Terminal.Handler σ) (m : ScriptedModel) : Prop where
  status : j.Prints answer "status" ["--format=json"] m.snapshot.toJson
  config (application : String) :
    j.Prints answer "config" [application, "--format=json"] (settings (m.configOf application))
  run (unit command : String) :
    j.Prints answer "run" ["--format=json", "--unit", unit, "--", command]
      (.array [(m.resultOf unit command).toJson])

variable {m : ScriptedModel} {horizon : Horizon}

theorem TellsOf.result_perform (h : j.TellsOf answer m) {c : Call} (query : c.IsQuery) (s : σ) :
    ((j.perform horizon c).run answer s).result = m.answer c := by
  cases c
  case status => exact h.status.result_read (fun _ => snapshot_of_toJson) s
  case config => exact (h.config _).result_read (fun _ => config_of_settings) s
  case run    => exact (h.run _ _).result_read (fun _ => runResult_of_toJson) s
  all_goals nomatch query

-- However far waits are followed, the program comes to the same result through the tool as on the
-- model.
def Agrees (j : Juju) (answer : Terminal.Handler σ) (m : ScriptedModel) (p : Program Client α) :
    Prop :=
  ∀ horizon s, ((j.runThrough horizon p).run answer s).result = (m.run [] p).result

theorem TellsOf.agrees (h : j.TellsOf answer m) {p : Program Client α}
    (only : ∀ scripted : Client.Handler Unit, p.Only scripted Call.IsQuery) :
    j.Agrees answer m p := by
  intro horizon s
  rw [ScriptedModel.run, (ScriptedModel.run_recorded p _).left]
  refine Program.result_run_through (fun c query _ s => ?_) (only _) () s
  rw [result_run_attempt, h.result_perform query]
  rfl

-- The planner and the checks come to the same result, a failure included, through a tool that tells
-- of a scripted model as on this model.
theorem runThrough_agrees_with_scripted (h : j.TellsOf answer m) :
    (∀ mode extra, extra.BuiltIn → j.Agrees answer m (Plan.ofMode mode extra)) ∧
    (∀ expected expectSuccess, j.Agrees answer m (Pids.findAll expected expectSuccess)) ∧
    (∀ application package, j.Agrees answer m (Client.packageVersion application package)) ∧
    (∀ units, j.Agrees answer m (Client.hostnames units)) ∧
    ∀ commands units, j.Agrees answer m (Client.checkCommands commands units) :=
  ⟨fun mode _ builtIn => h.agrees fun _ => Plan.ofMode_only mode builtIn,
    fun _ _ => h.agrees fun _ => Pids.findAll_only _ _,
    fun _ _ => h.agrees fun _ => Client.packageVersion_only _ _,
    fun _ => h.agrees fun _ => Client.hostnames_only _,
    fun _ _ => h.agrees fun _ => Client.checkCommands_only _ _⟩

end

-- A charm with a source, and a unit with a host name.
def heatModel : ScriptedModel :=
  ((ScriptedModel.empty.withSnapshot ⟨.ofList [("heat", ⟨"heat", [], none, .empty⟩)]⟩).withConfig
    "heat" [("source", .string "distro")]).withRunResult "heat/0" "hostname" ⟨"0", "juju-0", ""⟩

-- What a tool prints where this model is deployed.
def heatOutput : List String → String
  | ["status", _] =>
    "\x7b\"applications\":\x7b\"heat\":" ++
      "\x7b\"charm\":\"heat\",\"subordinate-to\":[],\"units\":\x7b\x7d\x7d\x7d\x7d"
  | ["config", application, _] =>
    if application = "heat" then
      "\x7b\"settings\":\x7b\"source\":\x7b\"value\":\"distro\"\x7d\x7d\x7d"
    else "\x7b\"settings\":\x7b\x7d\x7d"
  | ["run", _, _, unit, _, command] =>
    if unit = "heat/0" ∧ command = "hostname" then
      "[\x7b\"Code\":\"0\",\"Stdout\":\"juju-0\",\"Stderr\":\"\"\x7d]"
    else "[\x7b\"Code\":\"0\",\"Stdout\":\"\",\"Stderr\":\"\"\x7d]"
  | _ => ""

def heatTerminal : Terminal.Handler Unit
  | .start _ args, s => (.ok ⟨some 0, (heatOutput args).toUTF8.toList, []⟩, s)
  | .clock, s        => ((0 : Nat), s)
  | .pause _, s      => ((), s)

theorem prints_heat {subcommand : String} {args : List String} {text : String} {reply : Json}
    (parsed : Json.parse text = some reply)
    (decoded : Text.Utf8.decodeLossy text.toUTF8.toList = text)
    (printed : heatOutput (subcommand :: args) = text) :
    default.Prints heatTerminal subcommand args reply := by
  refine fun s => ⟨⟨some 0, text.toUTF8.toList, []⟩, printed ▸ rfl, rfl, ?_⟩
  rw [Exit.output, decoded, parsed]

theorem tellsOf_heat : default.TellsOf heatTerminal heatModel where
  status := by
    have parsed : Json.parse
        ("\x7b\"applications\":\x7b\"heat\":" ++
          "\x7b\"charm\":\"heat\",\"subordinate-to\":[],\"units\":\x7b\x7d\x7d\x7d\x7d") =
        some heatModel.snapshot.toJson := by cbv
    exact prints_heat parsed (by cbv) rfl
  config application := by
    by_cases h : application = "heat"
    case pos =>
      subst h
      have parsed :
          Json.parse "\x7b\"settings\":\x7b\"source\":\x7b\"value\":\"distro\"\x7d\x7d\x7d" =
            some (settings (heatModel.configOf "heat")) := by cbv
      exact prints_heat parsed (by cbv) rfl
    case neg =>
      have bare : heatModel.configOf application = .empty :=
        ScriptedModel.configOf_withConfig_of_ne _ _ h
      have parsed : Json.parse "\x7b\"settings\":\x7b\x7d\x7d" = some (settings .empty) := by cbv
      exact prints_heat (bare ▸ parsed) (by cbv) (if_neg h)
  run unit command := by
    by_cases h : unit = "heat/0" ∧ command = "hostname"
    case pos =>
      have result : heatModel.resultOf unit command = ⟨"0", "juju-0", ""⟩ := by
        rw [h.left, h.right]
        exact ScriptedModel.resultOf_withRunResult ..
      have parsed : Json.parse "[\x7b\"Code\":\"0\",\"Stdout\":\"juju-0\",\"Stderr\":\"\"\x7d]" =
          some (.array [CommandResult.toJson ⟨"0", "juju-0", ""⟩]) := by cbv
      exact prints_heat (result ▸ parsed) (by cbv) (if_pos h)
    case neg =>
      have result : heatModel.resultOf unit command = ⟨"0", "", ""⟩ := by
        rw [heatModel, ScriptedModel.resultOf, ScriptedModel.unitResult?_withRunResult, if_neg h]
        rfl
      have parsed : Json.parse "[\x7b\"Code\":\"0\",\"Stdout\":\"\",\"Stderr\":\"\"\x7d]" =
          some (.array [CommandResult.toJson ⟨"0", "", ""⟩]) := by cbv
      exact prints_heat (result ▸ parsed) (by cbv) (if_neg h)

theorem runThrough_agrees_with_scripted_heat :
    ((default.runThrough noWaits (Plan.ofMode .openstack .none)).run heatTerminal ()).result =
      (heatModel.run [] (Plan.ofMode .openstack .none)).result ∧
    ((default.runThrough noWaits (Client.hostnames [⟨"heat/0", "heat", "0", none⟩])).run
      heatTerminal ()).result = .ok (.ofList [("heat/0", "juju-0")]) := by
  obtain ⟨plan, _, _, hostnames, _⟩ := runThrough_agrees_with_scripted tellsOf_heat
  exact ⟨plan .openstack .none trivial noWaits (), (hostnames _ noWaits ()).trans (by rfl)⟩

end RollingUpgrade.Juju
