import RollingUpgrade.Error
import RollingUpgrade.Json.Reader
import RollingUpgrade.Json.Render
import RollingUpgrade.Model.Codec
import RollingUpgrade.Model.Outcome

namespace RollingUpgrade.Juju

inductive Reading
  | data
  | snapshot
  | action

-- The words in which the library for JSON refuses a text.
abbrev Refusal := Reading → String → String

def wordless : Refusal := fun _ _ => ""

def data (refusal : Refusal) (text : String) : Except Error JsonValue :=
  match (Json.parse text).bind JsonValue.ofJson? with
  | some v => .ok v
  | none => .error (.json (refusal .data text))

def snapshot (refusal : Refusal) (text : String) : Except Error Snapshot :=
  match (Json.parse text).bind Snapshot.ofJson? with
  | some s => .ok s
  | none => .error (.json (refusal .snapshot text))

-- The value of an option: the one set, else the default, else null.
def optionValue (option : Json) : Json :=
  ((option.get? "value").or (option.get? "default")).getD .null

def configOf (reply : Json) : Except Error ApplicationConfig :=
  match reply.get? "settings" with
  | some (.object options) =>
    .ok (NameMap.ofList (options.filterMap fun (name, option) =>
      (JsonValue.ofJson? (optionValue option)).map fun v => (name, v)))
  | _ => .error (.client "config output has no settings")

def config (refusal : Refusal) (text : String) : Except Error ApplicationConfig := do
  configOf (← data refusal text).json

def firstField? (fields : Json) (names : List String) : Option Json := names.findSome? fields.get?

-- The part of a reply that tells of a unit: the first of a list; the reply itself if it has the
-- fields of one; else its first value.
def unitEntry? : Json → Option Json
  | .array items => items.head?
  | .object entries =>
    if entries.any fun e => e.1 == "Stdout" || e.1 == "results" then some (.object entries)
    else entries.head?.map (·.2)
  | _ => none

def codeText : Option Json → String
  | some (.string s) => s
  | some (.number n) => n.render
  | _ => ""

def streamText : Option Json → String
  | some (.string s) => s
  | _ => ""

-- The result of a command on one unit. Its fields may stand under the key results.
def runResultOf (reply : Json) : Except Error CommandResult :=
  match unitEntry? reply with
  | none => .error (.client "run output has no unit results")
  | some entry =>
    let fields := (entry.get? "results").getD entry
    .ok {
      code := codeText (firstField? fields CommandResult.codeNames)
      stdout := streamText (firstField? fields CommandResult.stdoutNames)
      stderr := streamText (firstField? fields CommandResult.stderrNames) }

def runResult (refusal : Refusal) (text : String) : Except Error CommandResult := do
  runResultOf (← data refusal text).json

-- The outcome of an action on one unit, which is the first value of the reply.
def actionResultOf (refusal : Refusal) (reply : Json) : Except Error ActionResult :=
  match reply with
  | .object ((_, entry) :: _) =>
    match ActionResult.ofJson? entry with
    | some r => .ok r
    | none => .error (.json (refusal .action entry.render))
  | _ => .error (.client "action output is empty")

def actionResult (refusal : Refusal) (text : String) : Except Error ActionResult := do
  actionResultOf refusal (← data refusal text).json

end RollingUpgrade.Juju
