namespace RollingUpgrade

inductive Error
  | config (message : String)
  | invalidArgument (message : String)
  | networkConfigNotFound (path : String)
  | topologyNotFound (topology path : String)
  | unitCountMismatch (expected actual : Nat)
  | unitNotFound (unit : String)
  | processNameCountMismatch (unit : String) (expected actual : Nat)
  | processNameMismatch (unit process : String)
  | pidCountMismatch (unit process expected : String) (actual : Nat)
  | ubuntuReleaseNotFound (release : String)
  | packageVersionMismatch (package : String) (versions : List String)
  | processIdsFailed (unit command : String) (code : Int) (stderr : String)
  | commandFailed (unit command : String) (code : Int) (stderr : String)
  | actionFailed (unit action message : String)
  | portCheckFailed (message : String)
  | client (message : String)
  | timeout (what : String) (seconds : Nat)
  | io (message : String)
  | json (message : String)
  | yaml (message : String)
  deriving DecidableEq, Repr, Inhabited

inductive Error.Category
  | config
  | validation
  | remote
  | client
  | io
  deriving DecidableEq, Repr

namespace Error

def Category.all : List Category := [.config, .validation, .remote, .client, .io]

def Category.name : Category → String
  | .config => "config"
  | .validation => "validation"
  | .remote => "remote"
  | .client => "client"
  | .io => "io"

def Category.ofName? (name : String) : Option Category := all.find? (·.name == name)

theorem Category.ofName?_name (c : Category) : ofName? c.name = some c := by
  cases c <;> rfl

-- Codes never change. The tens belong to the category.
def code : Error → Nat
  | .config _ => 10
  | .invalidArgument _ => 11
  | .networkConfigNotFound _ => 12
  | .topologyNotFound .. => 13
  | .unitCountMismatch .. => 30
  | .unitNotFound _ => 31
  | .processNameCountMismatch .. => 32
  | .processNameMismatch .. => 33
  | .pidCountMismatch .. => 34
  | .ubuntuReleaseNotFound _ => 35
  | .packageVersionMismatch .. => 36
  | .processIdsFailed .. => 40
  | .commandFailed .. => 41
  | .actionFailed .. => 42
  | .portCheckFailed _ => 43
  | .client _ => 50
  | .timeout .. => 51
  | .io _ => 60
  | .json _ => 61
  | .yaml _ => 62

def category : Error → Category
  | .config _ | .invalidArgument _ | .networkConfigNotFound _ | .topologyNotFound .. => .config
  | .unitCountMismatch .. | .unitNotFound _ | .processNameCountMismatch .. | .processNameMismatch ..
  | .pidCountMismatch .. | .ubuntuReleaseNotFound _ | .packageVersionMismatch .. => .validation
  | .processIdsFailed .. | .commandFailed .. | .actionFailed .. | .portCheckFailed _ => .remote
  | .client _ | .timeout .. => .client
  | .io _ | .json _ | .yaml _ => .io

def Category.tens : Category → Nat
  | .config => 1
  | .validation => 3
  | .remote => 4
  | .client => 5
  | .io => 6

theorem code_div_ten (e : Error) : e.code / 10 = e.category.tens := by
  cases e <;> simp [code, category, Category.tens]

def headline : Error → String
  | .config _ => "Invalid Configuration"
  | .invalidArgument _ => "Invalid Argument"
  | .networkConfigNotFound _ => "Network Config Not Found"
  | .topologyNotFound .. => "Network Topology Not Found"
  | .unitCountMismatch .. => "Unit Count Mismatch"
  | .unitNotFound _ => "Unit Not Found"
  | .processNameCountMismatch .. => "Process Name Count Mismatch"
  | .processNameMismatch .. => "Process Name Mismatch"
  | .pidCountMismatch .. => "PID Count Mismatch"
  | .ubuntuReleaseNotFound _ => "Ubuntu Release Not Found"
  | .packageVersionMismatch .. => "Package Version Mismatch"
  | .processIdsFailed .. => "Process ID Lookup Failed"
  | .commandFailed .. => "Remote Command Failed"
  | .actionFailed .. => "Action Failed"
  | .portCheckFailed _ => "Port Check Failed"
  | .client _ => "Orchestration Client Error"
  | .timeout .. => "Timeout"
  | .io _ => "File Access Failed"
  | .json _ => "Malformed JSON"
  | .yaml _ => "Malformed YAML"

def message : Error → String
  | .config m => "invalid configuration: " ++ m
  | .invalidArgument m => "invalid argument: " ++ m
  | .networkConfigNotFound path => "network topology file " ++ path ++ " not found"
  | .topologyNotFound topology path =>
    "network topology '" ++ topology ++ "' not defined in " ++ path
  | .unitCountMismatch expected actual =>
    s!"unit count mismatch: expected {expected}, actual {actual}"
  | .unitNotFound unit => "unit not found: " ++ unit
  | .processNameCountMismatch unit expected actual =>
    s!"process name count mismatch on {unit}: expected {expected}, actual {actual}"
  | .processNameMismatch unit process =>
    s!"process name mismatch on {unit}: {process} not reported"
  | .pidCountMismatch unit process expected actual =>
    s!"PID count mismatch on {unit} ({process}): expected {expected}, actual {actual}"
  | .ubuntuReleaseNotFound release => "Ubuntu release not found: " ++ release
  | .packageVersionMismatch package versions =>
    s!"package {package} version differs across units: " ++ ", ".intercalate versions
  | .processIdsFailed unit command code stderr =>
    unit ++ " \x60" ++ command ++ "\x60 returned " ++ toString code ++ " " ++ stderr
  | .commandFailed unit command code _ =>
    unit ++ " \x60" ++ command ++ "\x60 returned " ++ toString code ++ " (fail)"
  | .actionFailed unit action message => s!"action {action} on {unit} failed: {message}"
  | .portCheckFailed m => "port check failed: " ++ m
  | .client m => "orchestration client error: " ++ m
  | .timeout what seconds => s!"timed out after {seconds}s waiting for {what}"
  | .io m => "io: " ++ m
  | .json m => "json: " ++ m
  | .yaml m => "yaml: " ++ m

def human (e : Error) (color : Bool) : String :=
  let word := if color then "\x1b[31merror\x1b[0m" else "error"
  word ++ ": " ++ e.headline ++ "\n  " ++ e.message

end Error
end RollingUpgrade
