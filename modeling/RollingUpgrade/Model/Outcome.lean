import RollingUpgrade.Json.Render
import RollingUpgrade.Document
import RollingUpgrade.Text.Blank

namespace RollingUpgrade

abbrev ApplicationConfig := NameMap JsonValue

-- A decimal integer in 32 bits with an optional sign.
def int32? (s : List Char) : Option Int :=
  let (sign, digits) : Int × List Char := match s with
    | '-' :: rest => (-1, rest)
    | '+' :: rest => (1, rest)
    | s => (1, s)
  if digits.isEmpty || !digits.all Char.isDigit then none
  else
    let value := sign * (digits.foldl (fun n c => n * 10 + (c.toNat - '0'.toNat)) 0 : Nat)
    if fitsSigned 32 value then some value else none

-- The result of a command. Its code is kept as the text that was reported.
structure CommandResult where
  code : String
  stdout : String
  stderr : String
  deriving DecidableEq, Repr, Inhabited

namespace CommandResult

def ofExit (code : Int) (stdout stderr : String) : CommandResult := ⟨toString code, stdout, stderr⟩

-- No code at all is a success; a code that cannot be read is a failure.
def exitCode (r : CommandResult) : Int :=
  match Text.trimChars r.code.toList with
  | [] => 0
  | code => (int32? code).getD 1

def success (r : CommandResult) : Bool := r.exitCode == 0

def code? (j : Json) : Option String :=
  j.settle?.map fun
    | .string s => s
    | .null => "0"
    | other => other.render

def codeNames : List String := ["Code", "ReturnCode", "return-code"]

def stdoutNames : List String := ["Stdout", "stdout"]

def stderrNames : List String := ["Stderr", "stderr"]

open Document in
def ofJson? (j : Json) : Option CommandResult := do
  match ← fields? [codeNames, stdoutNames, stderrNames] 0 j with
  | [code, stdout, stderr] =>
    return {
      code := ← orElse "0" code? code
      stdout := ← orElse "" string? stdout
      stderr := ← orElse "" string? stderr }
  | _ => none

def toJson (r : CommandResult) : Json :=
  .object [("Code", .string r.code), ("Stdout", .string r.stdout), ("Stderr", .string r.stderr)]

end CommandResult

structure ActionResult where
  status : String
  message : String
  results : NameMap JsonValue

namespace ActionResult

def completed : ActionResult := ⟨"completed", "", .empty⟩

def failed (r : ActionResult) : Bool := r.status == "failed"

open Document in
def ofJson? (j : Json) : Option ActionResult := do
  match ← fields? [["status"], ["message"], ["results"]] 0 j with
  | [status, message, results] =>
    return {
      status := ← orElse "" string? status
      message := ← orElse "" string? message
      results := ← orElse .empty (mapOf? JsonValue.ofJson?) results }
  | _ => none

-- An empty message is left out.
def toJson (r : ActionResult) : Json :=
  .object <|
    [("status", .string r.status)] ++
      (if r.message.isEmpty then [] else [("message", .string r.message)]) ++
      [("results", .ofMap JsonValue.json r.results)]

end ActionResult
end RollingUpgrade
