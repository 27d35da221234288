import RollingUpgrade.Document
import RollingUpgrade.Error
import RollingUpgrade.Json.Render

namespace RollingUpgrade

structure ErrorReport where
  code : Nat
  category : Error.Category
  message : String
  context : NameMap JsonValue

namespace ErrorReport

def contextOf : Error → List (String × JsonValue)
  | .unitCountMismatch expected actual | .processNameCountMismatch _ expected actual =>
    [("expected", .nat expected), ("actual", .nat actual)]
  | .pidCountMismatch unit process expected actual =>
    [("unit", .string unit), ("process", .string process), ("expected", .string expected),
      ("actual", .nat actual)]
  | .processIdsFailed unit command code _ | .commandFailed unit command code _ =>
    [("unit", .string unit), ("command", .string command), ("exit_code", .int code)]
  | .unitNotFound unit | .processNameMismatch unit _ => [("unit", .string unit)]
  | .timeout what seconds => [("waiting_for", .string what), ("seconds", .nat seconds)]
  | _ => []

def ofError (e : Error) : ErrorReport :=
  ⟨e.code, e.category, e.message, .ofList (contextOf e)⟩

-- Adds a context entry over one of the same key; a value that cannot be written adds nothing.
def withContext (r : ErrorReport) (key : String) : Option JsonValue → ErrorReport
  | some value => { r with context := r.context.insert key value }
  | none => r

def toJson (r : ErrorReport) : Json :=
  .object <|
    [("code", .nat r.code), ("category", .string r.category.name),
      ("message", .string r.message)] ++
      if r.context.isEmpty then [] else [("context", .ofMap JsonValue.json r.context)]

-- A category is written as its name, or as an object with that key alone and the value null.
def category? : Json → Option Error.Category
  | .string name | .object [(name, .null)] => Error.Category.ofName? name
  | _ => none

def code? (j : Json) : Option Nat := (Document.count? j).filter (fitsUnsigned 32 ·)

open Document in
def ofJson? (j : Json) : Option ErrorReport := do
  match ← fields? [["code"], ["category"], ["message"], ["context"]] 3 j with
  | [code, category, message, context] =>
    return {
      code := ← required code? code
      category := ← required category? category
      message := ← required string? message
      context := ← orElse .empty (mapOf? JsonValue.ofJson?) context }
  | _ => none

end ErrorReport
end RollingUpgrade
