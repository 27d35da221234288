import RollingUpgrade.Error.Report

namespace RollingUpgrade

-- What may identify a failure.
inductive Error.Fact
  | unit
  | process
  | command
  | expected
  | actual
  deriving DecidableEq

namespace Error

def Fact.key : Fact → String
  | .unit => "unit"
  | .process => "process"
  | .command => "command"
  | .expected => "expected"
  | .actual => "actual"

def unit? : Error → Option String
  | .unitNotFound unit | .processNameCountMismatch unit .. | .processNameMismatch unit _
  | .pidCountMismatch unit .. | .processIdsFailed unit .. | .commandFailed unit ..
  | .actionFailed unit .. => some unit
  | _ => none

def process? : Error → Option String
  | .processNameMismatch _ process | .pidCountMismatch _ process .. => some process
  | _ => none

def command? : Error → Option String
  | .processIdsFailed _ command .. | .commandFailed _ command .. => some command
  | _ => none

-- The number of processes that is expected may be one of several, and then is told as a text.
def expected? : Error → Option JsonValue
  | .unitCountMismatch expected _ | .processNameCountMismatch _ expected _ => some (.nat expected)
  | .pidCountMismatch _ _ expected _ => some (.string expected)
  | _ => none

def actual? : Error → Option JsonValue
  | .unitCountMismatch _ actual | .processNameCountMismatch _ _ actual
  | .pidCountMismatch _ _ _ actual => some (.nat actual)
  | _ => none

-- The fact as the failure has it, if it has one of the kind.
def fact? (e : Error) : Fact → Option JsonValue
  | .unit => e.unit?.map .string
  | .process => e.process?.map .string
  | .command => e.command?.map .string
  | .expected => e.expected?
  | .actual => e.actual?

end Error

namespace ErrorReport

open Error

-- The facts that a report passes over.
inductive Drops : Error → Fact → Prop
  | unitOfCount {unit : String} {expected actual : Nat} :
    Drops (.processNameCountMismatch unit expected actual) .unit
  | process {unit process : String} : Drops (.processNameMismatch unit process) .process
  | unitOfAction {unit action message : String} : Drops (.actionFailed unit action message) .unit

variable {e : Error} {f : Fact}

theorem find?_context (e : Error) (key : String) :
    (ofError e).context.find? key = (contextOf e).reverse.lookup key :=
  NameMap.find?_ofList _ _

theorem Drops.absent (h : Drops e f) :
    e.fact? f ≠ none ∧ (ofError e).context.find? f.key = none := by
  rw [find?_context]
  cases h <;> exact ⟨nofun, rfl⟩

theorem find?_context_of_not_drops (h : ¬Drops e f) :
    (ofError e).context.find? f.key = e.fact? f := by
  rw [find?_context]
  cases e <;> cases f
  case processNameCountMismatch.unit => exact absurd .unitOfCount h
  case processNameMismatch.process   => exact absurd .process h
  case actionFailed.unit             => exact absurd .unitOfAction h
  all_goals rfl

-- A report has each fact of the failure, and none that the failure has not, unless it drops the
-- fact. Then there is no value under its key although the failure has one.
theorem context_keeps_iff (e : Error) (f : Fact) :
    ((ofError e).context.find? f.key = e.fact? f ↔ ¬Drops e f) ∧
      (Drops e f → e.fact? f ≠ none ∧ (ofError e).context.find? f.key = none) := by
  refine ⟨⟨fun kept drops => ?_, find?_context_of_not_drops⟩, Drops.absent⟩
  have ⟨known, absent⟩ := drops.absent
  exact known (kept ▸ absent)

theorem context_drops_process :
    let e := Error.processNameMismatch "nova/0" "nova-compute"
    e.process? = some "nova-compute" ∧ (ofError e).context.find? "process" = none :=
  ⟨rfl, rfl⟩

end ErrorReport
end RollingUpgrade
