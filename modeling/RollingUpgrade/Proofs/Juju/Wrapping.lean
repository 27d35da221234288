import RollingUpgrade.Proofs.Juju.RunReply
import RollingUpgrade.Proofs.NameMap

namespace RollingUpgrade.Juju

def object (m : NameMap Json) : Json := .object m.toList

-- The keys that a result is read from.
def toldKeys : List String :=
  "results" ::
    (CommandResult.codeNames ++ CommandResult.stdoutNames ++ CommandResult.stderrNames)

-- Keys under which nothing of a result is told.
def Aside (others : NameMap Json) : Prop := ∀ key ∈ others, key ∉ toldKeys

instance (others : NameMap Json) : Decidable (Aside others) :=
  inferInstanceAs (Decidable (∀ key ∈ others.keys, key ∉ toldKeys))

-- The values that hold the fields of a result: an object of them, or one that has such an object
-- under the key results. There may be other keys beside.
inductive Holds (fields : NameMap Json) : Json → Prop
  | bare {others : NameMap Json} : Aside others → Holds fields (object (fields.overlay others))
  | nested {others beside : NameMap Json} : Aside others → Aside beside →
    Holds fields (object (beside.insert "results" (object (fields.overlay others))))

-- The replies that tell of a result: first in a list, under the name of a unit, or by itself.
inductive Tells (fields : NameMap Json) : Json → Prop
  | listed {entry : Json} {rest : List Json} : Holds fields entry →
    Tells fields (.array (entry :: rest))
  | named {unit : String} {entry : Json} : unit ≠ "Stdout" → unit ≠ "results" →
    Holds fields entry → Tells fields (.object [(unit, entry)])
  | alone {m : NameMap Json} : Holds fields (object m) → "Stdout" ∈ m ∨ "results" ∈ m →
    Tells fields (object m)

-- The replies that tell of no result.
inductive TellsNothing : Json → Prop
  | noEntries : TellsNothing (.array [])
  | noUnits : TellsNothing (.object [])
  | null : TellsNothing .null
  | bool {b : Bool} : TellsNothing (.bool b)
  | number {n : Json.Number} : TellsNothing (.number n)
  | string {s : String} : TellsNothing (.string s)

-- What fields say. Under the first of its names, each is what it is, if it has the right kind.
def said (fields : NameMap Json) : CommandResult where
  code := codeText ((fields.find? "Code").or
    ((fields.find? "ReturnCode").or (fields.find? "return-code")))
  stdout := streamText ((fields.find? "Stdout").or (fields.find? "stdout"))
  stderr := streamText ((fields.find? "Stderr").or (fields.find? "stderr"))

variable {refusal : Refusal} {fields others m : NameMap Json} {entry : Json} {key text : String}
  {v : JsonValue}

theorem get?_object (m : NameMap Json) (key : String) : (object m).get? key = m.find? key :=
  rfl

theorem firstField?_cons (j : Json) (name : String) (names : List String) :
    firstField? j (name :: names) = (j.get? name).or (firstField? j names) := by
  cases found : j.get? name <;> simp [firstField?, found]

theorem firstField?_nil (j : Json) : firstField? j [] = none :=
  rfl

theorem resultOf_object (m : NameMap Json) : resultOf (object m) = said m := by
  simp [resultOf, said, CommandResult.codeNames, CommandResult.stdoutNames,
    CommandResult.stderrNames, firstField?_cons, firstField?_nil, get?_object]

theorem Aside.find?_overlay (h : Aside others) (told : key ∈ toldKeys) :
    (fields.overlay others).find? key = fields.find? key := by
  have absent : others.find? key = none := NameMap.find?_eq_none_iff.mpr fun mem => h key mem told
  simp [NameMap.find?_overlay, absent]

theorem Aside.said_overlay (h : Aside others) : said (fields.overlay others) = said fields := by
  have same (key : String) (told : key ∈ toldKeys) :
      (fields.overlay others).find? key = fields.find? key := h.find?_overlay told
  simp [said, same "Code" (by decide), same "ReturnCode" (by decide),
    same "return-code" (by decide), same "Stdout" (by decide), same "stdout" (by decide),
    same "Stderr" (by decide), same "stderr" (by decide)]

theorem Holds.resultOf_eq (h : Holds fields entry) (plain : "results" ∉ fields) :
    resultOf ((entry.get? "results").getD entry) = said fields := by
  cases h
  case bare others aside =>
    have absent : (object (fields.overlay others)).get? "results" = none :=
      (aside.find?_overlay List.mem_cons_self).trans (NameMap.find?_eq_none_iff.mpr plain)
    rw [absent, Option.getD_none, resultOf_object, aside.said_overlay]
  case nested others beside aside _ =>
    rw [get?_object, NameMap.find?_insert, if_pos rfl, Option.getD_some, resultOf_object,
      aside.said_overlay]

theorem Tells.runResultOf_eq (h : Tells fields entry) (plain : "results" ∉ fields) :
    runResultOf entry = .ok (said fields) := by
  cases h
  case listed holds => rw [Juju.runResultOf_eq rfl, holds.resultOf_eq plain]
  case named unit entry stdout results holds =>
    have first : unitEntry? (.object [(unit, entry)]) = some entry :=
      unitEntry?_object_of_ne (by simpa) (by simpa)
    rw [Juju.runResultOf_eq first, holds.resultOf_eq plain]
  case alone m holds told =>
    have itself : unitEntry? (object m) = some (object m) := by
      have ⟨key, known, mem⟩ : ∃ key, (key = "Stdout" ∨ key = "results") ∧ key ∈ m := by
        simpa using told
      have ⟨e, found, same⟩ := List.mem_map.mp mem
      exact unitEntry?_object_of_mem found (same ▸ known)
    rw [Juju.runResultOf_eq itself, holds.resultOf_eq plain]

theorem TellsNothing.runResultOf_eq (h : TellsNothing entry) :
    runResultOf entry = .error (.client "run output has no unit results") := by
  cases h <;> rfl

theorem runResult_of_data (read : data refusal text = .ok v) :
    runResult refusal text = runResultOf v.json := by
  rw [runResult, read]
  rfl

-- The fields of a result are read the same wherever they stand. Where a reply has nothing that
-- could hold them, reading it fails.
theorem runResult_of_tells (plain : "results" ∉ fields) :
    (∀ text v, data refusal text = .ok v → Tells fields v.json →
      runResult refusal text = .ok (said fields)) ∧
      ∀ text v, data refusal text = .ok v → TellsNothing v.json →
        runResult refusal text = .error (.client "run output has no unit results") := by
  constructor
  · intro text v read told
    exact (runResult_of_data read).trans (told.runResultOf_eq plain)
  · intro text v read nothing
    exact (runResult_of_data read).trans nothing.runResultOf_eq

-- A result under the key results in the first entry of a list, with other keys around it.
theorem runResult_of_tells_nested :
    runResult wordless "[\x7b\"results\":\x7b\"Code\":\"2\",\"k\":null\x7d,\"u\":null\x7d,null]" =
      .ok ⟨"2", "", ""⟩ := by
  let fields : NameMap Json := .ofList [("Code", .string "2")]
  let others : NameMap Json := .ofList [("k", .null)]
  let beside : NameMap Json := .ofList [("u", .null)]
  let result : Json := .object [("Code", .string "2"), ("k", .null)]
  let entry : Json := .object [("results", result), ("u", .null)]
  have parsed :
      Json.parse "[\x7b\"results\":\x7b\"Code\":\"2\",\"k\":null\x7d,\"u\":null\x7d,null]" =
        some (.array [entry, .null]) := by cbv
  have readable : (Json.array [entry, .null]).settle? = some (.array [entry, .null]) := by cbv
  have wrapped : Holds fields (object (beside.insert "results" (object (fields.overlay others)))) :=
    .nested (by decide) (by decide)
  have shape : object (beside.insert "results" (object (fields.overlay others))) = entry := by cbv
  have told : Tells fields (.array [entry, .null]) := .listed (shape ▸ wrapped)
  have plain : "results" ∉ fields := by decide
  exact (runResult_of_tells plain).left _ _ (data_eq parsed readable) told

end RollingUpgrade.Juju
