import Mathlib
import RollingUpgrade.Juju.Reply
import RollingUpgrade.Proofs.Json.Settled
import RollingUpgrade.Proofs.Model.ExitCode

namespace RollingUpgrade

open Document

namespace CommandResult

variable {entries : List (String × Json)} {r : CommandResult}

-- How a record is read from an object: each field from the value that is given for it.
structure ReadFrom (r : CommandResult) (code stdout stderr : Option Json) : Prop where
  code : orElse "0" code? code = some r.code
  stdout : orElse "" string? stdout = some r.stdout
  stderr : orElse "" string? stderr = some r.stderr

theorem readFrom_of_ofJson? (h : ofJson? (.object entries) = some r) :
    ∃ code stdout stderr, field? codeNames entries = some code ∧
      field? stdoutNames entries = some stdout ∧ field? stderrNames entries = some stderr ∧
      r.ReadFrom code stdout stderr := by
  obtain ⟨fields, hf, h⟩ := Option.bind_eq_some_iff.mp h
  have hf : [codeNames, stdoutNames, stderrNames].mapM (field? · entries) = some fields := hf
  simp only [List.mapM_cons, List.mapM_nil, Option.bind_eq_bind, Option.bind_eq_some_iff,
    Option.pure_def, Option.some.injEq] at hf
  obtain ⟨code, hc, _, ⟨stdout, ho, _, ⟨stderr, he, _, rfl, rfl⟩, rfl⟩, rfl⟩ := hf
  simp only [Option.bind_eq_bind, Option.bind_eq_some_iff, Option.pure_def,
    Option.some.injEq] at h
  obtain ⟨_, hcode, _, hstdout, _, hstderr, rfl⟩ := h
  exact ⟨code, stdout, stderr, hc, ho, he, hcode, hstdout, hstderr⟩

end CommandResult

namespace Juju

variable {refusal : Refusal} {text text' : String} {entries : List (String × Json)}
  {names : List String} {j v w : Json} {r r' : CommandResult}

-- The result that the fields of a unit tell of.
def resultOf (fields : Json) : CommandResult where
  code := codeText (firstField? fields CommandResult.codeNames)
  stdout := streamText (firstField? fields CommandResult.stdoutNames)
  stderr := streamText (firstField? fields CommandResult.stderrNames)

theorem data_eq (parsed : Json.parse text = some j) (readable : j.settle? = some v) :
    data refusal text = .ok ⟨v, Json.settle?_idem readable⟩ := by
  have settled : JsonValue.ofJson? j = some ⟨v, Json.settle?_idem readable⟩ :=
    JsonValue.ofJson?_eq_some_iff.mpr readable
  rw [data, parsed, Option.bind_some, settled]

theorem runResult_eq (parsed : Json.parse text = some j) (readable : j.settle? = some v) :
    runResult refusal text = runResultOf v := by
  rw [runResult, data_eq parsed readable]
  rfl

-- The fields of a result may stand a level deeper.
theorem runResultOf_eq {entry : Json} (h : unitEntry? v = some entry) :
    runResultOf v = .ok (resultOf ((entry.get? "results").getD entry)) := by
  rw [runResultOf, h]
  rfl

theorem runResultOf_eq_of_bare {entry : Json} (h : unitEntry? v = some entry)
    (bare : entry.get? "results" = none) : runResultOf v = .ok (resultOf entry) := by
  rw [runResultOf_eq h, bare]
  rfl

theorem runResult_listed (parsed : Json.parse text = some (.array [j]))
    (readable : j.settle? = some v) (bare : v.get? "results" = none) :
    runResult refusal text = .ok (resultOf v) := by
  have listed : (Json.array [j]).settle? = some (.array [v]) := by
    simp [Json.settle?, Json.settleItems?, readable]
  rw [runResult_eq parsed listed, runResultOf_eq_of_bare rfl bare]

theorem firstField?_of_absent (readable : (Json.object entries).settle? = some v)
    (h : field? names entries = some none) : firstField? v names = none := by
  refine List.findSome?_eq_none_iff.mpr fun name known => ?_
  refine (Json.get?_settled_eq_none_iff readable).mpr fun e mem same => ?_
  exact field?_eq_none_iff.mp h e mem (same ▸ known)

theorem firstField?_of_present (readable : (Json.object entries).settle? = some v)
    (h : field? names entries = some (some j)) :
    ∃ w, j.settle? = some w ∧ firstField? v names = some w := by
  have ⟨⟨name, _⟩, mem, known, rfl⟩ := exists_mem_of_field? h
  have ⟨w, given⟩ := Json.exists_get?_settled readable mem
  cases found : firstField? v names
  case none =>
    have absent := List.findSome?_eq_none_iff.mp found name known
    cases absent.symm.trans given
  case some w' =>
    have ⟨name', known', given'⟩ := List.exists_of_findSome?_eq_some found
    have ⟨j', hj', mem'⟩ := Json.get?_settled readable given'
    have same := value_of_field? h mem' known'
    exact ⟨w', same ▸ hj', rfl⟩

theorem streamText_firstField? {stream : Option Json} {s : String}
    (readable : (Json.object entries).settle? = some v) (h : field? names entries = some stream)
    (read : orElse "" string? stream = some s) : streamText (firstField? v names) = s := by
  cases stream
  case none =>
    rw [firstField?_of_absent readable h]
    exact Option.some.inj read
  case some j =>
    have ⟨w, settled, found⟩ := firstField?_of_present readable h
    cases j
    case string => cases settled; rw [found]; exact Option.some.inj read
    all_goals nomatch read

theorem exitCode_of_isCode {code : Option Json} (readable : (Json.object entries).settle? = some v)
    (h : field? CommandResult.codeNames entries = some code)
    (read : orElse "0" CommandResult.code? code = some r.code)
    (known : ∀ j ∈ code, CommandResult.IsCode j) : (resultOf v).exitCode = r.exitCode := by
  have zero (h : r.code = "0") (h' : (resultOf v).code = "") :
      (resultOf v).exitCode = r.exitCode := by
    rw [CommandResult.exitCode, CommandResult.exitCode, h, h']
    rfl
  cases code
  case none =>
    refine zero (Option.some.inj read).symm ?_
    rw [resultOf, firstField?_of_absent readable h]
    rfl
  case some j =>
    obtain ⟨w, settled, found⟩ := firstField?_of_present readable h
    have isCode := known j rfl
    have code_eq : (resultOf v).code = codeText (some w) := congrArg codeText found
    obtain ⟨w', settled', text⟩ := Option.map_eq_some_iff.mp read
    cases settled.symm.trans settled'
    cases j
    case null   => cases settled; exact zero text.symm code_eq
    case string => cases settled; exact CommandResult.exitCode_congr (code_eq.trans text)
    case number => cases settled; exact CommandResult.exitCode_congr (code_eq.trans text)
    all_goals exact False.elim isCode

theorem exitCode_of_not_isCode (readable : (Json.object entries).settle? = some v)
    (h : field? CommandResult.codeNames entries = some (some j))
    (read : CommandResult.code? j = some r.code) (odd : ¬CommandResult.IsCode j) :
    r.Unparsable ∧ (resultOf v).exitCode = 0 := by
  have ⟨w, settled, found⟩ := firstField?_of_present readable h
  have odd : ¬CommandResult.IsCode w := mt (CommandResult.isCode_settled settled).mp odd
  have code_eq : (resultOf v).code = codeText (some w) := congrArg codeText found
  obtain ⟨w', settled', text⟩ := Option.map_eq_some_iff.mp read
  cases settled.symm.trans settled'
  constructor
  · refine CommandResult.unparsable_of_not_isCode odd ?_
    cases w
    case null | string => exact absurd trivial odd
    all_goals exact text.symm
  · have blank : (resultOf v).code = "" := by
      cases w
      case number | string => exact absurd trivial odd
      all_goals exact code_eq
    rw [CommandResult.exitCode, blank]
    rfl

-- A result in a list is read like a record, save that a code that is neither a text nor a number
-- nor null is taken for no code. The record has it for a failure, the list for a success.
theorem runResult_agrees_with_record_iff
    (parsed : Json.parse text = some (.array [.object entries]))
    (readable : ((Json.object entries).settle?).isSome) (bare : ∀ e ∈ entries, e.1 ≠ "results")
    (decoded : CommandResult.ofJson? (.object entries) = some r) :
    ∃ r', runResult refusal text = .ok r' ∧ r'.stdout = r.stdout ∧ r'.stderr = r.stderr ∧
      (r'.exitCode = r.exitCode ↔
        ∀ e ∈ entries, e.1 ∈ CommandResult.codeNames → CommandResult.IsCode e.2) ∧
      (∀ e ∈ entries, e.1 ∈ CommandResult.codeNames → ¬CommandResult.IsCode e.2 →
        r.exitCode = 1 ∧ r'.exitCode = 0) ∧
      ((∀ e ∈ entries, e.1 ∈ CommandResult.codeNames → CommandResult.IsCode e.2) →
        r.Unparsable → r.exitCode = 1 ∧ r'.exitCode = 1) := by
  obtain ⟨v, readable⟩ := Option.isSome_iff_exists.mp readable
  obtain ⟨code, stdout, stderr, hc, ho, he, read⟩ := CommandResult.readFrom_of_ofJson? decoded
  have alike (known : ∀ e ∈ entries, e.1 ∈ CommandResult.codeNames → CommandResult.IsCode e.2) :
      (resultOf v).exitCode = r.exitCode := by
    refine exitCode_of_isCode readable hc read.code fun j hj => ?_
    cases hj
    have ⟨e, mem, spelled, given⟩ := exists_mem_of_field? hc
    exact given ▸ known e mem spelled
  have apart {e : String × Json} (mem : e ∈ entries) (spelled : e.1 ∈ CommandResult.codeNames)
      (odd : ¬CommandResult.IsCode e.2) : r.exitCode = 1 ∧ (resultOf v).exitCode = 0 := by
    cases code
    case none   => exact absurd spelled (field?_eq_none_iff.mp hc e mem)
    case some j =>
      have given : e.2 = j := value_of_field? hc mem spelled
      have ⟨unparsable, zero⟩ := exitCode_of_not_isCode readable hc read.code (given ▸ odd)
      exact ⟨unparsable.exitCode, zero⟩
  have plain := (Json.get?_settled_eq_none_iff readable).mpr bare
  refine ⟨resultOf v, runResult_listed parsed readable plain, ?stdout, ?stderr, ⟨?only, alike⟩,
    fun e => apart, fun known unparsable => ?unparsable⟩
  case stdout => exact streamText_firstField? readable ho read.stdout
  case stderr => exact streamText_firstField? readable he read.stderr
  case only =>
    refine fun same e mem spelled => Classical.byContradiction fun odd => ?_
    have ⟨one, zero⟩ := apart mem spelled odd
    rw [one, zero] at same
    cases same
  case unparsable =>
    have one := unparsable.exitCode
    exact ⟨one, (alike known).trans one⟩

-- A code under another of its names.
theorem runResult_agrees_with_record_code :
    ∃ r, runResult wordless "[\x7b\"return-code\":\"2\"\x7d]" = .ok r ∧ r.exitCode = 2 ∧
      r.stdout = "" := by
  have parsed : Json.parse "[\x7b\"return-code\":\"2\"\x7d]" =
      some (.array [.object [("return-code", .string "2")]]) := by cbv
  obtain ⟨r, read, stdout, _, same, _⟩ := runResult_agrees_with_record_iff (r := ⟨"2", "", ""⟩)
    parsed (by cbv) (by decide) (by cbv)
  have code : r.exitCode = 2 := (same.mpr (by simp [CommandResult.IsCode])).trans rfl
  exact ⟨r, read, code, stdout⟩

-- The code true: a failure for the record, a success for the list.
theorem runResult_takes_true_for_success :
    Json.parse "[\x7b\"Code\":true\x7d]" = some (.array [.object [("Code", .bool true)]]) ∧
    (∃ r, CommandResult.ofJson? (.object [("Code", .bool true)]) = some r ∧ r.exitCode = 1) ∧
    ∃ r, runResult wordless "[\x7b\"Code\":true\x7d]" = .ok r ∧ r.exitCode = 0 :=
  ⟨by cbv, ⟨⟨"true", "", ""⟩, by cbv, rfl⟩, ⟨"", "", ""⟩, by cbv, rfl⟩

-- The part of an object that a reply without a list is read from.
theorem unitEntry?_object_of_mem {fields : List (String × Json)} {e : String × Json}
    (mem : e ∈ fields) (told : e.1 = "Stdout" ∨ e.1 = "results") :
    unitEntry? (.object fields) = some (.object fields) := by
  have found : (fields.any fun e => e.1 == "Stdout" || e.1 == "results") = true :=
    List.any_eq_true.mpr ⟨e, mem, by simpa using told⟩
  rw [ unitEntry?, if_pos found]

theorem unitEntry?_object_of_stdout {fields : List (String × Json)}
    (h : ∃ e ∈ fields, e.1 = "Stdout") : unitEntry? (.object fields) = some (.object fields) := by
  have ⟨_, mem, same⟩ := h
  exact unitEntry?_object_of_mem mem (.inl same)

theorem unitEntry?_object_of_ne {fields : List (String × Json)} (h : ∀ e ∈ fields, e.1 ≠ "Stdout")
    (bare : ∀ e ∈ fields, e.1 ≠ "results") :
    unitEntry? (.object fields) = fields.head?.map (·.2) := by
  have absent : (fields.any fun e => e.1 == "Stdout" || e.1 == "results") ≠ true := by
    rw [ne_eq, List.any_eq_true]
    rintro ⟨e, mem, same⟩
    simp [h e mem, bare e mem] at same
  rw [ unitEntry?, if_neg absent]

theorem get?_of_not_object (h : ∀ fields, v ≠ .object fields) (key : String) :
    v.get? key = none := by
  cases v
  case object fields => exact absurd rfl (h fields)
  all_goals rfl

theorem resultOf_of_not_object (h : ∀ fields, v ≠ .object fields) : resultOf v = ⟨"", "", ""⟩ := by
  have nothing (names : List String) : firstField? v names = none :=
    List.findSome?_eq_none_iff.mpr fun name _ => get?_of_not_object h name
  rw [resultOf, nothing, nothing, nothing]
  rfl

-- A result by itself is read like one in a list if it has the key Stdout. Without this key it is
-- taken for a map from units to their results, so that its first value counts for the result: if
-- this is no object, as where the least name is that of a code, the command has succeeded.
theorem runResult_unlisted {fields : List (String × Json)}
    (parsed : Json.parse text = some (.object entries))
    (listed : Json.parse text' = some (.array [.object entries]))
    (readable : (Json.object entries).settle? = some (.object fields))
    (bare : ∀ e ∈ entries, e.1 ≠ "results")
    (told : ∃ e ∈ entries, e.1 ∈
      CommandResult.codeNames ++ CommandResult.stdoutNames ++ CommandResult.stderrNames) :
    ∃ r r', runResult refusal text = .ok r ∧ runResult refusal text' = .ok r' ∧
      ((∃ e ∈ entries, e.1 = "Stdout") → r = r') ∧
      ((∀ e ∈ entries, e.1 ≠ "Stdout") → ∃ name first rest, fields = (name, first) :: rest ∧
        r = resultOf ((first.get? "results").getD first) ∧
        ((∀ inner, first ≠ .object inner) → r = ⟨"", "", ""⟩ ∧ r.exitCode = 0)) := by
  have same_keys {key : String} : (∀ e ∈ fields, e.1 ≠ key) ↔ ∀ e ∈ entries, e.1 ≠ key :=
    Json.forall_ne_settled_iff readable
  have plain := (Json.get?_settled_eq_none_iff readable).mpr bare
  have read' : runResult refusal text' = .ok (resultOf (.object fields)) :=
    runResult_listed listed readable plain
  have read : runResult refusal text = runResultOf (.object fields) := runResult_eq parsed readable
  by_cases known : ∃ e ∈ fields, e.1 = "Stdout"
  case pos =>
    rw [runResultOf_eq_of_bare (unitEntry?_object_of_stdout known) plain] at read
    refine ⟨_, _, read, read', fun _ => rfl, fun absent => ?_⟩
    have ⟨e, mem, eq⟩ := known
    exact absurd eq (same_keys.mpr absent e mem)
  case neg =>
    have absent : ∀ e ∈ fields, e.1 ≠ "Stdout" := fun e mem eq => known ⟨e, mem, eq⟩
    cases fields
    case nil =>
      have ⟨e, mem, _⟩ := told
      exact absurd rfl (same_keys.mp nofun e mem)
    case cons e rest =>
      have first := unitEntry?_object_of_ne absent (same_keys.mpr bare)
      rw [runResultOf_eq first] at read
      refine ⟨_, _, read, read', fun present => ?stdout,
        fun _ => ⟨e.1, e.2, rest, rfl, rfl, fun leaf => ?leaf⟩⟩
      case stdout =>
        have ⟨e, mem, eq⟩ := present
        exact absurd eq (same_keys.mp absent e mem)
      case leaf =>
        rw [get?_of_not_object leaf, Option.getD_none, resultOf_of_not_object leaf]
        exact ⟨rfl, rfl⟩

-- A result that has the key Stdout, and so is read the same by itself.
theorem runResult_unlisted_stdout :
    ∃ r, runResult wordless "\x7b\"Stdout\":\"x\"\x7d" = .ok r ∧
      runResult wordless "[\x7b\"Stdout\":\"x\"\x7d]" = .ok r := by
  have parsed : Json.parse "\x7b\"Stdout\":\"x\"\x7d" =
      some (.object [("Stdout", .string "x")]) := by cbv
  have listed : Json.parse "[\x7b\"Stdout\":\"x\"\x7d]" =
      some (.array [.object [("Stdout", .string "x")]]) := by cbv
  have readable : (Json.object [("Stdout", .string "x")]).settle? =
      some (.object [("Stdout", .string "x")]) := by cbv
  obtain ⟨r, r', read, read', same, _⟩ :=
    runResult_unlisted parsed listed readable (by decide) (by decide)
  exact ⟨r, read, same (by decide) ▸ read'⟩

-- Code 1 under one of its names: a failure in a list, a success by itself.
theorem runResult_takes_unlisted_failure_for_success :
    (∃ r, runResult wordless "\x7b\"ReturnCode\":\"1\"\x7d" = .ok r ∧ r.exitCode = 0) ∧
    ∃ r, runResult wordless "[\x7b\"ReturnCode\":\"1\"\x7d]" = .ok r ∧ r.exitCode = 1 :=
  ⟨⟨⟨"", "", ""⟩, by cbv, rfl⟩, ⟨"1", "", ""⟩, by cbv, rfl⟩

end Juju
end RollingUpgrade
