import RollingUpgrade.Error.Report
import RollingUpgrade.Model.Codec
import RollingUpgrade.Model.Outcome
import RollingUpgrade.Proofs.Json.Settled
import RollingUpgrade.Proofs.Rendition
import RollingUpgrade.Proofs.Spelling

namespace RollingUpgrade

open Document

-- The record is read back from the tree that is written for it, and from this tree as data.
structure ReadBack {α : Type} (encode : α → Json) (decode? : Json → Option α) (a : α) : Prop where
  tree : decode? (encode a) = some a
  data : ∃ v : JsonValue, JsonValue.ofJson? (encode a) = some v ∧ decode? v.json = some a

-- As data an object has the same entries in the order of their keys.
theorem Json.exists_data {entries : List (String × Json)} (distinct : (entries.map (·.1)).Nodup)
    (settled : ∀ e ∈ entries, e.2.settle? = some e.2) :
    ∃ (v : JsonValue) (es : List (String × Json)),
      JsonValue.ofJson? (.object entries) = some v ∧ v.json = .object es ∧ es.Perm entries := by
  have data : (Json.object entries).settle? = some (.object (NameMap.ofList entries).toList) :=
    settle?_object_iff.mpr ⟨entries, settleEntries?_eq_some_self.mpr settled, rfl⟩
  exact ⟨⟨_, settle?_idem data⟩, _, JsonValue.ofJson?_eq_some_iff.mpr data, rfl,
    NameMap.perm_toList_ofList distinct⟩

namespace Field

variable {fields : List (Field Json)}

theorem keys_entries_sublist (fields : List (Field Json)) :
    ((entries fields).map (·.1)).Sublist (fields.map (·.name)) := by
  induction fields
  case nil => exact .slnil
  case cons f fields hi =>
    rw [entries, List.flatMap_cons, List.map_append, List.map_cons]
    cases f.value?
    case none   => exact hi.cons _
    case some j => exact hi.cons_cons _

-- As data a record has its fields in the order of their names.
theorem record_settled (unlike : (fields.map (·.name)).Nodup)
    (settled : ∀ f ∈ fields, ∀ j ∈ f.value?, j.settle? = some j)
    (self : ∀ f ∈ fields, ∀ j ∈ f.value?, f.rendition j j) :
    ∃ v : JsonValue, JsonValue.ofJson? (.object (entries fields)) = some v ∧
      Rendition.record (shape fields) (.object (entries fields)) v.json := by
  have settled : ∀ e ∈ entries fields, e.2.settle? = some e.2 := by
    intro e he
    have ⟨f, hf, he⟩ := List.mem_flatMap.mp he
    obtain ⟨j, hj, rfl⟩ := List.mem_map.mp he
    exact settled f hf j (Option.mem_toList.mp hj)
  have distinct := unlike.sublist (keys_entries_sublist fields)
  have ⟨v, es, data, object, perm⟩ := Json.exists_data distinct settled
  exact ⟨v, data, Rendition.record_of_perm (record_self fields self) rfl
    (object ▸ rfl) (object ▸ rfl) perm⟩

end Field

namespace ReadBack

-- It is enough to read the record from everything that renders it.
theorem of_fields {α : Type} {encode : α → Json} {decode? : Json → Option α} {a : α}
    {fields : List (Field Json)} (written : encode a = .object (Field.entries fields))
    (unlike : (fields.map (·.name)).Nodup)
    (settled : ∀ f ∈ fields, ∀ j ∈ f.value?, j.settle? = some j)
    (self : ∀ f ∈ fields, ∀ j ∈ f.value?, f.rendition j j)
    (reads : ReadAs (.record (Field.shape fields)) decode? (encode a) a) :
    ReadBack encode decode? a := by
  have ⟨v, data, rendered⟩ := Field.record_settled unlike settled self
  rw [← written] at data rendered
  exact ⟨reads _ (written ▸ Field.record_self fields self), v, data, reads _ rendered⟩

end ReadBack

-- A record that is no list is read without regard to how many fields a list would have.
theorem Document.fields?_of_record {δ : Type} [Document δ] {spellings : List (List String)}
    {fields : List (String × Rendition δ)} {j : Json} {d : δ} (h : Rendition.record fields j d)
    (atLeast : Nat) : fields? spellings atLeast d = fields? spellings 0 d := by
  have ⟨_, _, _, _, _, tuple, _⟩ := h
  rw [fields?, fields?, tuple]

theorem ReadAs.required {α δ : Type} {r : Rendition δ} {decode? : δ → Option α} {j : Json} {a : α}
    {d? : Option δ} (h : ReadAs r decode? j a) (given : Option.Rel r (some j) d?) :
    Document.required decode? d? = some a := by
  cases given
  case some hd => exact h _ hd

theorem Reads.value : Reads .exact JsonValue.ofJson? JsonValue.json := by
  rintro v _ rfl
  exact v.ofJson?_json

namespace ActionResult

def fields (r : ActionResult) : List (Field Json) :=
  [⟨"status", .exact, some (.string r.status)⟩,
    ⟨"message", .exact, if r.message.isEmpty then none else some (.string r.message)⟩,
    ⟨"results", .map .exact, some (.ofMap JsonValue.json r.results)⟩]

theorem toJson_eq (r : ActionResult) : r.toJson = .object (Field.entries r.fields) := by
  rw [toJson, fields]
  split <;> rfl

theorem reads_fields (r : ActionResult) :
    ReadAs (.record (Field.shape r.fields)) ofJson? r.toJson r := by
  intro d h
  rw [toJson_eq] at h
  have ⟨_, read, given⟩ := Field.fields?_given r.fields (by simp [fields]) h
  obtain _ | ⟨status, _ | ⟨message, _ | ⟨results, ⟨⟩⟩⟩⟩ := given
  have blank : (if r.message.isEmpty then "" else r.message) = r.message := by
    split
    case isTrue h => exact (String.isEmpty_iff.mp h).symm
    case isFalse  => rfl
  dsimp only [fields, List.map] at read
  simp only [ofJson?, read, Option.bind_eq_bind, Option.bind_some,
    (Reads.string _).orElse "" status, (Reads.string _).orElse_unless "" message, blank,
    (Reads.value.map _).orElse .empty results]
  rfl

theorem readBack (r : ActionResult) : ReadBack toJson ofJson? r := by
  have settled : (Json.ofMap JsonValue.json r.results).settle? = _ :=
    Json.settle?_ofMap JsonValue.settled
  apply ReadBack.of_fields r.toJson_eq
  case unlike  => simp [fields]
  case settled => simp [fields, Json.settle?, settled]
  case self    => simp [fields, Rendition.exact, Rendition.map_self]
  case reads   => exact r.reads_fields

end ActionResult

namespace PlacedUnit

def fields (u : PlacedUnit) : List (Field Json) :=
  [⟨"entity_id", .exact, some (.string u.id)⟩,
    ⟨"application", .exact, some (.string u.application)⟩,
    ⟨"machine", .exact, some (.string u.machine)⟩,
    ⟨"public_address", .exact, some (u.publicAddress.elim .null .string)⟩]

theorem reads_fields (u : PlacedUnit) :
    ReadAs (.record (Field.shape u.fields)) ofJson? u.toJson u := by
  intro d h
  have ⟨_, read, given⟩ := Field.fields?_given u.fields (by simp [fields]) h
  obtain _ | ⟨id, _ | ⟨application, _ | ⟨machine, _ | ⟨address, ⟨⟩⟩⟩⟩⟩ := given
  dsimp only [fields, List.map] at read
  simp only [ofJson?, fields?_of_record h, read, Option.bind_eq_bind, Option.bind_some,
    (Reads.string _).required id, (Reads.string _).required application,
    (Reads.string _).required machine, (Rendition.Legible.exact.optional _).orElse none address]
  rfl

theorem readBack (u : PlacedUnit) : ReadBack toJson ofJson? u := by
  have written : u.toJson = .object (Field.entries u.fields) := rfl
  apply ReadBack.of_fields written
  case unlike  => simp [fields]
  case settled => cases h : u.publicAddress <;> simp [fields, Json.settle?, h]
  case self    => simp [fields, Rendition.exact]
  case reads   => exact u.reads_fields

end PlacedUnit

namespace ErrorReport

def fields (r : ErrorReport) : List (Field Json) :=
  [⟨"code", .exact, some (.nat r.code)⟩, ⟨"category", .exact, some (.string r.category.name)⟩,
    ⟨"message", .exact, some (.string r.message)⟩,
    ⟨"context", .map .exact,
      if r.context.isEmpty then none else some (.ofMap JsonValue.json r.context)⟩]

theorem toJson_eq (r : ErrorReport) : r.toJson = .object (Field.entries r.fields) := by
  rw [toJson, fields]
  split <;> rfl

theorem reads_code {n : Nat} (h : fitsUnsigned 32 n) : ReadAs .exact code? (.nat n) n := by
  rintro _ rfl
  have ⟨pos, small⟩ := fitsUnsigned_iff.mp h
  have wide : fitsUnsigned 64 n := fitsUnsigned_iff.mpr ⟨pos, Int.lt_trans small (by decide)⟩
  simp [code?, (Rendition.Legible.exact.count n wide) _ rfl, h]

theorem reads_category (c : Error.Category) : ReadAs .exact category? (.string c.name) c := by
  rintro _ rfl
  exact c.ofName?_name

theorem reads_fields {r : ErrorReport} (h : fitsUnsigned 32 r.code) :
    ReadAs (.record (Field.shape r.fields)) ofJson? r.toJson r := by
  intro d rendered
  rw [toJson_eq] at rendered
  have ⟨_, read, given⟩ := Field.fields?_given r.fields (by simp [fields]) rendered
  obtain _ | ⟨code, _ | ⟨category, _ | ⟨message, _ | ⟨context, ⟨⟩⟩⟩⟩⟩ := given
  have blank : (if r.context.isEmpty then .empty else r.context) = r.context := by
    split
    case isTrue h => exact (NameMap.ext (List.isEmpty_iff.mp h)).symm
    case isFalse  => rfl
  dsimp only [fields, List.map] at read
  simp only [ofJson?, fields?_of_record rendered, read, Option.bind_eq_bind, Option.bind_some,
    (reads_code h).required code, (reads_category _).required category,
    (Reads.string _).required message, (Reads.value.map _).orElse_unless .empty context, blank]
  rfl

theorem readBack {r : ErrorReport} (h : fitsUnsigned 32 r.code) : ReadBack toJson ofJson? r := by
  have settled : (Json.ofMap JsonValue.json r.context).settle? = _ :=
    Json.settle?_ofMap JsonValue.settled
  apply ReadBack.of_fields r.toJson_eq
  case unlike  => simp [fields]
  case settled => simp [fields, Json.settle?, Json.nat, settled]
  case self    => simp [fields, Rendition.exact, Rendition.map_self]
  case reads   => exact reads_fields h

-- The report of a failure with entries added to its context one after the other. Values that cannot
-- be written are among them.
def extended (e : Error) (added : List (String × Option JsonValue)) : ErrorReport :=
  added.foldl (fun r entry => r.withContext entry.1 entry.2) (ofError e)

-- What entries make of the report of a failure. They change nothing but its context. There the last
-- value counts that was added under a key and can be written.
structure Extends (e : Error) (added : List (String × Option JsonValue)) (r : ErrorReport) :
    Prop where
  code : r.code = e.code
  category : r.category = e.category
  message : r.message = e.message
  last : ∀ before key value later, added = before ++ (key, some value) :: later →
    (∀ v, (key, some v) ∉ later) → r.context.find? key = some value
  kept : ∀ key, (∀ v, (key, some v) ∉ added) →
    r.context.find? key = (ofError e).context.find? key

def writable (added : List (String × Option JsonValue)) : List (String × JsonValue) :=
  added.filterMap fun entry => entry.2.map (entry.1, ·)

theorem mem_writable {added : List (String × Option JsonValue)} {key : String} {v : JsonValue} :
    (key, v) ∈ writable added ↔ (key, some v) ∈ added := by
  simp [writable]

theorem foldl_withContext (r : ErrorReport) (added : List (String × Option JsonValue)) :
    added.foldl (fun r entry => r.withContext entry.1 entry.2) r =
      { r with context := (writable added).foldl (fun m e => m.insert e.1 e.2) r.context } := by
  induction added generalizing r
  case nil => rfl
  case cons entry added hi =>
    rw [List.foldl_cons, hi]
    cases h : entry.2
    case none   => simp [withContext, writable, h]
    case some v => simp [withContext, writable, h]

theorem lookup_writable_of_last {before later : List (String × Option JsonValue)} {key : String}
    {value : JsonValue} (others : ∀ v, (key, some v) ∉ later) :
    (writable (before ++ (key, some value) :: later)).reverse.lookup key = some value := by
  refine List.lookup_eq_some_iff.mpr
    ⟨(writable later).reverse, (writable before).reverse, by simp [writable], fun e he => ?_⟩
  refine bne_iff_ne.mpr fun same => others e.2 ?_
  rw [same, ← mem_writable]
  exact List.mem_reverse.mp he

theorem lookup_writable_of_none {added : List (String × Option JsonValue)} {key : String}
    (none : ∀ v, (key, some v) ∉ added) : (writable added).reverse.lookup key = .none := by
  refine List.lookup_eq_none_iff.mpr fun e he => bne_iff_ne.mpr fun same => none e.2 ?_
  rw [same, ← mem_writable]
  exact List.mem_reverse.mp he

theorem extended_extends (e : Error) (added : List (String × Option JsonValue)) :
    Extends e added (extended e added) := by
  rw [extended, foldl_withContext]
  refine ⟨rfl, rfl, rfl, ?last, ?kept⟩
  case last =>
    intro before key value later split others
    rw [NameMap.find?_foldl_insert, split, lookup_writable_of_last others]
    rfl
  case kept =>
    intro key none
    rw [NameMap.find?_foldl_insert, lookup_writable_of_none none]
    rfl

theorem fitsUnsigned_code (e : Error) : fitsUnsigned 32 e.code := by
  have small : e.code < 100 := by cases e <;> simp [Error.code]
  have limit : 100 < twoTo 32 := by decide
  exact fitsUnsigned_iff.mpr ⟨Int.natCast_nonneg _, Int.ofNat_lt.mpr (Nat.lt_trans small limit)⟩

end ErrorReport

namespace CommandResult

def fieldNames : List (List String) := [codeNames, stdoutNames, stderrNames]

def entries (r : CommandResult) : List (String × Json) :=
  [("Code", .string r.code), ("Stdout", .string r.stdout), ("Stderr", .string r.stderr)]

theorem ofJson?_respelled {entries entries' : List (String × Json)}
    (h : Respelled fieldNames entries entries') :
    ofJson? (.object entries) = ofJson? (.object entries') := by
  have same : fields? fieldNames 0 (Json.object entries) =
      fields? fieldNames 0 (Json.object entries') := mapM_field?_respelled (by decide) h
  rw [fieldNames] at same
  rw [ofJson?, ofJson?, same]

theorem ofJson?_of_twice {entries : List (String × Json)} {names : List String}
    {e f : String × Json} (mem : names ∈ fieldNames) (twice : [e, f].Sublist entries)
    (he : e.1 ∈ names) (hf : f.1 ∈ names) : ofJson? (.object entries) = none := by
  have none : fields? fieldNames 0 (Json.object entries) = none :=
    mapM_field?_of_twice mem twice he hf
  rw [fieldNames] at none
  rw [ofJson?, none]
  rfl

theorem readBack (r : CommandResult) : ReadBack toJson ofJson? r := by
  have distinct : (r.entries.map (·.1)).Nodup := by simp [entries]
  have settled : ∀ e ∈ r.entries, e.2.settle? = some e.2 := by simp [entries, Json.settle?]
  have ⟨v, es, data, object, perm⟩ := Json.exists_data distinct settled
  refine ⟨rfl, v, data, ?_⟩
  rw [object, ofJson?_respelled (.of_perm perm)]
  rfl

end CommandResult

-- Each record is read back as it was written, and so is the report of a failure to which any
-- context was added. What is added changes neither the code nor the category nor the text of the
-- report, and what cannot be written changes nothing. The result of a command is read whatever
-- spellings its fields have and in whatever order they stand, but no field may be given twice.
theorem records_read_back :
    (∀ r : CommandResult, ReadBack CommandResult.toJson CommandResult.ofJson? r) ∧
    (∀ r : ActionResult, ReadBack ActionResult.toJson ActionResult.ofJson? r) ∧
    (∀ u : PlacedUnit, ReadBack PlacedUnit.toJson PlacedUnit.ofJson? u) ∧
    (∀ e added, let r := ErrorReport.extended e added
      ReadBack ErrorReport.toJson ErrorReport.ofJson? r ∧ ErrorReport.Extends e added r ∧
        ∀ key, r.withContext key none = r) ∧
    (∀ (r : CommandResult) (entries : List (String × Json)),
      Respelled CommandResult.fieldNames r.entries entries →
      CommandResult.ofJson? (.object entries) = some r) ∧
    (∀ entries entries' : List (String × Json),
      Respelled CommandResult.fieldNames entries entries' →
      CommandResult.ofJson? (.object entries) = CommandResult.ofJson? (.object entries')) ∧
    ∀ (entries : List (String × Json)) (names : List String) (e f : String × Json),
      names ∈ CommandResult.fieldNames → [e, f].Sublist entries → e.1 ∈ names → f.1 ∈ names →
      CommandResult.ofJson? (.object entries) = none := by
  refine ⟨CommandResult.readBack, ActionResult.readBack, PlacedUnit.readBack, fun e added => ?_,
    fun r entries h => ?_, fun _ _ => CommandResult.ofJson?_respelled,
    fun _ _ _ _ => CommandResult.ofJson?_of_twice⟩
  · have extends' := ErrorReport.extended_extends e added
    have fits := extends'.code ▸ ErrorReport.fitsUnsigned_code e
    exact ⟨ErrorReport.readBack fits, extends', fun _ => rfl⟩
  · exact (CommandResult.ofJson?_respelled h).symm.trans r.readBack.tree

-- Fields in another order under other spellings, and a field that is given twice.
theorem records_read_back_spellings :
    let other := [("stdout", .string "up"), ("return-code", .string "0"), ("Stderr", .string "")]
    let twice := [("Code", .string "0"), ("ReturnCode", .string "0")]
    CommandResult.ofJson? (.object other) = some ⟨"0", "up", ""⟩ ∧
    CommandResult.ofJson? (.object twice) = none := by
  have ⟨_, _, _, _, read, _, rejected⟩ := records_read_back
  constructor
  · refine read ⟨"0", "up", ""⟩ _ (.intro (.swap _ _ _) ?same)
    refine .cons ?out (.cons ?code (.cons ?err .nil))
    case out  => exact ⟨.inr ⟨CommandResult.stdoutNames, by decide, by decide, by decide⟩, rfl⟩
    case code => exact ⟨.inr ⟨CommandResult.codeNames, by decide, by decide, by decide⟩, rfl⟩
    case err  => exact ⟨.inl rfl, rfl⟩
  · exact rejected _ CommandResult.codeNames _ _ (by decide) (.refl _) (by decide) (by decide)

end RollingUpgrade
