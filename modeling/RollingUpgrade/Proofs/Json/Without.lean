import RollingUpgrade.Proofs.Rendition

namespace RollingUpgrade

namespace Json

-- The value at a path of keys.
def at? (j : Json) : List String → Option Json
  | [] => some j
  | key :: path => (j.get? key).bind (·.at? path)

mutual

-- The tree without the fields at some paths.
def without (removed : List String → Bool) : Json → Json
  | .object entries => .object (withoutEntries removed entries)
  | leaf => leaf
termination_by structural j => j

def withoutEntries (removed : List String → Bool) : List (String × Json) → List (String × Json)
  | [] => []
  | (key, j) :: rest =>
    if removed [key] then withoutEntries removed rest
    else (key, without (fun path => removed (key :: path)) j) :: withoutEntries removed rest
termination_by structural l => l

end

variable {removed : List String → Bool}

theorem get?_without (j : Json) (key : String) :
    (j.without removed).get? key =
      if removed [key] then none
      else (j.get? key).map (·.without fun path => removed (key :: path)) := by
  cases j
  case object entries =>
    rw [without, get?, get?]
    induction entries
    case nil => simp [withoutEntries]
    case cons e rest hi =>
      obtain ⟨name, j⟩ := e
      rw [withoutEntries]
      by_cases same : key = name
      case pos =>
        subst same
        by_cases gone : removed [key] <;> simp [gone, hi]
      case neg =>
        have other : (key == name) = false := by simpa using same
        by_cases gone : removed [name] <;> simp [gone, List.lookup_cons, other, hi]
  all_goals simp [without, get?]

@[simp]
theorem without_string (s : String) : (string s).without removed = string s := rfl

@[simp]
theorem without_bool (b : Bool) : (bool b).without removed = bool b := rfl

@[simp]
theorem without_nat (n : Nat) : (nat n).without removed = nat n := rfl

@[simp]
theorem without_strings (l : List String) : (strings l).without removed = strings l := rfl

@[simp]
theorem without_optional (o : Option String) :
    (o.elim null string).without removed = o.elim null string := by
  cases o <;> rfl

end Json

namespace Field

variable {δ : Type} {removed : List String → Bool}

-- The field in a record from which fields are removed.
def pruned (removed : List String → Bool) (f : Field δ) : Field δ where
  name := f.name
  rendition := f.rendition
  value? :=
    if removed [f.name] then none
    else f.value?.map (·.without fun path => removed (f.name :: path))

theorem without_entries (fields : List (Field δ)) :
    (Json.object (entries fields)).without removed =
      .object (entries (fields.map (pruned removed))) := by
  refine congrArg Json.object ?_
  induction fields
  case nil => rfl
  case cons f rest hi =>
    obtain ⟨name, r, value?⟩ := f
    simp only [entries] at hi
    cases value?
    case none => simp [entries, pruned, hi]
    case some =>
      by_cases gone : removed [name] <;> simp [entries, pruned, Json.withoutEntries, gone, hi]

-- The fields that stay are found where the record is rendered without the others.
theorem fields?_without [Document δ] (fields : List (Field δ)) {d : δ}
    (unlike : (fields.map (·.name)).Nodup)
    (h : Rendition.record (shape fields) ((Json.object (entries fields)).without removed) d) :
    ∃ ds, Document.fields? (fields.map fun f => [f.name]) 0 d = some ds ∧
      List.Forall₂ (fun f => (f.pruned removed).Given) fields ds := by
  have same : (fields.map (pruned removed)).map (·.name) = fields.map (·.name) := List.map_map
  have sameShape : shape (fields.map (pruned removed)) = shape fields := List.map_map
  rw [without_entries, ← sameShape] at h
  have ⟨ds, read, given⟩ := fields?_given _ (same ▸ unlike) h
  rw [List.map_map] at read
  exact ⟨ds, read, List.forall₂_map_left_iff.mp given⟩

-- What is written for a record without some of its fields renders it.
theorem record_without [Document δ] {r : Rendition δ} {write : Json → δ} (writes : r.Writes write)
    (fields : List (Field δ))
    (h : ∀ f ∈ fields, ∀ j ∈ (f.pruned removed).value?, f.rendition j (write j)) :
    Rendition.record (shape fields) ((Json.object (entries fields)).without removed)
      (write ((Json.object (entries fields)).without removed)) := by
  have sameShape : shape (fields.map (pruned removed)) = shape fields := List.map_map
  rw [without_entries, ← sameShape]
  exact record_of_map? _ (writes.noTuple _) (writes.object _) (List.forall_mem_map.mpr h)

end Field
end RollingUpgrade
