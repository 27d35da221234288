import Mathlib.Data.List.Forall2
import Mathlib.Data.List.Nodup
import Mathlib.Data.List.Pairwise
import RollingUpgrade.Document

namespace RollingUpgrade.Document

variable {δ : Type} {names : List String} {fields : List (List String)}
  {entries entries' : List (String × δ)} {e f : String × δ}

-- Entries with one value under spellings of one field, or under the same key. Each field is given
-- by its spellings.
structure SameEntry (fields : List (List String)) (e f : String × δ) : Prop where
  spelled : e.1 = f.1 ∨ ∃ names ∈ fields, e.1 ∈ names ∧ f.1 ∈ names
  value : e.2 = f.2

-- The same entries in any order, each under any spelling of its field.
inductive Respelled (fields : List (List String)) (entries entries' : List (String × δ)) : Prop
  | intro {ordered : List (String × δ)} : entries.Perm ordered →
    List.Forall₂ (SameEntry fields) ordered entries' → Respelled fields entries entries'

theorem Respelled.of_perm (h : entries.Perm entries') : Respelled fields entries entries' :=
  .intro h (List.forall₂_same.mpr fun _ _ => ⟨.inl rfl, rfl⟩)

-- The values of the entries that spell a field.
def valuesOf (names : List String) (entries : List (String × δ)) : List δ :=
  (entries.filter fun e => e.1 ∈ names).map (·.2)

-- The one value of a field, if it has any.
def only? : List δ → Option (Option δ)
  | []  => some none
  | [d] => some (some d)
  | _   => none

theorem field?_eq (names : List String) (entries : List (String × δ)) :
    field? names entries = only? (valuesOf names entries) := by
  rw [field?, valuesOf]
  generalize entries.filter (fun e => e.1 ∈ names) = found
  match found with
  | [] | [_] | _ :: _ :: _ => rfl

theorem only?_of_perm {l m : List δ} (h : l.Perm m) : only? l = only? m := by
  match l, m, h.length_eq with
  | [], [], _                   => rfl
  | [_], [_], _                 => rw [List.singleton_perm_singleton.mp h]
  | _ :: _ :: _, _ :: _ :: _, _ => rfl

-- No two fields have a spelling in common.
theorem eq_of_mem_both (unlike : fields.flatten.Nodup) {names' : List String} {name : String}
    (mem : names ∈ fields) (mem' : names' ∈ fields) (h : name ∈ names) (h' : name ∈ names') :
    names = names' := by
  have symm : Std.Symm (@List.Disjoint String) := ⟨fun _ _ apart _ h h' => apart h' h⟩
  have apart := (List.nodup_flatten.mp unlike).right
  by_contra differ
  exact apart.forall mem mem' differ h h'

theorem SameEntry.mem_iff (unlike : fields.flatten.Nodup) (h : SameEntry fields e f)
    (mem : names ∈ fields) : e.1 ∈ names ↔ f.1 ∈ names := by
  cases h.spelled
  case inl same => rw [same]
  case inr spelled =>
    have ⟨names', mem', he, hf⟩ := spelled
    constructor
    · exact fun h => eq_of_mem_both unlike mem mem' h he ▸ hf
    · exact fun h => eq_of_mem_both unlike mem mem' h hf ▸ he

theorem valuesOf_of_forall₂ (unlike : fields.flatten.Nodup) (mem : names ∈ fields)
    (h : List.Forall₂ (SameEntry fields) entries entries') :
    valuesOf names entries = valuesOf names entries' := by
  induction h
  case nil => rfl
  case cons e f _ _ same _ hi =>
    have spelled := same.mem_iff unlike mem
    by_cases he : e.1 ∈ names
    case pos =>
      have hf := spelled.mp he
      simpa [valuesOf, he, hf, same.value] using hi
    case neg =>
      have hf := mt spelled.mpr he
      simpa [valuesOf, he, hf] using hi

theorem field?_respelled (unlike : fields.flatten.Nodup) (mem : names ∈ fields)
    (h : Respelled fields entries entries') : field? names entries = field? names entries' := by
  cases h
  case intro ordered perm same =>
    have values : (valuesOf names entries).Perm (valuesOf names ordered) := (perm.filter _).map _
    rw [field?_eq, field?_eq, only?_of_perm values, valuesOf_of_forall₂ unlike mem same]

theorem field?_of_twice (twice : [e, f].Sublist entries) (he : e.1 ∈ names) (hf : f.1 ∈ names) :
    field? names entries = none := by
  have values : [e.2, f.2].Sublist (valuesOf names entries) := by
    have found := (twice.filter fun e => e.1 ∈ names).map (·.2)
    simpa [valuesOf, he, hf] using found
  rw [field?_eq]
  match valuesOf names entries, values.length_le with
  | _ :: _ :: _, _ => rfl

theorem mapM_congr {α β : Type} {l : List α} {f g : α → Option β} (h : ∀ a ∈ l, f a = g a) :
    l.mapM f = l.mapM g := by
  induction l
  case nil => rfl
  case cons a l hi =>
    have ⟨first, rest⟩ := List.forall_mem_cons.mp h
    rw [List.mapM_cons, List.mapM_cons, first, hi rest]

theorem mapM_field?_respelled (unlike : fields.flatten.Nodup)
    (h : Respelled fields entries entries') :
    fields.mapM (field? · entries) = fields.mapM (field? · entries') :=
  mapM_congr fun _ mem => field?_respelled unlike mem h

theorem mapM_field?_of_twice (mem : names ∈ fields) (twice : [e, f].Sublist entries)
    (he : e.1 ∈ names) (hf : f.1 ∈ names) : fields.mapM (field? · entries) = none := by
  have none := field?_of_twice twice he hf
  induction fields
  case nil => nomatch mem
  case cons first fields hi =>
    rw [List.mapM_cons]
    cases mem
    case head     => rw [none]; rfl
    case tail mem => rw [hi mem]; cases field? first entries <;> rfl

end RollingUpgrade.Document
