import Mathlib.Data.List.Forall2
import RollingUpgrade.Document
import RollingUpgrade.Proofs.NameMap

namespace RollingUpgrade

open Document

theorem exists_mapM {α β : Type} {f : α → Option β} {R : α → β → Prop} {l : List α}
    (h : ∀ a ∈ l, ∃ b, f a = some b ∧ R a b) : ∃ bs, l.mapM f = some bs ∧ List.Forall₂ R l bs := by
  induction l
  case nil => exact ⟨[], rfl, .nil⟩
  case cons a l hi =>
    have ⟨⟨b, hb, fit⟩, rest⟩ := List.forall_mem_cons.mp h
    have ⟨bs, hbs, fits⟩ := hi rest
    exact ⟨b :: bs, by rw [List.mapM_cons, hb, hbs]; rfl, .cons fit fits⟩

theorem exists_of_forall₂ {α β : Type} {R : α → β → Prop} {l : List α} {m : List β}
    (h : List.Forall₂ R l m) : (∀ a ∈ l, ∃ b ∈ m, R a b) ∧ ∀ b ∈ m, ∃ a ∈ l, R a b := by
  induction h <;> simp_all

-- How documents of a format may render trees.
abbrev Rendition (δ : Type) := Json → δ → Prop

namespace Rendition

-- The tree itself.
def exact : Rendition Json := Eq

variable {δ : Type} [Document δ]

-- A map may have its entries in any order.
def map (value : Rendition δ) : Rendition δ := fun j d =>
  ∃ entries es es', j = .object entries ∧ map? d = some es ∧ es.Perm es' ∧
    List.Forall₂ (fun e f => e.1 = f.1 ∧ value e.2 f.2) entries es'

-- A record may have its fields in any order, and fields of other names among them.
def record (fields : List (String × Rendition δ)) : Rendition δ := fun j d =>
  ∃ entries es known unknown, j = .object entries ∧ tuple? d = none ∧ map? d = some es ∧
    es.Perm (known ++ unknown) ∧
    List.Forall₂ (fun e f => e.1 = f.1 ∧ ∃ r, (e.1, r) ∈ fields ∧ r e.2 f.2) entries known ∧
    ∀ e ∈ unknown, e.1 ∉ fields.map (·.1)

theorem map_self {α : Type} {encode : α → Json} {value : Rendition Json}
    (h : ∀ a, value (encode a) (encode a)) (m : NameMap α) :
    map value (.ofMap encode m) (.ofMap encode m) := by
  refine ⟨_, _, _, rfl, rfl, .refl _, List.forall₂_same.mpr fun e he => ⟨rfl, ?_⟩⟩
  obtain ⟨e, _, rfl⟩ := List.mem_map.mp he
  exact h e.2

-- The order of the fields does not matter.
theorem record_of_perm {fields : List (String × Rendition δ)} {j : Json} {d d' : δ}
    {es es' : List (String × δ)} (h : record fields j d) (map : map? d = some es)
    (tuple : tuple? d' = none) (map' : map? d' = some es') (perm : es'.Perm es) :
    record fields j d' := by
  have ⟨entries, _, known, unknown, written, _, found, perm', fit, others⟩ := h
  cases map.symm.trans found
  exact ⟨entries, es', known, unknown, written, tuple, map', perm.trans perm', fit, others⟩

theorem not_isNull_of_record {fields : List (String × Rendition Json)} {j d : Json}
    (h : record fields j d) : isNull d = false := by
  obtain ⟨_, _, _, _, _, _, map, _⟩ := h
  cases d
  case object => rfl
  all_goals nomatch map

end Rendition

-- A field of a record. It has no value if the record is written without it.
structure Field (δ : Type) where
  name : String
  rendition : Rendition δ
  value? : Option Json

namespace Field

section

variable {δ : Type} {fields : List (Field δ)} {f : Field δ} {name : String}

def shape (fields : List (Field δ)) : List (String × Rendition δ) :=
  fields.map fun f => (f.name, f.rendition)

def entries (fields : List (Field δ)) : List (String × Json) :=
  fields.flatMap fun f => f.value?.toList.map fun j => (f.name, j)

-- A document gives a field no value, or one that renders the value of the field.
def Given (f : Field δ) : Option δ → Prop := Option.Rel f.rendition f.value?

theorem filter_entries_of_not_mem (h : name ∉ fields.map (·.name)) :
    (entries fields).filter (fun e => e.1 ∈ [name]) = [] := by
  refine List.filter_eq_nil_iff.mpr fun e he => ?_
  have ⟨f, hf, hj⟩ := List.mem_flatMap.mp he
  obtain ⟨j, _, rfl⟩ := List.mem_map.mp hj
  have other : f.name ≠ name := fun same => h (same ▸ List.mem_map_of_mem hf)
  simpa using other

theorem filter_entries (unlike : (fields.map (·.name)).Nodup) (hf : f ∈ fields) :
    (entries fields).filter (fun e => e.1 ∈ [f.name]) =
      f.value?.toList.map fun j => (f.name, j) := by
  induction fields
  case nil => nomatch hf
  case cons g rest hi =>
    have ⟨fresh, unlike⟩ := List.nodup_cons.mp unlike
    rw [entries, List.flatMap_cons, List.filter_append]
    rcases List.mem_cons.mp hf with rfl | hf
    · have others : (rest.flatMap fun f => f.value?.toList.map fun j => (f.name, j)).filter
          (fun e => e.1 ∈ [f.name]) = [] := filter_entries_of_not_mem fresh
      rw [others, List.append_nil, List.filter_eq_self.mpr]
      simp
    · have other : g.name ≠ f.name := fun same => fresh (List.mem_map.mpr ⟨f, hf, same.symm⟩)
      refine (congrArg (· ++ _) (List.filter_eq_nil_iff.mpr ?_)).trans (hi unlike hf)
      simp [other]

theorem rendition_unique {r : Rendition δ} (unlike : (fields.map (·.name)).Nodup) (hf : f ∈ fields)
    (hr : (f.name, r) ∈ shape fields) : r = f.rendition := by
  obtain ⟨g, hg, h⟩ := List.mem_map.mp hr
  injection h with name rendition
  exact rendition ▸ congrArg _ (List.inj_on_of_nodup_map unlike hg hf name)

theorem field?_given {es known unknown : List (String × δ)}
    (unlike : (fields.map (·.name)).Nodup) (perm : es.Perm (known ++ unknown))
    (fit : List.Forall₂ (fun e f => e.1 = f.1 ∧ ∃ r, (e.1, r) ∈ shape fields ∧ r e.2 f.2)
      (entries fields) known)
    (others : ∀ e ∈ unknown, e.1 ∉ (shape fields).map (·.1)) (hf : f ∈ fields) :
    ∃ d?, field? [f.name] es = some d? ∧ f.Given d? := by
  have passed : unknown.filter (fun e => e.1 ∈ [f.name]) = [] := by
    refine List.filter_eq_nil_iff.mpr fun e he spelled => others e he ?_
    have same : e.1 = f.name := by simpa using spelled
    rw [same, shape, List.map_map]
    exact List.mem_map_of_mem hf
  have perm := perm.filter fun e => e.1 ∈ [f.name]
  rw [List.filter_append, passed, List.append_nil] at perm
  have fit := List.rel_filter (p := fun e => e.1 ∈ [f.name]) (q := fun e => e.1 ∈ [f.name])
    (fun a b h => by simp [h.left]) fit
  rw [filter_entries unlike hf] at fit
  rw [field?, Given]
  cases hv : f.value? <;> rw [hv] at fit
  case none =>
    rw [List.forall₂_nil_left_iff.mp fit] at perm
    rw [perm.eq_nil]
    exact ⟨_, rfl, .none⟩
  case some j =>
    obtain ⟨e, _, ⟨_, r, hr, he⟩, alone, h⟩ := List.forall₂_cons_left_iff.mp fit
    rw [h, List.forall₂_nil_left_iff.mp alone, List.perm_singleton] at perm
    rw [perm]
    exact ⟨_, rfl, .some (rendition_unique unlike hf hr ▸ he)⟩

end

theorem fields?_given {δ : Type} [Document δ] (fields : List (Field δ)) {d : δ}
    (unlike : (fields.map (·.name)).Nodup)
    (h : Rendition.record (shape fields) (.object (entries fields)) d) :
    ∃ ds, fields? (fields.map fun f => [f.name]) 0 d = some ds ∧
      List.Forall₂ Given fields ds := by
  obtain ⟨_, es, known, unknown, ⟨⟩, tuple, map, perm, fit, others⟩ := h
  have ⟨ds, hds, given⟩ := exists_mapM fun f hf => field?_given unlike perm fit others hf
  refine ⟨ds, ?_, given⟩
  rw [fields?, tuple, map, ← hds]
  exact List.mapM_map

-- A document renders a record if it has the entries of the record as they were written.
theorem record_of_map? {δ : Type} [Document δ] (fields : List (Field δ)) {d : δ} {render : Json → δ}
    (tuple : tuple? d = none)
    (map : map? d = some ((entries fields).map fun e => (e.1, render e.2)))
    (h : ∀ f ∈ fields, ∀ j ∈ f.value?, f.rendition j (render j)) :
    Rendition.record (shape fields) (.object (entries fields)) d := by
  refine ⟨_, _, (entries fields).map fun e => (e.1, render e.2), [], rfl, tuple, map, by simp, ?_,
    nofun⟩
  refine List.forall₂_map_right_iff.mpr (List.forall₂_same.mpr fun e he => ⟨rfl, ?_⟩)
  have ⟨f, hf, he⟩ := List.mem_flatMap.mp he
  obtain ⟨j, hj, rfl⟩ := List.mem_map.mp he
  exact ⟨_, List.mem_map_of_mem hf, h f hf j (Option.mem_toList.mp hj)⟩

theorem record_self (fields : List (Field Json))
    (h : ∀ f ∈ fields, ∀ j ∈ f.value?, f.rendition j j) :
    Rendition.record (shape fields) (.object (entries fields)) (.object (entries fields)) :=
  record_of_map? fields rfl (congrArg some (List.map_id _).symm) h

end Field

-- The decoder reads the value from every document that renders the tree.
def ReadAs {α δ : Type} (r : Rendition δ) (decode? : δ → Option α) (j : Json) (a : α) : Prop :=
  ∀ d, r j d → decode? d = some a

-- The decoder reads what was encoded.
def Reads {α δ : Type} (r : Rendition δ) (decode? : δ → Option α) (encode : α → Json) : Prop :=
  ∀ a, ReadAs r decode? (encode a) a

namespace ReadAs

variable {α δ : Type} {r : Rendition δ} {decode? : δ → Option α} {j : Json} {a : α} {d? : Option δ}

theorem orElse (h : ReadAs r decode? j a) (default : α) (given : Option.Rel r (some j) d?) :
    Document.orElse default decode? d? = some a := by
  cases given
  case some hd => exact h _ hd

theorem orElse_unless {p : Prop} [Decidable p] (h : ReadAs r decode? j a) (default : α)
    (given : Option.Rel r (if p then none else some j) d?) :
    Document.orElse default decode? d? = some (if p then default else a) := by
  by_cases hp : p
  case pos =>
    rw [if_pos hp] at given ⊢
    cases given
    rfl
  case neg =>
    rw [if_neg hp] at given ⊢
    exact h.orElse default given

end ReadAs

namespace Reads

variable {α δ : Type} [Document δ] {r : Rendition δ} {decode? : δ → Option α} {encode : α → Json}

theorem orElse_optional {o : Option α} {d? : Option δ} (h : Reads r decode? encode)
    (solid : ∀ a d, r (encode a) d → isNull d = false) (given : Option.Rel r (o.map encode) d?) :
    Document.orElse none (optional? decode?) d? = some o := by
  cases o <;> cases given
  case none    => rfl
  case some hd => simp [Document.orElse, optional?, solid _ _ hd, h _ _ hd]

omit [Document δ] in
theorem mapM {l : List α} {ds : List δ} (h : Reads r decode? encode)
    (each : List.Forall₂ r (l.map encode) ds) : ds.mapM decode? = some l := by
  rw [List.forall₂_map_left_iff] at each
  induction each
  case nil => rfl
  case cons hd _ hi =>
    rw [List.mapM_cons, h _ _ hd, hi]
    rfl

theorem map (h : Reads r decode? encode) : Reads (.map r) (mapOf? decode?) (.ofMap encode) := by
  rintro m d ⟨_, es, es', ⟨⟩, map, perm, fit⟩
  have ⟨given, covered⟩ := exists_of_forall₂ (List.forall₂_map_left_iff.mp fit)
  have decoded : ∀ f ∈ es, ∃ e, (decode? f.2).map (f.1, ·) = some e ∧ e ∈ m.toList ∧ e.1 = f.1 := by
    intro f hf
    have ⟨e, he, name, value⟩ := covered f (perm.mem_iff.mp hf)
    exact ⟨(f.1, e.2), by rw [h _ _ value]; rfl, name ▸ he, rfl⟩
  have ⟨l, hl, fit⟩ := exists_mapM decoded
  have ⟨named, kept⟩ := exists_of_forall₂ fit
  rw [mapOf?, map, Option.bind_eq_bind, Option.bind_some, hl]
  refine congrArg some (NameMap.ofList_eq (fun e he => ?sub) fun name hn => ?named)
  case sub =>
    have ⟨_, _, he, _⟩ := kept e he
    exact he
  case named =>
    obtain ⟨e, he, rfl⟩ := List.mem_map.mp hn
    have ⟨f, hf, same, _⟩ := given e he
    have ⟨b, hb, _, same'⟩ := named f (perm.mem_iff.mpr hf)
    exact List.mem_map.mpr ⟨b, hb, same'.trans same.symm⟩

theorem string : Reads .exact string? Json.string := by
  rintro _ _ rfl
  rfl

theorem bool : Reads .exact bool? Json.bool := by
  rintro _ _ rfl
  rfl

theorem strings : Reads .exact (listOf? string?) Json.strings := by
  rintro l _ rfl
  exact string.mapM (List.forall₂_same.mpr fun _ _ => rfl)

end Reads

namespace Rendition

-- Decoders read the values without records and maps in them.
structure Legible {δ : Type} [Document δ] (r : Rendition δ) : Prop where
  null    : ∀ d, r .null d → isNull d
  solid   : ∀ s d, r (.string s) d → isNull d = false
  string  : Reads r string? .string
  bool    : Reads r bool? .bool
  strings : Reads r (listOf? string?) .strings
  count   : ∀ n : Nat, fitsUnsigned 64 n → ReadAs r count? (.nat n) n

namespace Legible

theorem exact : Legible exact where
  null    := by rintro _ rfl; rfl
  solid   := by rintro _ _ rfl; rfl
  string  := .string
  bool    := .bool
  strings := .strings
  count   := by rintro n h _ rfl; simp [count?, Json.nat, h]

theorem optional {δ : Type} [Document δ] {r : Rendition δ} (legible : Legible r) :
    Reads r (optional? string?) fun o => o.elim .null .string := by
  intro o d h
  cases o
  case none   => simp [optional?, legible.null d h]
  case some s => simp [optional?, legible.solid s d h, legible.string s d h]

end Legible

-- What is written for data renders the data.
structure Writes {δ : Type} [Document δ] (r : Rendition δ) (write : Json → δ) : Prop where
  noTuple  : ∀ entries, tuple? (write (.object entries)) = none
  object   : ∀ entries, map? (write (.object entries)) = some (entries.map (·.map id write))
  string   : ∀ s, r (.string s) (write (.string s))
  optional : ∀ o : Option String, r (o.elim .null .string) (write (o.elim .null .string))
  bool     : ∀ b, r (.bool b) (write (.bool b))
  strings  : ∀ l, r (.strings l) (write (.strings l))
  count    : ∀ n : Nat, fitsUnsigned 64 n → r (.nat n) (write (.nat n))

theorem Writes.exact : Writes exact id where
  noTuple _  := rfl
  object _   := congrArg some (List.map_id _).symm
  string _   := rfl
  optional _ := rfl
  bool _     := rfl
  strings _  := rfl
  count _ _  := rfl

end Rendition
end RollingUpgrade
