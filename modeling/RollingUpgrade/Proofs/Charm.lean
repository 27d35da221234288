import Mathlib.Data.List.TakeWhile
import RollingUpgrade.Charm

namespace RollingUpgrade.Charm

-- The number of a revision: ASCII digits, at least one of them.
structure IsRevision (r : List Char) : Prop where
  nonempty : r ≠ []
  digits : ∀ c ∈ r, c.isDigit

-- The text has a revision at its end.
def Revised (s : List Char) : Prop := ∃ stem r, IsRevision r ∧ s = stem ++ '-' :: r

-- The texts that may stand before a name in a URL: nothing, a path, or a schema with anything
-- before its colon.
inductive IsLead : List Char → Prop
  | none : IsLead []
  | path (p : List Char) : IsLead (p ++ ['/'])
  | schema (q : List Char) : IsLead (q ++ [':'])

section

variable {s charm lead r : List Char}

theorem IsRevision.notMem {c : Char} (h : IsRevision r) (hc : c.isDigit = false) : c ∉ r := by
  intro mem
  simp [h.digits c mem] at hc

-- Only the last revision goes, even if the stem ends in another one.
theorem dropRevision_append (stem : List Char) (h : IsRevision r) :
    dropRevision (stem ++ '-' :: r) = stem := by
  have digits : ∀ c ∈ r.reverse, c.isDigit := fun c hc => h.digits c (List.mem_reverse.mp hc)
  have hyphen : ('-' : Char).isDigit = false := rfl
  have ⟨c, rest, cons⟩ := List.exists_cons_of_ne_nil (List.reverse_ne_nil_iff.mpr h.nonempty)
  have taken : (r.reverse ++ '-' :: stem.reverse).takeWhile Char.isDigit = c :: rest := by
    rw [List.takeWhile_append_of_pos digits, cons]
    simp [hyphen]
  have left : (r.reverse ++ '-' :: stem.reverse).dropWhile Char.isDigit = '-' :: stem.reverse := by
    simp [List.dropWhile_append_of_pos digits, hyphen]
  have reversed : (stem ++ '-' :: r).reverse = r.reverse ++ '-' :: stem.reverse := by simp
  simp only [dropRevision, reversed, taken, left, List.reverse_reverse]

theorem dropRevision_eq_self_or (s : List Char) :
    dropRevision s = s ∨ ∃ r, IsRevision r ∧ s = dropRevision s ++ '-' :: r := by
  have parts := List.takeWhile_append_dropWhile (p := Char.isDigit) (l := s.reverse)
  rw [dropRevision]
  split
  case h_1 c digits rest taken left =>
    refine .inr ⟨(c :: digits).reverse, ⟨by simp, ?digits⟩, ?split⟩
    case digits =>
      intro d hd
      rw [List.mem_reverse, ← taken] at hd
      exact List.mem_takeWhile_imp hd
    case split =>
      rw [taken, left] at parts
      simpa using (congrArg List.reverse parts).symm
  case h_2 => exact .inl rfl

theorem dropRevision_eq_self_iff : dropRevision s = s ↔ ¬Revised s := by
  constructor
  · intro kept ⟨stem, r, revision, split⟩
    rw [split, dropRevision_append stem revision] at kept
    simp at kept
  · intro bare
    cases dropRevision_eq_self_or s
    case inl kept => exact kept
    case inr dropped =>
      have ⟨r, revision, split⟩ := dropped
      exact absurd ⟨_, r, revision, split⟩ bare

theorem isPrefix_dropRevision (s : List Char) : dropRevision s <+: s := by
  cases dropRevision_eq_self_or s
  case inl kept => simp [kept]
  case inr dropped =>
    have ⟨r, _, split⟩ := dropped
    exact ⟨_, split.symm⟩

-- A colon before the name keeps a revision from reaching beyond it.
theorem not_revised_append_colon (q : List Char) (h : ¬Revised charm) :
    ¬Revised (q ++ [':'] ++ charm) := by
  intro ⟨stem, r, revision, split⟩
  cases List.append_eq_append_iff.mp split
  case inl inside =>
    have ⟨rest, _, split⟩ := inside
    exact h ⟨rest, r, revision, split⟩
  case inr beyond =>
    have ⟨rest, colon, split⟩ := beyond
    cases List.eq_nil_or_concat rest
    case inl nil =>
      simp only [nil, List.nil_append] at split
      exact h ⟨[], r, revision, split.symm⟩
    case inr concat =>
      have ⟨init, last, eq⟩ := concat
      rw [eq, List.concat_eq_append, ← List.append_assoc] at colon
      have last_eq : ':' = last := List.singleton_inj.mp (List.append_inj_right' colon rfl)
      have mem : ':' ∈ '-' :: r := by simp [split, eq, ← last_eq]
      simp [revision.notMem (c := ':') rfl] at mem

-- What the last segment keeps of a lead does not reach into the name.
theorem afterLast_slash_lead (h : IsLead lead) :
    Text.afterLast '/' lead = [] ∨ ∃ q, Text.afterLast '/' lead = q ++ [':'] := by
  cases h
  case none     => exact .inl rfl
  case path p   => exact .inl (Text.afterLast_concat '/' p)
  case schema q => exact .inr ⟨_, Text.afterLast_append q (by simp)⟩

theorem afterLast_colon_built (h : IsLead lead) (noColon : ':' ∉ charm) :
    Text.afterLast ':' (Text.afterLast '/' lead ++ charm) = charm := by
  rw [Text.afterLast_append _ noColon]
  cases afterLast_slash_lead h
  case inl none => rw [none]; rfl
  case inr schema =>
    have ⟨q, eq⟩ := schema
    rw [eq, Text.afterLast_concat, List.nil_append]

theorem isInfix_nameChars (url : List Char) : nameChars url <:+: Text.afterLast '/' url :=
  (Text.afterLast_suffix ':' _).isInfix.trans (isPrefix_dropRevision _).isInfix

end

theorem slash_notMem_name (url : String) : '/' ∉ (name url).toList := by
  simp only [name, String.toList_ofList]
  exact fun mem => Text.sep_notMem_afterLast '/' url.toList ((isInfix_nameChars _).subset mem)

theorem colon_notMem_name (url : String) : ':' ∉ (name url).toList := by
  simp only [name, String.toList_ofList]
  exact Text.sep_notMem_afterLast ':' _

-- The name stands within the part of the URL after its last slash.
theorem name_within_segment (url : String) :
    ∃ path before after : String, url = path ++ (before ++ name url ++ after) ∧
      (path = "" ∨ ∃ p, path = p ++ "/") ∧ '/' ∉ (before ++ name url ++ after).toList := by
  have ⟨path, split, ends⟩ := Text.exists_append_afterLast '/' url.toList
  have ⟨before, after, segment⟩ := isInfix_nameChars url.toList
  have text : (String.ofList before ++ name url ++ String.ofList after).toList =
      Text.afterLast '/' url.toList := by simp [name, ← segment]
  refine ⟨.ofList path, .ofList before, .ofList after, ?url, ?path, ?noSlash⟩
  case url =>
    apply String.toList_inj.mp
    rw [String.toList_append, text, String.toList_ofList]
    exact split
  case path =>
    apply ends.imp
    · intro nil
      simp [nil]
    · intro ⟨p, eq⟩
      exact ⟨.ofList p, by simp [eq, String.ofList_append]⟩
  case noSlash =>
    rw [text]
    exact Text.sep_notMem_afterLast '/' _

section

variable {lead charm r : String}

theorem name_append_revision (h : IsLead lead.toList) (noSlash : '/' ∉ charm.toList)
    (noColon : ':' ∉ charm.toList) (revision : IsRevision r.toList) :
    name (lead ++ charm ++ "-" ++ r) = charm := by
  have noSlash' : '/' ∉ charm.toList ++ '-' :: r.toList := by
    simp [noSlash, revision.notMem (c := '/') rfl]
  have url : (lead ++ charm ++ "-" ++ r).toList =
      lead.toList ++ (charm.toList ++ '-' :: r.toList) := by simp
  rw [name, nameChars, url, Text.afterLast_append _ noSlash', ← List.append_assoc,
    dropRevision_append _ revision, afterLast_colon_built h noColon, String.ofList_toList]

theorem name_append (h : IsLead lead.toList) (noSlash : '/' ∉ charm.toList)
    (noColon : ':' ∉ charm.toList) (bare : ¬Revised charm.toList) :
    name (lead ++ charm) = charm := by
  have kept : ¬Revised (Text.afterLast '/' lead.toList ++ charm.toList) := by
    cases afterLast_slash_lead h
    case inl none => simpa [none] using bare
    case inr schema =>
      have ⟨q, eq⟩ := schema
      exact eq ▸ not_revised_append_colon q bare
  rw [name, nameChars, String.toList_append, Text.afterLast_append _ noSlash,
    dropRevision_eq_self_iff.mpr kept, afterLast_colon_built h noColon, String.ofList_toList]

end

-- The name of a charm has no separators and stands within the part of a URL after the last slash.
-- It is the name that a URL was built from, whatever the lead; a revision may be left out where the
-- name does not end in one itself.
theorem name_inverts_building :
    (∀ url : String, '/' ∉ (name url).toList ∧ ':' ∉ (name url).toList ∧
      ∃ path before after : String, url = path ++ (before ++ name url ++ after) ∧
        (path = "" ∨ ∃ p, path = p ++ "/") ∧ '/' ∉ (before ++ name url ++ after).toList) ∧
    ∀ lead charm : String, IsLead lead.toList → '/' ∉ charm.toList → ':' ∉ charm.toList →
      (∀ r : String, IsRevision r.toList → name (lead ++ charm ++ "-" ++ r) = charm) ∧
      (¬Revised charm.toList → name (lead ++ charm) = charm) :=
  ⟨fun url => ⟨slash_notMem_name url, colon_notMem_name url, name_within_segment url⟩,
    fun _ _ h noSlash noColon =>
      ⟨fun _ => name_append_revision h noSlash noColon, name_append h noSlash noColon⟩⟩

-- A name that ends in a number after a hyphen keeps it, and loses only the revision behind it.
theorem name_inverts_building_numbered :
    name ("local:bionic/" ++ "heat-7" ++ "-" ++ "12") = "heat-7" ∧
    name ("cs-9:" ++ "ceph-fs-rc1") = "ceph-fs-rc1" := by
  have path : IsLead "local:bionic/".toList := .path "local:bionic".toList
  have schema : IsLead "cs-9:".toList := .schema "cs-9".toList
  have revision : IsRevision "12".toList := ⟨by simp, by simp⟩
  have kept : dropRevision "ceph-fs-rc1".toList = "ceph-fs-rc1".toList := rfl
  have bare : ¬Revised "ceph-fs-rc1".toList := dropRevision_eq_self_iff.mp kept
  have ⟨revised, _⟩ := name_inverts_building.right _ "heat-7" path (by simp) (by simp)
  have ⟨_, unrevised⟩ := name_inverts_building.right _ "ceph-fs-rc1" schema (by simp) (by simp)
  exact ⟨revised "12" revision, unrevised bare⟩

end RollingUpgrade.Charm
