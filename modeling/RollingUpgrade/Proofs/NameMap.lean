import Mathlib.Data.List.Nodup
import Mathlib.Data.List.Perm.Subperm
import RollingUpgrade.NameMap

namespace RollingUpgrade

-- If each of some changes writes a field or leaves it as it is, then they leave in it what was
-- written last.
theorem foldl_last_written {α β γ : Type} (field : α → Option β) {change : α → γ → α}
    {written : γ → Option β} (step : ∀ a c, field (change a c) = (written c).or (field a))
    (changes : List γ) (a : α) :
    field (changes.foldl change a) = (changes.filterMap written).getLast?.or (field a) := by
  induction changes generalizing a
  case nil => rfl
  case cons c changes hi =>
    rw [List.foldl_cons, hi, step]
    cases h : written c
    case none   => rw [List.filterMap_cons_none h]; rfl
    case some b =>
      rw [List.filterMap_cons_some h, List.getLast?_cons]
      cases (changes.filterMap written).getLast? <;> rfl

namespace NameMap

variable {α β : Type} {m : NameMap α} {n : NameMap β} {name : String} {a : α}

theorem mem_iff_find? : name ∈ m ↔ ∃ a, m.find? name = some a := by
  simp only [find?_eq_some_iff]
  exact List.mem_map.trans ⟨fun ⟨e, he, h⟩ => ⟨e.2, h ▸ he⟩, fun ⟨a, ha⟩ => ⟨(name, a), ha, rfl⟩⟩

theorem find?_eq_none_iff : m.find? name = none ↔ name ∉ m := by
  rw [mem_iff_find?, not_exists, Option.eq_none_iff_forall_ne_some]

theorem find?_overlay (m n : NameMap α) (name : String) :
    (m.overlay n).find? name = (n.find? name).or (m.find? name) := by
  rw [overlay, find?_foldl_insert, ← find?_ofList, ofList_toList]

theorem find?_map (f : String → α → β) (m : NameMap α) (name : String) :
    (m.map f).find? name = (m.find? name).map (f name) := by
  refine Option.ext fun b => ?_
  simp only [find?_eq_some_iff, Option.map_eq_some_iff, map, List.mem_map, Prod.mk.injEq]
  constructor
  · rintro ⟨e, mem, named, given⟩
    subst named
    exact ⟨e.2, mem, given⟩
  · rintro ⟨a, mem, given⟩
    exact ⟨(name, a), mem, rfl, given⟩

theorem size_eq_length_keys (m : NameMap α) : m.size = m.keys.length :=
  List.length_map _ |>.symm

-- Two maps have the same names if they have equally many and one of them has those of the other.
theorem same_names_iff :
    (∀ name, name ∈ m ↔ name ∈ n) ↔ m.size = n.size ∧ ∀ name ∈ m, name ∈ n := by
  rw [size_eq_length_keys, size_eq_length_keys]
  constructor
  · intro h
    have perm : m.keys.Perm n.keys := (List.perm_ext_iff_of_nodup m.keys_nodup n.keys_nodup).mpr h
    exact ⟨perm.length_eq, fun name => (h name).mp⟩
  · rintro ⟨size, sub⟩ name
    have subperm : m.keys.Subperm n.keys := m.keys_nodup.subperm sub
    exact (subperm.perm_of_length_le (Nat.le_of_eq size.symm)).mem_iff

-- If the entries of a map are only as they should be under names that another map has, then it is
-- enough to count the names of the other.
theorem same_names_and_iff {P : String → α → Prop} (known : ∀ name a, P name a → name ∈ n) :
    (∀ name, name ∈ m ↔ name ∈ n) ∧ (∀ e ∈ m.toList, P e.1 e.2) ↔
      m.size = n.size ∧ ∀ e ∈ m.toList, P e.1 e.2 := by
  refine and_congr_left fun h => same_names_iff.trans (and_iff_left fun name hn => ?_)
  have ⟨a, ha⟩ := mem_iff_find?.mp hn
  exact known name a (h (name, a) (find?_eq_some_iff.mp ha))

theorem eq_of_subset {m n : NameMap α} (sub : m.toList ⊆ n.toList) (sup : n.toList ⊆ m.toList) :
    m = n := by
  have nodup (m : NameMap α) : m.toList.Nodup := m.keys_nodup.of_map
  have perm : m.toList.Perm n.toList :=
    (List.perm_ext_iff_of_nodup (nodup m) (nodup n)).mpr fun _ => ⟨@sub _, @sup _⟩
  have antisymm (d e : String × α) (lt : d.1 < e.1) (gt : e.1 < d.1) : d = e :=
    absurd gt (String.lt_asymm lt)
  exact ext (perm.eq_of_pairwise (fun d e _ _ => antisymm d e) m.ascending n.ascending)

-- Entries of a map make up the whole map, in whatever order, if none of its names is missing.
theorem ofList_eq {l : List (String × α)} (sub : l ⊆ m.toList)
    (named : ∀ name ∈ m, name ∈ l.map (·.1)) : ofList l = m := by
  have kept : (ofList l).toList ⊆ m.toList := fun _ he => sub (mem_of_mem_ofList he)
  refine eq_of_subset kept fun e he => ?_
  have known : (ofList l).find? e.1 ≠ none := by
    have ⟨f, hf, same⟩ := List.mem_map.mp (named e.1 (List.mem_map_of_mem he))
    rw [find?_ofList, ne_eq, List.lookup_eq_none_iff]
    exact fun absent => by simpa [same] using absent f (List.mem_reverse.mpr hf)
  have ⟨a, ha⟩ := Option.ne_none_iff_exists'.mp known
  have mem : (e.1, a) ∈ (ofList l).toList := find?_eq_some_iff.mp ha
  cases value_unique (kept mem) he
  exact mem

-- In a list in which no name occurs twice, each entry is the one under its name.
theorem lookup_eq_some_iff_mem {l : List (String × α)} (distinct : (l.map (·.1)).Nodup) :
    l.lookup name = some a ↔ (name, a) ∈ l := by
  rw [List.lookup_eq_some_iff]
  constructor
  · intro ⟨before, after, split, _⟩
    exact split ▸ List.mem_append_right _ List.mem_cons_self
  · intro h
    have ⟨before, after, split⟩ := List.append_of_mem h
    refine ⟨before, after, split, fun earlier mem => bne_iff_ne.mpr fun same => ?_⟩
    rw [split, List.map_append, List.map_cons, List.nodup_middle, List.nodup_cons] at distinct
    have again : name ∈ before.map (·.1) := same ▸ List.mem_map_of_mem mem
    exact distinct.left (List.mem_append_left _ again)

theorem perm_toList_ofList {l : List (String × α)} (distinct : (l.map (·.1)).Nodup) :
    (ofList l).toList.Perm l := by
  have distinct' : (l.reverse.map (·.1)).Nodup := by
    rw [List.map_reverse]
    exact List.nodup_reverse.mpr distinct
  refine (List.perm_ext_iff_of_nodup (ofList l).keys_nodup.of_map distinct.of_map).mpr fun e => ?_
  rw [← find?_eq_some_iff, find?_ofList, lookup_eq_some_iff_mem distinct', List.mem_reverse]

section

variable {γ : Type} (key : γ → String) (entry : γ → Option α) {rows : List γ} {row : γ}

theorem lookup_reverse_filterMap_cons (row : γ) (rows : List γ) :
    ((row :: rows).filterMap fun row => (entry row).map (key row, ·)).reverse.lookup name =
      ((rows.filterMap fun row => (entry row).map (key row, ·)).reverse.lookup name).or
        (if name = key row then entry row else none) := by
  cases made : entry row
  case none   => simp [made]
  case some a => simp [made, List.lookup_append, lookup_cons_ite]

theorem lookup_reverse_filterMap_of_notMem (absent : name ∉ rows.map key) :
    (rows.filterMap fun row => (entry row).map (key row, ·)).reverse.lookup name = none := by
  induction rows
  case nil => rfl
  case cons row rows hi =>
    have ⟨differs, later⟩ := not_or.mp (mt List.mem_cons.mpr absent)
    simp [lookup_reverse_filterMap_cons, hi later, differs]

-- Among entries that are made from rows with different keys, the one under a key is the one that is
-- made from its row.
theorem lookup_reverse_filterMap (nodup : (rows.map key).Nodup) (mem : row ∈ rows) :
    (rows.filterMap fun row => (entry row).map (key row, ·)).reverse.lookup (key row) =
      entry row := by
  induction rows
  case nil => nomatch mem
  case cons first rows hi =>
    have ⟨fresh, nodup⟩ := List.nodup_cons.mp nodup
    rw [lookup_reverse_filterMap_cons]
    cases mem
    case head => simp [lookup_reverse_filterMap_of_notMem key entry fresh]
    case tail mem =>
      have differs : key row ≠ key first := fun same => fresh (same ▸ List.mem_map_of_mem mem)
      simp [hi nodup mem, differs]

end

end NameMap
end RollingUpgrade
