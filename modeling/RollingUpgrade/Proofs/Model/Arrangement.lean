import Mathlib.Data.List.Sort
import RollingUpgrade.Model.PlacedUnit

namespace RollingUpgrade.PlacedUnit

variable {u v w : PlacedUnit} {l : List PlacedUnit}

theorem eraseRepsBy_loop {α : Type} (r : α → α → Bool) (a : α) (l seen : List α) :
    List.eraseRepsBy.loop r a l seen = seen.reverse ++ (a :: l).eraseRepsBy r := by
  rw [List.eraseRepsBy]
  induction l generalizing a seen
  case nil => simp [List.eraseRepsBy.loop]
  case cons b l hi =>
    rw [List.eraseRepsBy.loop, List.eraseRepsBy.loop]
    cases r a b
    case true  => exact hi a seen
    case false => simp [hi b (a :: seen), hi b [a]]

theorem eraseRepsBy_cons_cons {α : Type} (r : α → α → Bool) (a b : α) (l : List α) :
    (a :: b :: l).eraseRepsBy r =
      if r a b then (a :: l).eraseRepsBy r else a :: (b :: l).eraseRepsBy r := by
  rw [List.eraseRepsBy, List.eraseRepsBy.loop]
  cases r a b
  case true  => rfl
  case false => exact eraseRepsBy_loop r b l [a]

theorem id_le_trans (u v w : PlacedUnit) (h : decide (u.id ≤ v.id)) (h' : decide (v.id ≤ w.id)) :
    decide (u.id ≤ w.id) :=
  decide_eq_true (String.le_trans (of_decide_eq_true h) (of_decide_eq_true h'))

theorem id_le_total (u v : PlacedUnit) : decide (u.id ≤ v.id) || decide (v.id ≤ u.id) := by
  simp [String.le_total]

theorem mergeSort_ascending (l : List PlacedUnit) :
    (l.mergeSort (·.id ≤ ·.id)).Pairwise (·.id ≤ ·.id) :=
  (List.pairwise_mergeSort id_le_trans id_le_total l).imp of_decide_eq_true

-- The sort is stable.
theorem find?_mergeSort (l : List PlacedUnit) (id : String) :
    (l.mergeSort (·.id ≤ ·.id)).find? (·.id == id) = l.find? (·.id == id) := by
  have sorted : (l.filter (·.id == id)).Pairwise fun u v => decide (u.id ≤ v.id) := by
    apply List.pairwise_of_forall_mem_list
    intro u hu v hv
    simp only [List.mem_filter, beq_iff_eq] at hu hv
    simp [hu.right, hv.right]
  have kept : l.filter (·.id == id) = (l.mergeSort (·.id ≤ ·.id)).filter (·.id == id) := by
    have sub := List.sublist_mergeSort id_le_trans id_le_total sorted List.filter_sublist
    have sub' := sub.filter (·.id == id)
    simp only [List.filter_filter, Bool.and_self] at sub'
    have perm := (List.mergeSort_perm l (·.id ≤ ·.id)).filter (·.id == id)
    exact sub'.eq_of_length perm.length_eq.symm
  rw [← List.head?_filter, ← kept, List.head?_filter]

-- In ascending order, a unit that differs from the next one differs from all that follow.
theorem lt_of_ne_next (ascending : (v :: w :: l).Pairwise (·.id ≤ ·.id)) (differ : v.id ≠ w.id)
    (h : u ∈ w :: l) : v.id < u.id := by
  have le : v.id ≤ w.id := List.rel_of_pairwise_cons ascending (List.mem_cons_self ..)
  have lt : v.id < w.id := Std.lt_of_le_of_ne le differ
  cases List.mem_cons.mp h
  case inl eq => exact eq ▸ lt
  case inr mem =>
    exact Std.lt_of_lt_of_le lt (List.rel_of_pairwise_cons ascending.of_cons mem)

-- Leaving out a unit of the same name as the one before it changes no first place.
theorem find?_cons_skip (same : v.id = w.id) (id : String) :
    (v :: w :: l).find? (·.id == id) = (v :: l).find? (·.id == id) := by
  by_cases named : v.id = id
  case pos => simp [named]
  case neg => simp [named, ← same]

theorem mem_eraseRepsBy (ascending : (v :: l).Pairwise (·.id ≤ ·.id)) :
    u ∈ (v :: l).eraseRepsBy (·.id == ·.id) ↔ (v :: l).find? (·.id == u.id) = some u := by
  induction l generalizing v
  case nil =>
    have single : u ∈ [v].eraseRepsBy (·.id == ·.id) ↔ u = v := List.mem_singleton
    rw [single, List.find?_singleton, Option.ite_none_right_eq_some, beq_iff_eq, Option.some.injEq]
    exact ⟨fun eq => eq ▸ ⟨rfl, rfl⟩, fun h => h.right.symm⟩
  case cons w l hi =>
    rw [eraseRepsBy_cons_cons]
    by_cases same : v.id = w.id
    case pos =>
      rw [if_pos (beq_iff_eq.mpr same), find?_cons_skip same]
      exact hi (ascending.sublist (by simp))
    case neg =>
      rw [if_neg (mt beq_iff_eq.mp same), List.mem_cons, hi ascending.of_cons]
      by_cases named : v.id = u.id
      case pos =>
        have later : (w :: l).find? (·.id == u.id) ≠ some u := by
          intro h
          have lt := lt_of_ne_next ascending same (List.mem_of_find?_eq_some h)
          exact String.lt_irrefl _ (named ▸ lt)
        have first : (v :: w :: l).find? (·.id == u.id) = some v :=
          List.find?_cons_of_pos (beq_iff_eq.mpr named)
        rw [first, Option.some.injEq]
        exact ⟨fun h => (h.resolve_right later).symm, fun eq => .inl eq.symm⟩
      case neg =>
        have other : u ≠ v := fun eq => named (congrArg id eq.symm)
        simp [named, other]

theorem eraseRepsBy_ascending (ascending : (v :: l).Pairwise (·.id ≤ ·.id)) :
    ((v :: l).eraseRepsBy (·.id == ·.id)).Pairwise (·.id < ·.id) := by
  induction l generalizing v
  case nil => exact List.pairwise_singleton _ _
  case cons w l hi =>
    rw [eraseRepsBy_cons_cons]
    by_cases same : v.id = w.id
    case pos =>
      rw [if_pos (beq_iff_eq.mpr same)]
      exact hi (ascending.sublist (by simp))
    case neg =>
      rw [if_neg (mt beq_iff_eq.mp same), List.pairwise_cons]
      refine ⟨fun u hu => ?_, hi ascending.of_cons⟩
      have mem := List.mem_of_find?_eq_some ((mem_eraseRepsBy ascending.of_cons).mp hu)
      exact lt_of_ne_next ascending same mem

theorem mem_arranged : u ∈ arranged l ↔ l.find? (·.id == u.id) = some u := by
  have ascending := mergeSort_ascending l
  rw [arranged, ← find?_mergeSort]
  cases h : l.mergeSort (·.id ≤ ·.id)
  case nil => simp [List.eraseRepsBy]
  case cons v l => exact mem_eraseRepsBy (h ▸ ascending)

theorem arranged_ascending (l : List PlacedUnit) : (arranged l).Pairwise (·.id < ·.id) := by
  have ascending := mergeSort_ascending l
  rw [arranged]
  cases h : l.mergeSort (·.id ≤ ·.id)
  case nil => exact .nil
  case cons v l => exact eraseRepsBy_ascending (h ▸ ascending)

theorem mem_ids_arranged {id : String} :
    id ∈ (arranged l).map (·.id) ↔ id ∈ l.map (·.id) := by
  simp only [List.mem_map]
  constructor
  · intro ⟨u, hu, eq⟩
    exact ⟨u, List.mem_of_find?_eq_some (mem_arranged.mp hu), eq⟩
  · intro ⟨u, hu, eq⟩
    subst eq
    have some : (l.find? (·.id == u.id)).isSome :=
      List.find?_isSome.mpr ⟨u, hu, beq_self_eq_true u.id⟩
    have ⟨first, hf⟩ := Option.isSome_iff_exists.mp some
    have named : first.id = u.id := by simpa using List.find?_some hf
    exact ⟨first, mem_arranged.mpr (named ▸ hf), named⟩

-- There is no other ascending list in which the first unit of each name stays.
theorem arranged_eq_iff {units : List PlacedUnit} :
    arranged l = units ↔ units.Pairwise (·.id < ·.id) ∧
      (∀ u ∈ units, l.find? (·.id == u.id) = some u) ∧ ∀ u ∈ l, u.id ∈ units.map (·.id) := by
  constructor
  · intro eq
    subst eq
    exact ⟨arranged_ascending l, fun u => mem_arranged.mp,
      fun u hu => mem_ids_arranged.mpr (List.mem_map_of_mem hu)⟩
  · intro ⟨ascending, firsts, all⟩
    have : Std.Irrefl fun u v : PlacedUnit => u.id < v.id := ⟨fun u => String.lt_irrefl u.id⟩
    have : Std.Antisymm fun u v : PlacedUnit => u.id < v.id :=
      ⟨fun u v lt gt => absurd gt (String.lt_asymm lt)⟩
    apply (arranged_ascending l).eq_of_mem_iff ascending
    intro u
    rw [mem_arranged]
    refine ⟨fun first => ?_, firsts u⟩
    have ⟨v, hv, named⟩ := List.mem_map.mp (all u (List.mem_of_find?_eq_some first))
    cases first.symm.trans (named ▸ firsts v hv)
    exact hv

end RollingUpgrade.PlacedUnit
