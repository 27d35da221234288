import RollingUpgrade.Document

namespace RollingUpgrade

open Document

namespace Json

variable {entries es : List (String × Json)} {key : String} {v j w : Json}

theorem settle?_of_mem (h : settleEntries? entries = some es) (mem : (key, j) ∈ entries) :
    ∃ w, j.settle? = some w ∧ (key, w) ∈ es := by
  induction entries generalizing es
  case nil => cases mem
  case cons e entries hi =>
    simp only [settleEntries?, Option.bind_eq_bind, Option.bind_eq_some_iff, Option.pure_def,
      Option.some.injEq] at h
    obtain ⟨w, hw, ws, hws, rfl⟩ := h
    rcases List.mem_cons.mp mem with rfl | mem
    · exact ⟨w, hw, List.mem_cons_self⟩
    · obtain ⟨w', hw', mem'⟩ := hi hws mem
      exact ⟨w', hw', List.mem_cons_of_mem _ mem'⟩

theorem exists_mem_of_settled (h : settleEntries? entries = some es) (mem : (key, w) ∈ es) :
    ∃ j, j.settle? = some w ∧ (key, j) ∈ entries := by
  induction entries generalizing es
  case nil =>
    cases h
    cases mem
  case cons e entries hi =>
    simp only [settleEntries?, Option.bind_eq_bind, Option.bind_eq_some_iff, Option.pure_def,
      Option.some.injEq] at h
    obtain ⟨w', hw', ws, hws, rfl⟩ := h
    rcases List.mem_cons.mp mem with h | mem
    · cases h
      exact ⟨e.2, hw', List.mem_cons_self⟩
    · obtain ⟨j, hj, mem'⟩ := hi hws mem
      exact ⟨j, hj, List.mem_cons_of_mem _ mem'⟩

theorem settle?_object_iff : (Json.object entries).settle? = some v ↔
    ∃ es, settleEntries? entries = some es ∧ .object (NameMap.ofList es).toList = v :=
  Option.map_eq_some_iff

-- An object of data in the order of its keys is data.
theorem settle?_object_self (ascending : entries.Pairwise (·.1 < ·.1))
    (settled : ∀ e ∈ entries, e.2.settle? = some e.2) :
    (Json.object entries).settle? = some (.object entries) :=
  settle?_object_iff.mpr ⟨entries, settleEntries?_eq_some_self.mpr settled,
    congrArg Json.object (NameMap.toList_ofList ascending)⟩

theorem settle?_ofMap {α : Type} {encode : α → Json} {m : NameMap α}
    (settled : ∀ a, (encode a).settle? = some (encode a)) :
    (ofMap encode m).settle? = some (ofMap encode m) := by
  refine settle?_object_self (List.pairwise_map.mpr m.ascending) fun e he => ?_
  obtain ⟨e, _, rfl⟩ := List.mem_map.mp he
  exact settled e.2

-- What an object has under a key as data, it has there in the text.
theorem get?_settled (h : (Json.object entries).settle? = some v) (hw : v.get? key = some w) :
    ∃ j, j.settle? = some w ∧ (key, j) ∈ entries := by
  obtain ⟨es, hes, rfl⟩ := settle?_object_iff.mp h
  have mem : (key, w) ∈ (NameMap.ofList es).toList := NameMap.find?_eq_some_iff.mp hw
  exact exists_mem_of_settled hes (NameMap.mem_of_mem_ofList mem)

theorem exists_get?_settled (h : (Json.object entries).settle? = some v)
    (mem : (key, j) ∈ entries) : ∃ w, v.get? key = some w := by
  obtain ⟨es, hes, rfl⟩ := settle?_object_iff.mp h
  have ⟨w, _, mem⟩ := settle?_of_mem hes mem
  have known : (NameMap.ofList es).find? key ≠ none := by
    rw [NameMap.find?_ofList, ne_eq, List.lookup_eq_none_iff]
    exact fun absent => by simpa using absent _ (List.mem_reverse.mpr mem)
  exact Option.ne_none_iff_exists'.mp known

theorem get?_settled_eq_none_iff (h : (Json.object entries).settle? = some v) :
    v.get? key = none ↔ ∀ e ∈ entries, e.1 ≠ key := by
  constructor
  · rintro absent ⟨key', j⟩ mem rfl
    have ⟨w, hw⟩ := exists_get?_settled h mem
    cases absent.symm.trans hw
  · intro absent
    refine Option.eq_none_iff_forall_ne_some.mpr fun w hw => ?_
    have ⟨j, _, mem⟩ := get?_settled h hw
    exact absent _ mem rfl

-- An object has the same keys as data as in the text.
theorem forall_ne_settled_iff (h : (Json.object entries).settle? = some (.object es)) :
    (∀ e ∈ es, e.1 ≠ key) ↔ ∀ e ∈ entries, e.1 ≠ key := by
  have absent : (Json.object es).get? key = none ↔ ∀ e ∈ es, e.1 ≠ key := by
    rw [get?, List.lookup_eq_none_iff]
    exact forall₂_congr fun e _ => bne_iff_ne.trans ne_comm
  rw [← absent, get?_settled_eq_none_iff h]

end Json

namespace Document

variable {δ : Type} {spellings : List String} {entries : List (String × δ)} {d : δ}

theorem field?_eq_none_iff :
    field? spellings entries = some none ↔ ∀ e ∈ entries, e.1 ∉ spellings := by
  have absent : entries.filter (fun e => e.1 ∈ spellings) = [] ↔
      ∀ e ∈ entries, e.1 ∉ spellings := by
    simp
  rw [← absent, field?]
  split
  case h_1 nil    => exact iff_of_true rfl nil
  case h_2 one    => exact iff_of_false nofun (one ▸ nofun)
  case h_3 many _ => exact iff_of_false nofun many

theorem filter_of_field? (h : field? spellings entries = some (some d)) :
    ∃ spelling, entries.filter (fun e => e.1 ∈ spellings) = [(spelling, d)] := by
  rw [field?] at h
  split at h
  case h_1     => nomatch h
  case h_2 one => cases h; exact ⟨_, one⟩
  case h_3     => nomatch h

theorem exists_mem_of_field? (h : field? spellings entries = some (some d)) :
    ∃ e ∈ entries, e.1 ∈ spellings ∧ e.2 = d := by
  have ⟨spelling, one⟩ := filter_of_field? h
  have mem := one ▸ List.mem_singleton_self (spelling, d)
  have ⟨mem, spelled⟩ := List.mem_filter.mp mem
  exact ⟨_, mem, of_decide_eq_true spelled, rfl⟩

theorem value_of_field? (h : field? spellings entries = some (some d)) {e : String × δ}
    (mem : e ∈ entries) (spelled : e.1 ∈ spellings) : e.2 = d := by
  have ⟨spelling, one⟩ := filter_of_field? h
  have mem : e ∈ entries.filter fun e => e.1 ∈ spellings :=
    List.mem_filter.mpr ⟨mem, decide_eq_true spelled⟩
  rw [one] at mem
  exact List.mem_singleton.mp mem ▸ rfl

end Document
end RollingUpgrade
