import RollingUpgrade.Proofs.Log.Naming

namespace RollingUpgrade.Log.Settings

open Text

variable {s t : String} {ds : List String} {l : Level}

theorem levelsIn_append (s t : String) : levelsIn (s ++ "," ++ t) = levelsIn s ++ levelsIn t := by
  have letters : (s ++ "," ++ t).toList = s.toList ++ ',' :: t.toList := by simp
  rw [levelsIn, letters, splitWhere_append_cons rfl, List.filterMap_append]
  rfl

theorem names_append : Names (s ++ "," ++ t) l ↔ Names s l ∨ Names t l := by
  simp only [← mem_levelsIn, levelsIn_append, List.mem_append]

theorem not_names_empty : ¬Names "" l := by
  have nothing : levelsIn "" = [] := by decide +kernel
  simp [← mem_levelsIn, nothing]

-- Commas between directives are separators like those within them.
theorem names_intercalate : Names (",".intercalate ds) l ↔ ∃ d ∈ ds, Names d l := by
  induction ds
  case nil => simp [not_names_empty]
  case cons d ds hi =>
    by_cases h : ds = []
    case pos => simp [h]
    case neg =>
      rw [String.intercalate_cons_of_ne_nil h, names_append, hi, List.exists_mem_cons_iff]

theorem MostVerbose.congr (h : ∀ l, Names s l ↔ Names t l) : MostVerbose s l ↔ MostVerbose t l := by
  constructor
  · intro ⟨named, least⟩
    exact ⟨(h l).mp named, fun l' named' => least l' ((h l').mpr named')⟩
  · intro ⟨named, least⟩
    exact ⟨(h l).mpr named, fun l' named' => least l' ((h l').mp named')⟩

-- Nothing but the levels that are named matters.
theorem mostVerbose?_congr (h : ∀ l, Names s l ↔ Names t l) : mostVerbose? s = mostVerbose? t := by
  refine Option.ext fun l => ?_
  rw [mostVerbose?_eq_some_iff, mostVerbose?_eq_some_iff, MostVerbose.congr h]

theorem min?_append (ls ls' : List Level) :
    (ls ++ ls').min? = ls.min?.merge min ls'.min? := by
  induction ls
  case nil => simp
  case cons l ls hi =>
    rw [List.cons_append, List.min?_cons, List.min?_cons, hi]
    cases ls.min? <;> cases ls'.min? <;> simp [Std.Associative.assoc]

theorem mostVerbose?_append (s t : String) :
    mostVerbose? (s ++ "," ++ t) = (mostVerbose? s).merge min (mostVerbose? t) := by
  simp only [mostVerbose?_eq, levelsIn_append, min?_append]

-- A list of directives stands for the least level that it names, from trace up to off, and for none
-- if it names none. So neither the order of directives nor their number matters, and two lists
-- together stand for the lesser of the levels that they stand for.
theorem mostVerbose?_takes_minimum :
    [Level.trace, .debug, .info, .warn, .error, .off].Pairwise (fun l l' => l ≤ l' ∧ l ≠ l') ∧
    (∀ directives l, mostVerbose? directives = some l ↔ MostVerbose directives l) ∧
    (∀ directives, mostVerbose? directives = none ↔ ∀ l, ¬Names directives l) ∧
    (∀ ds ds', ds ⊆ ds' → ds' ⊆ ds →
      mostVerbose? (",".intercalate ds) = mostVerbose? (",".intercalate ds')) ∧
    ∀ s t, mostVerbose? (s ++ "," ++ t) = (mostVerbose? s).merge min (mostVerbose? t) := by
  refine ⟨by decide, fun _ _ => mostVerbose?_eq_some_iff, fun _ => mostVerbose?_eq_none_iff,
    ?rearranged, mostVerbose?_append⟩
  case rearranged =>
    intro ds ds' sub sup
    refine mostVerbose?_congr fun l => ?_
    rw [names_intercalate, names_intercalate]
    exact ⟨fun ⟨d, mem, named⟩ => ⟨d, sub mem, named⟩, fun ⟨d, mem, named⟩ => ⟨d, sup mem, named⟩⟩

-- The same directives in another order, one of them twice.
theorem mostVerbose?_takes_minimum_repeated :
    mostVerbose? "quiet, WARNING ,sc_core=debug" = some .debug ∧
    mostVerbose? "sc_core=debug, WARNING ,sc_core=debug,quiet" = some .debug := by
  have ⟨_, _, _, rearranged, _⟩ := mostVerbose?_takes_minimum
  have first : mostVerbose? "quiet, WARNING ,sc_core=debug" = some .debug := by decide +kernel
  have same := rearranged ["quiet", " WARNING ", "sc_core=debug"]
    ["sc_core=debug", " WARNING ", "sc_core=debug", "quiet"] (by decide) (by decide)
  exact ⟨first, same.symm.trans first⟩

end RollingUpgrade.Log.Settings
