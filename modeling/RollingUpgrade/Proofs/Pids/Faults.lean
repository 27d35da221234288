import RollingUpgrade.Pids.Validation
import RollingUpgrade.Proofs.NameMap

namespace RollingUpgrade

namespace NameMap

variable {α β : Type} {m : NameMap α} {n : NameMap β} {name : String} {a : α}

-- The first entry for which something holds.
structure First (m : NameMap α) (P : String → α → Prop) (name : String) (a : α) : Prop where
  mem : (name, a) ∈ m.toList
  holds : P name a
  least : ∀ e ∈ m.toList, e.1 < name → ¬P e.1 e.2

section

variable {l : List (String × α)} {f : String × α → Except Error PUnit} {err : Error}

theorem forM_cons_ok {e : String × α} (h : f e = .ok ()) : (e :: l).forM f = l.forM f := by
  change (f e >>= fun _ => l.forM f) = _
  rw [h]
  rfl

theorem forM_cons_error {e : String × α} (h : f e = .error err) :
    (e :: l).forM f = .error err := by
  change (f e >>= fun _ => l.forM f) = _
  rw [h]
  rfl

theorem forM_eq_ok_iff : l.forM f = .ok () ↔ ∀ e ∈ l, f e = .ok () := by
  induction l
  case nil => exact iff_of_true rfl nofun
  case cons e l hi =>
    rw [List.forall_mem_cons, ← hi]
    cases h : f e
    case error => rw [forM_cons_error h]; exact iff_of_false nofun nofun
    case ok    => rw [forM_cons_ok h]; exact (and_iff_right rfl).symm

-- A walk along a list fails where an element fails and all elements before it pass.
theorem forM_eq_error_iff (ascending : l.Pairwise (·.1 < ·.1)) :
    l.forM f = .error err ↔
      ∃ e ∈ l, f e = .error err ∧ ∀ e' ∈ l, e'.1 < e.1 → f e' = .ok () := by
  induction l
  case nil => exact iff_of_false nofun nofun
  case cons e l hi =>
    have ⟨above, ascending⟩ := List.pairwise_cons.mp ascending
    cases h : f e
    case error err' =>
      rw [forM_cons_error h]
      constructor
      · rintro ⟨⟩
        refine ⟨e, List.mem_cons_self, h, fun e' he' lt => ?_⟩
        rcases List.mem_cons.mp he' with rfl | he'
        · exact absurd lt (String.lt_irrefl _)
        · exact absurd lt (String.lt_asymm (above e' he'))
      · rintro ⟨e', he', h', below⟩
        rcases List.mem_cons.mp he' with rfl | he'
        · exact h.symm.trans h'
        · cases h.symm.trans (below e List.mem_cons_self (above e' he'))
    case ok =>
      rw [forM_cons_ok h, hi ascending]
      constructor
      · rintro ⟨e', he', h', below⟩
        exact ⟨e', List.mem_cons_of_mem _ he', h', List.forall_mem_cons.mpr ⟨fun _ => h, below⟩⟩
      · rintro ⟨e', he', h', below⟩
        rcases List.mem_cons.mp he' with rfl | he'
        · cases h.symm.trans h'
        · exact ⟨e', he', h', (List.forall_mem_cons.mp below).right⟩

-- The names of a map are counted, and if there are as many as there should be, its entries are
-- checked in order.
def countedForM (m : NameMap α) (n : NameMap β) (miscount : Error)
    (f : String → α → Except Error PUnit) : Except Error PUnit :=
  if m.size ≠ n.size then .error miscount else m.toList.forM fun (name, a) => f name a

variable {miscount : Error} {f : String → α → Except Error PUnit}

theorem countedForM_eq_ok_iff : m.countedForM n miscount f = .ok () ↔
    m.size = n.size ∧ ∀ e ∈ m.toList, f e.1 e.2 = .ok () := by
  rw [countedForM]
  split
  case isTrue differ => exact iff_of_false nofun fun h => differ h.left
  case isFalse same  => exact forM_eq_ok_iff.trans (and_iff_right (not_not.mp same)).symm

theorem countedForM_eq_error_iff : m.countedForM n miscount f = .error err ↔
    m.size ≠ n.size ∧ err = miscount ∨
    m.size = n.size ∧ ∃ name a, m.First (fun name a => f name a ≠ .ok ()) name a ∧
      f name a = .error err := by
  rw [countedForM]
  split
  case isTrue differ => simp [differ, eq_comm]
  case isFalse same =>
    rw [forM_eq_error_iff m.ascending]
    constructor
    · rintro ⟨⟨name, a⟩, mem, h, below⟩
      have fails : f name a ≠ .ok () := fun ok => by cases h.symm.trans ok
      have first : m.First (fun name a => f name a ≠ .ok ()) name a :=
        ⟨mem, fails, fun e he lt => not_not_intro (below e he lt)⟩
      exact .inr ⟨not_not.mp same, name, a, first, h⟩
    · rintro (⟨differ, _⟩ | ⟨_, name, a, first, h⟩)
      · exact absurd differ same
      · exact ⟨(name, a), first.mem, h, fun e he lt => not_not.mp (first.least e he lt)⟩

end
end NameMap

namespace PidExpectation

-- The processes of a name are found, as many as are expected.
def Met (e : PidExpectation) (pids? : Option (List String)) : Prop :=
  ∃ pids, pids? = some pids ∧ e.accepts pids.length

-- What is wrong with the processes of a name, or with how many there are.
inductive Fault (unit process : String) (e : PidExpectation) : Option (List String) → Error → Prop
  | unreported : Fault unit process e none (.processNameMismatch unit process)
  | number {pids : List String} : ¬e.accepts pids.length →
    Fault unit process e (some pids) (.pidCountMismatch unit process e.describe pids.length)

variable {e : PidExpectation} {unit process : String} {found : NameMap (List String)} {err : Error}

theorem check_eq_ok_iff : e.check unit found process = .ok () ↔ e.Met (found.find? process) := by
  rw [check, Met]
  cases found.find? process
  case none => simp
  case some pids => simp

theorem check_eq_error_iff :
    e.check unit found process = .error err ↔ Fault unit process e (found.find? process) err := by
  rw [check]
  cases found.find? process
  case none =>
    constructor
    · rintro ⟨⟩
      exact .unreported
    · rintro ⟨⟩
      rfl
  case some pids =>
    dsimp only
    split
    case isTrue accepts => exact iff_of_false nofun fun | .number rejects => rejects accepts
    case isFalse rejects =>
      constructor
      · rintro ⟨⟩
        exact .number rejects
      · rintro ⟨⟩
        rfl

end PidExpectation

namespace ExpectedPids

-- On a unit, processes are found under the expected names and no others, as many as are expected.
def UnitMet (processes : NameMap PidExpectation) (observed? : Option (NameMap (List String))) :
    Prop :=
  ∃ observed, observed? = some observed ∧ (∀ process, process ∈ processes ↔ process ∈ observed) ∧
    ∀ e ∈ processes.toList, e.2.Met (observed.find? e.1)

-- What is wrong with a unit, or with the first process that is not as expected.
inductive UnitFault (unit : String) (processes : NameMap PidExpectation) :
    Option (NameMap (List String)) → Error → Prop
  | absent : UnitFault unit processes none (.unitNotFound unit)
  | number {observed : NameMap (List String)} : processes.size ≠ observed.size →
    UnitFault unit processes (some observed)
      (.processNameCountMismatch unit processes.size observed.size)
  | process {observed : NameMap (List String)} {process : String} {e : PidExpectation}
      {err : Error} :
    processes.size = observed.size →
    processes.First (fun process e => ¬e.Met (observed.find? process)) process e →
    e.Fault unit process (observed.find? process) err →
    UnitFault unit processes (some observed) err

-- The units that are expected are found, and no others, and all is as expected on each.
def Met (expected : ExpectedPids) (found : FoundPids) : Prop :=
  (∀ unit, unit ∈ expected ↔ unit ∈ found) ∧
    ∀ u ∈ expected.toList, UnitMet u.2 (found.find? u.1)

-- What is wrong with the number of units, or with the first unit that is not as expected.
inductive Fault (expected : ExpectedPids) (found : FoundPids) : Error → Prop
  | number : expected.size ≠ found.size →
    Fault expected found (.unitCountMismatch expected.size found.size)
  | unit {unit : String} {processes : NameMap PidExpectation} {err : Error} :
    expected.size = found.size →
    expected.First (fun unit processes => ¬UnitMet processes (found.find? unit)) unit processes →
    UnitFault unit processes (found.find? unit) err →
    Fault expected found err

variable {expected : ExpectedPids} {found : FoundPids} {unit : String}
  {processes : NameMap PidExpectation} {err : Error}

theorem checkUnit_of_none (h : found.find? unit = none) :
    checkUnit found unit processes = .error (.unitNotFound unit) := by
  rw [checkUnit, processesOf, h]
  rfl

theorem checkUnit_of_some {observed : NameMap (List String)}
    (h : found.find? unit = some observed) :
    checkUnit found unit processes = processes.countedForM observed
      (.processNameCountMismatch unit processes.size observed.size)
      fun process e => e.check unit observed process := by
  rw [checkUnit, processesOf, h, NameMap.countedForM]
  dsimp only
  split <;> rfl

theorem validate_eq : expected.validate found = expected.countedForM found
    (.unitCountMismatch expected.size found.size) (checkUnit found) := by
  rw [validate, countUnits, NameMap.countedForM]
  split <;> rfl

theorem checkUnit_eq_ok_iff :
    checkUnit found unit processes = .ok () ↔ UnitMet processes (found.find? unit) := by
  cases h : found.find? unit
  case none => rw [checkUnit_of_none h]; exact iff_of_false nofun nofun
  case some observed =>
    have known process (e : PidExpectation) (met : e.Met (observed.find? process)) :
        process ∈ observed :=
      NameMap.mem_iff_find?.mpr (met.imp fun _ => And.left)
    rw [checkUnit_of_some h, NameMap.countedForM_eq_ok_iff]
    simp only [PidExpectation.check_eq_ok_iff]
    rw [← NameMap.same_names_and_iff known]
    exact ⟨fun met => ⟨observed, rfl, met⟩, fun ⟨_, rfl, met⟩ => met⟩

theorem checkUnit_eq_error_iff :
    checkUnit found unit processes = .error err ↔
      UnitFault unit processes (found.find? unit) err := by
  cases h : found.find? unit
  case none =>
    rw [checkUnit_of_none h]
    constructor
    · rintro ⟨⟩
      exact .absent
    · rintro ⟨⟩
      rfl
  case some observed =>
    rw [checkUnit_of_some h, NameMap.countedForM_eq_error_iff]
    simp only [ne_eq, PidExpectation.check_eq_ok_iff, PidExpectation.check_eq_error_iff]
    constructor
    · rintro (⟨differ, rfl⟩ | ⟨same, _, _, first, fault⟩)
      · exact .number differ
      · exact .process same first fault
    · rintro (_ | differ | ⟨same, first, fault⟩)
      · exact .inl ⟨differ, rfl⟩
      · exact .inr ⟨same, _, _, first, fault⟩

-- The comparison accepts what is as expected and nothing else. Of all faults it reports the first.
-- Which counts an expectation accepts is what its words say, by `accepts_eq_admits`.
theorem validate_finds_first_fault (expected : ExpectedPids) (found : FoundPids) :
    (expected.validate found = .ok () ↔ expected.Met found) ∧
    ∀ err, expected.validate found = .error err ↔ expected.Fault found err := by
  rw [validate_eq]
  constructor
  · have known unit processes (met : UnitMet processes (found.find? unit)) : unit ∈ found :=
      NameMap.mem_iff_find?.mpr (met.imp fun _ => And.left)
    rw [NameMap.countedForM_eq_ok_iff]
    simp only [checkUnit_eq_ok_iff]
    exact (NameMap.same_names_and_iff known).symm
  · intro err
    rw [NameMap.countedForM_eq_error_iff]
    simp only [ne_eq, checkUnit_eq_ok_iff, checkUnit_eq_error_iff]
    constructor
    · rintro (⟨differ, rfl⟩ | ⟨same, _, _, first, fault⟩)
      · exact .number differ
      · exact .unit same first fault
    · rintro (differ | ⟨same, first, fault⟩)
      · exact .inl ⟨differ, rfl⟩
      · exact .inr ⟨same, _, _, first, fault⟩

end ExpectedPids
end RollingUpgrade
