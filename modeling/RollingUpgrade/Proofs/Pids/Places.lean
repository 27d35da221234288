import RollingUpgrade.Proofs.Pids.Faults

namespace RollingUpgrade

-- The place of a violation: all units, one unit, or a process on a unit. All units come before any
-- of them, and a unit comes before its processes.
def Error.place : Error → List String
  | .unitNotFound unit | .processNameCountMismatch unit ..                => [unit]
  | .processNameMismatch unit process | .pidCountMismatch unit process .. => [unit, process]
  | _                                                                     => []

-- Of some violations, the one whose place comes first.
def Foremost (V : Error → Prop) (err : Error) : Prop :=
  V err ∧ ∀ err', V err' → err' = err ∨ err.place < err'.place

-- Of some violations, one of the check that comes first.
def OfEarliestCheck (V : Error → Prop) (err : Error) : Prop :=
  V err ∧ ∀ err', V err' → err.code ≤ err'.code

-- A check that fails with the foremost violation, and passes only if there is none.
def FindsForemost (V : Error → Prop) : Except Error Unit → Prop
  | .ok _      => ∀ err, ¬V err
  | .error err => Foremost V err

theorem Foremost.unique {V : Error → Prop} {err err' : Error} (h : Foremost V err)
    (h' : Foremost V err') : err = err' := by
  rcases h.right err' h'.left with same | before
  · exact same.symm
  rcases h'.right err h.left with same | after
  · exact same
  · exact absurd after (List.lt_asymm before)

-- What the order of places says about the order of checks: only later places are in question.
theorem Foremost.ofEarliestCheck_iff {V : Error → Prop} {err : Error} (h : Foremost V err) :
    OfEarliestCheck V err ↔ ∀ err', V err' → err.place < err'.place → err.code ≤ err'.code := by
  constructor
  · exact fun earliest err' hv _ => earliest.right err' hv
  · intro later
    refine ⟨h.left, fun err' hv => ?_⟩
    rcases h.right err' hv with rfl | after
    · exact Nat.le_refl _
    · exact later err' hv after

namespace FindsForemost

variable {V W : Error → Prop} {check : Except Error Unit} {err : Error}

theorem congr (h : FindsForemost V check) (same : ∀ err, V err ↔ W err) :
    FindsForemost W check :=
  (funext fun err => propext (same err) : V = W) ▸ h

theorem eq_ok_iff (h : FindsForemost V check) : check = .ok () ↔ ∀ err, ¬V err := by
  cases check
  case error err => exact iff_of_false nofun fun none => none err h.left
  case ok _      => exact iff_of_true rfl h

theorem eq_error_iff (h : FindsForemost V check) : check = .error err ↔ Foremost V err := by
  cases check
  case error err' =>
    constructor
    · rintro ⟨⟩
      exact h
    · intro h'
      rw [h.unique h']
  case ok _ => exact iff_of_false nofun fun h' => h err h'.left

end FindsForemost

namespace NameMap

variable {α β : Type} {pre : List String} {V : String → α → Error → Prop}

-- All violations under a name are at places below it.
def Located (pre : List String) (V : String → α → Error → Prop) : Prop :=
  ∀ name a err, V name a err → ∃ rest, err.place = pre ++ name :: rest

theorem Located.place_lt (located : Located pre V) {name name' : String} {a a' : α}
    {err err' : Error} (h : V name a err) (h' : V name' a' err') (lt : name < name') :
    err.place < err'.place := by
  obtain ⟨rest, e⟩ := located name a err h
  obtain ⟨rest', e'⟩ := located name' a' err' h'
  rw [e, e']
  exact List.append_left_lt (List.cons_lt_cons_iff.mpr (.inl lt))

-- The induction is on the entries that are left: those before them have no violation.
theorem forM_findsForemost {l : List (String × α)} {f : String → α → Except Error Unit}
    (ascending : l.Pairwise (·.1 < ·.1)) (located : Located pre V)
    (h : ∀ e ∈ l, FindsForemost (V e.1 e.2) (f e.1 e.2)) :
    FindsForemost (fun err => ∃ e ∈ l, V e.1 e.2 err) (l.forM fun (name, a) => f name a) := by
  induction l
  case nil => exact fun _ ⟨_, hn, _⟩ => nomatch hn
  case cons e l hi =>
    have ⟨above, ascending⟩ := List.pairwise_cons.mp ascending
    have ⟨here, h⟩ := List.forall_mem_cons.mp h
    cases hf : f e.1 e.2
    case error err =>
      rw [hf] at here
      rw [forM_cons_error hf]
      refine ⟨⟨e, List.mem_cons_self, here.left⟩, fun err' ⟨e', he', hv⟩ => ?_⟩
      rcases List.mem_cons.mp he' with rfl | he'
      · exact here.right err' hv
      · exact .inr (located.place_lt here.left hv (above e' he'))
    case ok =>
      rw [hf] at here
      rw [forM_cons_ok hf]
      refine (hi ascending h).congr fun err => ?_
      rw [List.exists_mem_cons_iff]
      exact (or_iff_right (here err)).symm

theorem countedForM_findsForemost {m : NameMap α} {n : NameMap β} {miscount : Error}
    {f : String → α → Except Error Unit} (located : Located pre V) (place : miscount.place = pre)
    (h : ∀ e ∈ m.toList, FindsForemost (V e.1 e.2) (f e.1 e.2)) :
    FindsForemost
      (fun err => m.size ≠ n.size ∧ err = miscount ∨ ∃ e ∈ m.toList, V e.1 e.2 err)
      (m.countedForM n miscount f) := by
  rw [countedForM]
  split
  case isTrue differ =>
    refine ⟨.inl ⟨differ, rfl⟩, fun err' hv => ?_⟩
    rcases hv with ⟨_, rfl⟩ | ⟨e, _, hv⟩
    · exact .inl rfl
    · obtain ⟨rest, e'⟩ := located _ _ _ hv
      have below : pre ++ [] < pre ++ e.1 :: rest := List.append_left_lt (List.nil_lt_cons _ _)
      rw [List.append_nil] at below
      rw [place, e']
      exact .inr below
  case isFalse same =>
    refine (forM_findsForemost m.ascending located h).congr fun err => ?_
    exact (or_iff_right fun differ => same differ.left).symm

end NameMap

namespace PidExpectation

variable {e : PidExpectation} {unit process : String}

theorem Fault.place_eq {pids? : Option (List String)} {err : Error}
    (h : e.Fault unit process pids? err) : err.place = [unit, process] := by
  cases h <;> rfl

theorem Fault.code_absent_le {pids? : Option (List String)} {err : Error}
    (h : e.Fault unit process pids? err) : (Error.unitNotFound unit).code ≤ err.code := by
  cases h <;> simp [Error.code]

theorem check_findsForemost (found : NameMap (List String)) :
    FindsForemost (e.Fault unit process (found.find? process)) (e.check unit found process) := by
  cases h : e.check unit found process
  case error err =>
    refine ⟨check_eq_error_iff.mp h, fun err' fault => .inl ?_⟩
    exact Except.error.inj ((check_eq_error_iff.mpr fault).symm.trans h)
  case ok => exact fun err fault => nomatch h.symm.trans (check_eq_error_iff.mpr fault)

end PidExpectation

namespace ExpectedPids

-- What is wrong with a unit or with a process on it, whatever else is wrong there.
inductive UnitViolation (unit : String) (processes : NameMap PidExpectation) :
    Option (NameMap (List String)) → Error → Prop
  | absent : UnitViolation unit processes none (.unitNotFound unit)
  | number {observed : NameMap (List String)} : processes.size ≠ observed.size →
    UnitViolation unit processes (some observed)
      (.processNameCountMismatch unit processes.size observed.size)
  | process {observed : NameMap (List String)} {e : String × PidExpectation} {err : Error} :
    e ∈ processes.toList → e.2.Fault unit e.1 (observed.find? e.1) err →
    UnitViolation unit processes (some observed) err

-- What is wrong anywhere in the maps.
inductive Violation (expected : ExpectedPids) (found : FoundPids) : Error → Prop
  | number : expected.size ≠ found.size →
    Violation expected found (.unitCountMismatch expected.size found.size)
  | unit {u : String × NameMap PidExpectation} {err : Error} :
    u ∈ expected.toList → UnitViolation u.1 u.2 (found.find? u.1) err →
    Violation expected found err

variable {expected : ExpectedPids} {found : FoundPids} {unit : String}
  {processes : NameMap PidExpectation} {err : Error}

theorem unitViolation_some_iff {observed : NameMap (List String)} :
    UnitViolation unit processes (some observed) err ↔
      processes.size ≠ observed.size ∧
        err = .processNameCountMismatch unit processes.size observed.size ∨
      ∃ e ∈ processes.toList, e.2.Fault unit e.1 (observed.find? e.1) err := by
  constructor
  · rintro (_ | differ | ⟨mem, fault⟩)
    · exact .inl ⟨differ, rfl⟩
    · exact .inr ⟨_, mem, fault⟩
  · rintro (⟨differ, rfl⟩ | ⟨_, mem, fault⟩)
    · exact .number differ
    · exact .process mem fault

theorem violation_iff : Violation expected found err ↔
    expected.size ≠ found.size ∧ err = .unitCountMismatch expected.size found.size ∨
    ∃ u ∈ expected.toList, UnitViolation u.1 u.2 (found.find? u.1) err := by
  constructor
  · rintro (differ | ⟨mem, violation⟩)
    · exact .inl ⟨differ, rfl⟩
    · exact .inr ⟨_, mem, violation⟩
  · rintro (⟨differ, rfl⟩ | ⟨_, mem, violation⟩)
    · exact .number differ
    · exact .unit mem violation

theorem UnitViolation.place_eq {observed? : Option (NameMap (List String))}
    (h : UnitViolation unit processes observed? err) : ∃ rest, err.place = unit :: rest := by
  cases h
  case absent          => exact ⟨[], rfl⟩
  case number          => exact ⟨[], rfl⟩
  case process _ fault => exact ⟨_, fault.place_eq⟩

-- Of the checks of a unit, the first is whether it is there.
theorem UnitViolation.code_absent_le {observed? : Option (NameMap (List String))}
    (h : UnitViolation unit processes observed? err) :
    (Error.unitNotFound unit).code ≤ err.code := by
  cases h
  case absent          => exact Nat.le_refl _
  case number          => exact Nat.le_succ _
  case process _ fault => exact fault.code_absent_le

theorem checkUnit_findsForemost :
    FindsForemost (UnitViolation unit processes (found.find? unit))
      (checkUnit found unit processes) := by
  cases h : found.find? unit
  case none =>
    rw [checkUnit_of_none h]
    refine ⟨.absent, fun err' violation => .inl ?_⟩
    cases violation
    rfl
  case some observed =>
    have located : NameMap.Located [unit] fun process (e : PidExpectation) =>
        e.Fault unit process (observed.find? process) :=
      fun process e err fault => ⟨[], fault.place_eq⟩
    rw [checkUnit_of_some h]
    refine (NameMap.countedForM_findsForemost located rfl fun e _ => ?_).congr
      fun err => unitViolation_some_iff.symm
    exact PidExpectation.check_findsForemost observed

theorem validate_findsForemost : FindsForemost (expected.Violation found)
    (expected.validate found) := by
  have located : NameMap.Located [] fun unit (processes : NameMap PidExpectation) =>
      UnitViolation unit processes (found.find? unit) :=
    fun unit processes err violation => violation.place_eq
  rw [validate_eq]
  refine (NameMap.countedForM_findsForemost located rfl fun u _ => ?_).congr
    fun err => violation_iff.symm
  exact checkUnit_findsForemost

-- The comparison passes if nothing is wrong anywhere, and else it reports the violation whose place
-- comes first. That is one of the check that comes first if and only if no check that comes before
-- it is violated at a later place.
theorem validate_reports_earliest_check_iff (expected : ExpectedPids) (found : FoundPids) :
    (expected.validate found = .ok () ↔ ∀ err, ¬expected.Violation found err) ∧
    (∀ err, expected.validate found = .error err ↔ Foremost (expected.Violation found) err) ∧
    ∀ err, expected.validate found = .error err →
      (OfEarliestCheck (expected.Violation found) err ↔
        ∀ err', expected.Violation found err' → err.place < err'.place → err.code ≤ err'.code) := by
  have finds : FindsForemost (expected.Violation found) (expected.validate found) :=
    validate_findsForemost
  refine ⟨finds.eq_ok_iff, fun err => finds.eq_error_iff, fun err failed => ?_⟩
  exact (finds.eq_error_iff.mp failed).ofEarliestCheck_iff

-- One process on each of three units.
def computeUnits : ExpectedPids :=
  .ofList (["nova/0", "nova/1", "nova/2"].map fun unit =>
    (unit, .ofList [("nova-compute", .exact 1)]))

-- What is found where the second unit gave way to a fourth one.
def foundWithStray (first last : List String) : FoundPids :=
  .ofList [("nova/0", .ofList [("nova-compute", first)]),
    ("nova/2", .ofList [("nova-compute", last)]), ("nova/3", .ofList [("nova-compute", ["9"])])]

theorem validate_reports_earliest_check_absent_unit :
    computeUnits.validate (foundWithStray ["7"] []) = .error (.unitNotFound "nova/1") ∧
      OfEarliestCheck (computeUnits.Violation (foundWithStray ["7"] []))
        (.unitNotFound "nova/1") := by
  have failed : computeUnits.validate (foundWithStray ["7"] []) =
      .error (.unitNotFound "nova/1") := by rfl
  have ⟨_, _, earliest⟩ :=
    validate_reports_earliest_check_iff computeUnits (foundWithStray ["7"] [])
  refine ⟨failed, (earliest _ failed).mpr fun err' violation later => ?_⟩
  cases violation
  case number           => nomatch later
  case unit _ violation => exact violation.code_absent_le

-- The number of processes on the first unit is reported although the second unit is absent.
theorem validate_reports_number_before_absence :
    ¬∀ (expected : ExpectedPids) (found : FoundPids) (err : Error),
      expected.validate found = .error err → OfEarliestCheck (expected.Violation found) err := by
  intro claimed
  have failed : computeUnits.validate (foundWithStray [] ["8"]) =
      .error (.pidCountMismatch "nova/0" "nova-compute" "1" 0) := by rfl
  have absent : computeUnits.Violation (foundWithStray [] ["8"]) (.unitNotFound "nova/1") :=
    .unit (u := computeUnits.toList[1]) (List.getElem_mem _) .absent
  have order := (claimed _ _ _ failed).right _ absent
  simp [Error.code] at order

end ExpectedPids
end RollingUpgrade
