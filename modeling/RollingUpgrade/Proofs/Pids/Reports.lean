import RollingUpgrade.Pids.Discovery
import RollingUpgrade.Proofs.Inquiry
import RollingUpgrade.Proofs.Pids.Places
import RollingUpgrade.Proofs.Text.Words

namespace RollingUpgrade

namespace NameMap

variable {α β : Type} {m : NameMap (NameMap α)} {n : NameMap (NameMap β)}

-- The values of a map of maps with both their names, in ascending order.
def entries (m : NameMap (NameMap α)) : List ((String × String) × α) :=
  m.toList.flatMap fun e => e.2.toList.map fun (name, a) => ((e.1, name), a)

-- The names in a map of maps.
def shape (m : NameMap (NameMap α)) : NameMap (List String) := m.map fun _ n => n.keys

theorem mem_entries {outer inner : String} {a : α} :
    ((outer, inner), a) ∈ m.entries ↔ ∃ k, (outer, k) ∈ m.toList ∧ (inner, a) ∈ k.toList := by
  simp [entries]

-- The order of places: that of the outer names, and of the inner names within each.
theorem entries_ascending (m : NameMap (NameMap α)) :
    (m.entries.map (·.1)).Pairwise (Prod.Lex (· < ·) (· < ·)) := by
  rw [List.pairwise_map, entries, List.pairwise_flatMap]
  constructor
  · intro e _
    exact List.pairwise_map.mpr (e.2.ascending.imp fun inner => .right _ inner)
  · refine m.ascending.imp fun {e e'} outer x hx y hy => ?_
    have ⟨p, _, hp⟩ := List.mem_map.mp hx
    have ⟨p', _, hp'⟩ := List.mem_map.mp hy
    subst hp hp'
    exact .left _ _ outer

theorem mem_shape {name : String} {names : List String} :
    (name, names) ∈ m.shape.toList ↔ ∃ k, (name, k) ∈ m.toList ∧ k.keys = names := by
  simp [shape, map]

theorem size_shape (m : NameMap (NameMap α)) : m.shape.size = m.size :=
  List.length_map _

end NameMap

namespace ExpectedPids

variable {expected : ExpectedPids} {found : FoundPids} {err : Error}

-- An expected number of processes that is not the number found.
inductive Miscount (expected : ExpectedPids) (found : FoundPids) : Error → Prop
  | intro {unit process : String} {e : PidExpectation} {pids : List String} :
    ((unit, process), e) ∈ expected.entries → ((unit, process), pids) ∈ found.entries →
    ¬e.accepts pids.length →
    Miscount expected found (.pidCountMismatch unit process e.describe pids.length)

-- Where the expected processes are found on the expected units, only their numbers can be wrong.
theorem violation_iff_miscount (same : found.shape = expected.shape) :
    expected.Violation found err ↔ Miscount expected found err := by
  have size : expected.size = found.size := by
    rw [← expected.size_shape, ← found.size_shape, same]
  constructor
  · intro h
    cases h
    case number differ => exact absurd size differ
    case unit u mem h =>
      have listed : (u.1, u.2.keys) ∈ found.shape.toList :=
        same ▸ NameMap.mem_shape.mpr ⟨u.2, mem, rfl⟩
      have ⟨observed, observed_mem, keys⟩ := NameMap.mem_shape.mp listed
      rw [NameMap.find?_eq_some_iff.mpr observed_mem] at h
      cases h
      case number differ =>
        have size : u.2.size = observed.size := by simp only [NameMap.size_eq_length_keys, keys]
        exact absurd size differ
      case process p mem' h =>
        cases reported : observed.find? p.1
        case none =>
          have known : p.1 ∈ observed.keys := keys ▸ List.mem_map_of_mem mem'
          have ⟨pids, reported'⟩ := NameMap.mem_iff_find?.mp known
          cases reported.symm.trans reported'
        case some pids =>
          rw [reported] at h
          cases h
          case number rejects =>
            exact .intro (NameMap.mem_entries.mpr ⟨_, mem, mem'⟩) (NameMap.mem_entries.mpr
              ⟨_, observed_mem, NameMap.find?_eq_some_iff.mp reported⟩) rejects
  · intro h
    cases h
    case intro unit process e pids mem mem' rejects =>
      have ⟨processes, unit_mem, mem⟩ := NameMap.mem_entries.mp mem
      have ⟨observed, observed_mem, mem'⟩ := NameMap.mem_entries.mp mem'
      have fault : e.Fault unit process (some pids)
          (.pidCountMismatch unit process e.describe pids.length) := .number rejects
      refine .unit unit_mem ?_
      rw [NameMap.find?_eq_some_iff.mpr observed_mem]
      exact .process mem (NameMap.find?_eq_some_iff.mpr mem' ▸ fault)

-- The comparison accepts what is found if no number is wrong. Else it reports a wrong number.
theorem validate_of_same_shape (same : found.shape = expected.shape) :
    (expected.validate found = .ok () ↔
      ∀ place e pids, (place, e) ∈ expected.entries → (place, pids) ∈ found.entries →
        e.accepts pids.length) ∧
    ∀ err, expected.validate found = .error err → Miscount expected found err := by
  have finds : FindsForemost (Miscount expected found) (expected.validate found) :=
    validate_findsForemost.congr fun _ => violation_iff_miscount same
  refine ⟨finds.eq_ok_iff.trans ⟨?accepted, ?passes⟩, ?fails⟩
  case accepted =>
    intro h place e pids mem mem'
    by_contra rejects
    exact h _ (.intro mem mem' rejects)
  case passes =>
    intro h err miscount
    cases miscount
    case intro mem mem' rejects => exact rejects (h _ _ _ mem mem')
  case fails => exact fun err failed => (finds.eq_error_iff.mp failed).left

end ExpectedPids

namespace Pids

variable {σ : Type} {answer : Client.Handler σ} {s : σ} {expectSuccess : Bool}

-- The command did not tell the processes of a name, and what is made of that.
inductive Untold (unit command : String) : Except Error CommandResult → Error → Prop
  | unanswered {e : Error} : Untold unit command (.error e) e
  | failed {result : CommandResult} : ¬result.success →
    Untold unit command (.ok result) (.processIdsFailed unit command result.exitCode result.stderr)

-- Asking units for the processes of a name. Commands have to report that they succeeded.
def pidof (expectSuccess : Bool) : Inquiry Client (String × String) CommandResult where
  told := fun r => ⟨.run r.1.1 (command r.1.2 expectSuccess), .ok r.2⟩
  Accepts := fun r => r.2.success
  Refuses := fun place x e => ∃ reply, x = ⟨.run place.1 (command place.2 expectSuccess), reply⟩ ∧
    Untold place.1 (command place.2 expectSuccess) reply e

-- How it is noted which processes a command told.
def note (unit process : String) (pids : List String) : Log.Event where
  level   := .debug
  target  := Log.Target.discovery
  message := "pidof"
  fields  := [("unit", .quoted unit), ("process", .quoted process), ("pids", .names pids)]

theorem run_find (unit process : String) : (find unit process expectSuccess).run answer s =
    ((Call.run unit (command process expectSuccess)).perform.run answer s).andThen fun result s =>
      if result.success then
        let pids := Text.words result.stdout
        ⟨.ok pids, [.logged (note unit process pids)], s⟩
      else ⟨.error (.processIdsFailed unit (command process expectSuccess) result.exitCode
        result.stderr), [], s⟩ := by
  refine (Program.run_bind _ _ _).trans ?_
  congr
  funext result s
  cases result.success <;> rfl

theorem find_conducts (unit process : String) :
    (pidof expectSuccess).Conducts [(unit, process)]
      (fun told pids => ∃ result, told = [((unit, process), result)] ∧
        pids = Text.words result.stdout)
      ((find unit process expectSuccess).run answer s) := by
  rw [run_find, Call.run_perform]
  cases (answer (.run unit (command process expectSuccess)) s).1
  case error e => exact .upTo [] rfl (fun _ h => nomatch h) rfl ⟨_, rfl, .unanswered⟩ rfl
  case ok result =>
    rw [Run.andThen_ok rfl]
    by_cases success : result.success
    case pos =>
      refine .through [((unit, process), result)] rfl (List.forall_mem_singleton.mpr success) ?_ ?_
        ⟨result, rfl, rfl⟩
      all_goals simp [success, Run.exchanges, pidof]
    case neg =>
      refine .upTo [] rfl (fun _ h => nomatch h) ?_ ⟨_, rfl, .failed success⟩ ?_
      all_goals simp [success, Run.exchanges]

-- The words that a command printed, under the names of the unit and of the process.
def worded (r : (String × String) × CommandResult) : (String × String) × List String :=
  (r.1, Text.words r.2.stdout)

-- The processes of a unit as they were told, under the names that were asked for.
structure UnitTold (unit : String) (names : List String)
    (told : List ((String × String) × CommandResult)) (processes : List (String × List String)) :
    Prop where
  names : processes.map (·.1) = names
  words : (processes.map fun p => ((unit, p.1), p.2)) = told.map worded

theorem findNamed_conducts (unit : String) (names : List String) (s : σ) :
    (pidof expectSuccess).Conducts (names.map (unit, ·)) (UnitTold unit names)
      ((names.mapM fun process => do return (process, ← find unit process expectSuccess)).run
        answer s) := by
  have one process (_ : process ∈ names) s : (pidof expectSuccess).Conducts [(unit, process)]
      (fun told c => ∃ result, told = [((unit, process), result)] ∧
        c = (process, Text.words result.stdout))
      ((find unit process expectSuccess >>= fun pids => pure (process, pids)).run answer s) :=
    (find_conducts unit process).retell (Program.retells_of_notes (fun _ => .done _) s)
      fun _ _ ⟨result, told, words⟩ => ⟨result, told, words ▸ rfl⟩
  rw [List.map_eq_flatMap]
  refine Inquiry.Conducts.mapM one ⟨rfl, rfl⟩ (fun process names told told' c cs first rest => ?_) s
  have ⟨result, told, c⟩ := first
  subst told c
  exact ⟨by simp [rest.names], by simp [rest.words, worded]⟩

-- The processes of one unit, as they are looked for.
def findOnUnit (expectSuccess : Bool) (u : String × NameMap PidExpectation) :
    Program Client (String × NameMap (List String)) := do
  let found ← u.2.keys.mapM fun process => do return (process, ← find u.1 process expectSuccess)
  return (u.1, .ofList found)

theorem findOnUnit_conducts (u : String × NameMap PidExpectation) (s : σ) :
    (pidof expectSuccess).Conducts (u.2.keys.map (u.1, ·))
      (fun told c => c.1 = u.1 ∧ UnitTold u.1 u.2.keys told c.2.toList)
      ((findOnUnit expectSuccess u).run answer s) := by
  refine (findNamed_conducts u.1 u.2.keys s).retell
    (Program.retells_of_notes (fun _ => .done _) s) fun told processes unitTold => ⟨rfl, ?_⟩
  have ascending : processes.Pairwise (·.1 < ·.1) :=
    List.pairwise_map.mp (unitTold.names ▸ u.2.keys_ascending)
  rw [NameMap.toList_ofList ascending]
  exact unitTold

-- The processes of units as they were told, for the units and under the names that were asked for.
structure AllTold (units : List (String × NameMap PidExpectation))
    (told : List ((String × String) × CommandResult))
    (found : List (String × NameMap (List String))) : Prop where
  names : found.map (fun c => (c.1, c.2.keys)) = units.map fun u => (u.1, u.2.keys)
  words : (found.flatMap fun c => c.2.toList.map fun p => ((c.1, p.1), p.2)) = told.map worded

theorem AllTold.ascending {expected : ExpectedPids}
    {told : List ((String × String) × CommandResult)}
    {found : List (String × NameMap (List String))} (h : AllTold expected.toList told found) :
    found.Pairwise (·.1 < ·.1) := by
  have units : found.map (·.1) = expected.keys := by
    simpa [NameMap.keys, Function.comp_def] using congrArg (List.map (·.1)) h.names
  exact List.pairwise_map.mp (units ▸ expected.keys_ascending)

theorem findAll_conducts (expected : ExpectedPids) (s : σ) :
    (pidof expectSuccess).Conducts (expected.entries.map (·.1))
      (fun told found => found.shape = expected.shape ∧ found.entries = told.map worded)
      ((findAll expected expectSuccess).run answer s) := by
  have items : expected.toList.flatMap (fun u => u.2.keys.map (u.1, ·)) =
      expected.entries.map (·.1) := by
    simp [NameMap.entries, NameMap.keys, List.map_flatMap, Function.comp_def]
  have all : (pidof expectSuccess).Conducts (expected.entries.map (·.1))
      (AllTold expected.toList)
      ((expected.toList.mapM (findOnUnit expectSuccess)).run answer s) := by
    rw [← items]
    refine Inquiry.Conducts.mapM (fun u _ => findOnUnit_conducts u) ⟨rfl, rfl⟩
      (fun u units told told' c cs first rest => ?_) s
    obtain ⟨unit, unitTold⟩ := first
    have keys : c.2.keys = u.2.keys := unitTold.names
    exact ⟨by simp [rest.names, unit, keys], by simp [rest.words, unit, unitTold.words]⟩
  refine all.retell (Program.retells_of_notes (fun _ => .done _) s) fun told found allTold => ?_
  have listed : (NameMap.ofList found).toList = found := NameMap.toList_ofList allTold.ascending
  refine ⟨NameMap.ext ?shape, ?entries⟩
  case shape   => simpa [NameMap.shape, NameMap.map, listed] using allTold.names
  case entries => simpa [NameMap.entries, listed] using allTold.words

-- The processes found are those that were asked about in order of their places, each with the words
-- that its command printed, so that nothing but numbers can be wrong with them. A command that does
-- not succeed is the last one, and then nothing is found.
theorem findAll_reports (answer : Client.Handler σ) (expected : ExpectedPids)
    (expectSuccess : Bool) (s : σ) :
    let run := (findAll expected expectSuccess).run answer s
    let places := expected.entries.map (·.1)
    places.Pairwise (Prod.Lex (· < ·) (· < ·)) ∧
    ((∃ (told : List ((String × String) × CommandResult)) (found : FoundPids),
      told.map (·.1) = places ∧ (∀ r ∈ told, r.2.success) ∧
      run.exchanges = told.map (fun r => ⟨.run r.1.1 (command r.1.2 expectSuccess), .ok r.2⟩) ∧
      run.result = .ok found ∧ found.shape = expected.shape ∧
      found.entries = told.map (fun r => (r.1, Text.words r.2.stdout)) ∧
      (∀ r ∈ told, Text.Spaced r.2.stdout.toList ((Text.words r.2.stdout).map String.toList)) ∧
      (expected.validate found = .ok () ↔ ∀ place e result, (place, e) ∈ expected.entries →
        (place, result) ∈ told → e.accepts (Text.words result.stdout).length) ∧
      ∀ err, expected.validate found = .error err →
        ∃ unit process text count, err = .pidCountMismatch unit process text count) ∨
    ∃ (told : List ((String × String) × CommandResult)) (unit process : String)
      (rest : List (String × String)) (reply : Except Error CommandResult) (err : Error),
      places = told.map (·.1) ++ (unit, process) :: rest ∧ (∀ r ∈ told, r.2.success) ∧
      run.exchanges = told.map (fun r => ⟨.run r.1.1 (command r.1.2 expectSuccess), .ok r.2⟩) ++
        [⟨.run unit (command process expectSuccess), reply⟩] ∧
      Untold unit (command process expectSuccess) reply err ∧ run.result = .error err) := by
  intro run places
  refine ⟨expected.entries_ascending, ?_⟩
  have conducted : (pidof expectSuccess).Conducts places _ run := findAll_conducts expected s
  cases conducted
  case through told found all succeeded exchanges result given =>
    have ⟨shape, entries⟩ := given
    have ⟨accepted, failed⟩ := ExpectedPids.validate_of_same_shape shape
    refine .inl ⟨told, found, all, succeeded, exchanges, result, shape, entries, ?_, ?_, ?_⟩
    · exact fun r _ => Text.words_eq_iff.mp rfl
    · simp only [accepted, entries, List.mem_map, worded]
      constructor
      · intro h place e result mem mem'
        exact h place e _ mem ⟨(place, result), mem', rfl⟩
      · intro h place e pids mem ⟨r, mem', words⟩
        cases words
        exact h r.1 e r.2 mem mem'
    · intro err h
      cases failed err h
      exact ⟨_, _, _, _, rfl⟩
  case upTo told place rest x err before succeeded exchanges refused result =>
    have ⟨reply, asked, untold⟩ := refused
    exact .inr ⟨told, place.1, place.2, rest, reply, err, before, succeeded, asked ▸ exchanges,
      untold, result⟩

-- One unit runs what it should, a service twice and another one not at all. The other unit should
-- run the service and does not.
def novaPids : ExpectedPids :=
  .ofList [("nova-compute/0", .ofList [("libvirtd", .running false), ("nova-compute", .exact 2)]),
    ("nova-compute/1", .ofList [("nova-compute", .running true)])]

def novaModel : ScriptedModel :=
  ScriptedModel.empty.withRunResult "nova-compute/0" (command "nova-compute" true)
    (.ofExit 0 " 4021  4022\n" "")

theorem findAll_reports_nova :
    let run := (findAll novaPids true).run novaModel.handler ()
    ∃ (told : List ((String × String) × CommandResult)) (found : FoundPids),
      told.map (·.1) = [("nova-compute/0", "libvirtd"), ("nova-compute/0", "nova-compute"),
        ("nova-compute/1", "nova-compute")] ∧
      run.result = .ok found ∧ found.entries = told.map worded ∧
      novaPids.validate found = .error (.pidCountMismatch "nova-compute/1" "nova-compute"
        "at least 1" 0) := by
  intro run
  have found : run.result.isOk := by rfl
  have checked : run.result.bind novaPids.validate =
      .error (.pidCountMismatch "nova-compute/1" "nova-compute" "at least 1" 0) := by rfl
  have ⟨_, told⟩ := findAll_reports novaModel.handler novaPids true ()
  cases told
  case inl h =>
    have ⟨told, found, all, _, _, result, _, entries, _, _, _⟩ := h
    have result : run.result = .ok found := result
    rw [result] at checked
    exact ⟨told, found, all, result, entries, checked⟩
  case inr h =>
    have ⟨_, _, _, _, _, e, _, _, _, _, failed⟩ := h
    have failed : run.result = .error e := failed
    simp [failed, Except.isOk, Except.toBool] at found

end Pids
end RollingUpgrade
