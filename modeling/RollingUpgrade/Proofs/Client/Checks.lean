import RollingUpgrade.Client.Checks
import RollingUpgrade.Proofs.Client.Errands
import RollingUpgrade.Proofs.NameMap
import RollingUpgrade.Proofs.Text.Trimmed

namespace RollingUpgrade.Client

variable {σ α β : Type} {answer : Client.Handler σ} {s : σ}

-- All commands on one unit come before those on the next unit.
def checkErrands (commands : List String) (units : List PlacedUnit) : List Errand :=
  units.flatMap fun unit => commands.map fun command => ⟨unit.id, command⟩

theorem forM_flatMap {I : Interface} {l : List α} {f : α → List β} {g : β → Program I PUnit} :
    (l.flatMap f).forM g = l.forM fun a => (f a).forM g := by
  induction l
  case nil => rfl
  case cons a l hi =>
    simp only [List.forM_eq_forM] at hi ⊢
    rw [List.flatMap_cons, List.forM_append, List.forM_cons, hi]

theorem forM_discard {I : Interface} {l : List α} {p : α → Program I β} :
    (l.forM fun a => do let _ ← p a) = (l.mapM p) >>= fun _ => pure () := by
  induction l
  case nil => rfl
  case cons a l hi =>
    simp only [List.forM_eq_forM] at hi ⊢
    simp only [List.forM_cons, List.mapM_cons, bind_assoc, pure_bind, hi]

theorem checkCommands_eq (commands : List String) (units : List PlacedUnit) :
    checkCommands commands units =
      (checkErrands commands units).mapM (fun e => output e.unit e.command) >>=
        fun _ => pure () := by
  rw [← forM_discard, checkErrands, forM_flatMap]
  simp only [List.forM_eq_forM, List.forM_map]
  rfl

-- The names of units are those that they printed. If a unit was asked several times, the last one
-- counts.
structure HostNames (units : List PlacedUnit) (reports : List Report) (names : NameMap String) :
    Prop where
  known : ∀ id, id ∈ names ↔ id ∈ units.map (·.id)
  last : ∀ before r later result, reports = before ++ r :: later → r.reply = .ok result →
    (∀ d ∈ later, d.errand.unit ≠ r.errand.unit) →
    ∃ name, names.find? r.errand.unit = some name ∧
      Text.Trimmed result.stdout.toList name.toList

abbrev nameErrand (unit : PlacedUnit) : Errand := ⟨unit.id, "hostname"⟩

theorem hostNames_ofList (units : List PlacedUnit) (answer : Client.Handler σ) (s : σ) :
    let reports := Errand.reports answer (units.map nameErrand) s
    HostNames units reports
      (.ofList (reports.map fun r => (r.errand.unit, Text.trim r.printed))) where
  known id := by
    have asked := congrArg (List.map Errand.unit)
      (Errand.map_errand_reports answer (units.map nameErrand) s)
    rw [List.map_map, List.map_map] at asked
    have ids : units.map (·.id) = _ := asked.symm
    rw [ids, NameMap.mem_iff_find?, ← Option.isSome_iff_exists, NameMap.find?_ofList]
    simp [List.lookup_isSome_iff, eq_comm (a := id)]
  last before r later result split replied others := by
    let named (r : Report) : String × String := (r.errand.unit, Text.trim r.printed)
    refine ⟨Text.trim r.printed, ?found, ?trimmed⟩
    case found =>
      rw [NameMap.find?_ofList, List.lookup_eq_some_iff]
      refine ⟨(later.map named).reverse, (before.map named).reverse, by simp [split, named], ?_⟩
      simpa [named] using fun d hd => (others d hd).symm
    case trimmed =>
      have printed : r.printed = result.stdout := by simp [Report.printed, replied]
      rw [printed, Text.trim, String.toList_ofList]
      exact Text.trimmed_trimChars _

theorem hostnames_does : DoesErrands answer
    (fun unit : PlacedUnit => do return (unit.id, Text.trim (← output unit.id "hostname")))
    nameErrand fun e printed => (e.unit, Text.trim printed) :=
  fun _ s => Program.retells_of_notes (fun _ => .done _) s

-- Commands are run in order, all of them on one unit before the next unit, and the first one that
-- fails is the last one that is run. The failure is that of the tool, or tells which command failed
-- on which unit. So are units asked for their names, and if all of them succeed then each unit has
-- the name that it printed last.
theorem checks_end_at_failure (answer : Client.Handler σ) (units : List PlacedUnit) (s : σ) :
    (∀ commands,
      EndsAtFailure (Errand.reports answer (checkErrands commands units) s) (fun _ => True)
        ((checkCommands commands units).run answer s)) ∧
    let reports := Errand.reports answer (units.map nameErrand) s
    EndsAtFailure reports (HostNames units reports) ((hostnames units).run answer s) := by
  refine ⟨fun commands => ?commands, ?names⟩
  case commands =>
    rw [checkCommands_eq]
    have does : DoesErrands answer (fun e : Errand => output e.unit e.command) id
        fun _ => id := fun _ _ => .refl _
    have ends := mapM_endsAtFailure does (checkErrands commands units) s
    rw [List.map_id] at ends
    exact ends.retell (Program.retells_of_notes (fun _ => .done _) s) fun _ _ => trivial
  case names =>
    refine (mapM_endsAtFailure hostnames_does units s).retell
      (Program.retells_of_notes (fun _ => .done _) s) fun names given => ?_
    rw [given]
    exact hostNames_ofList units answer s

-- A client by which units print something else the first time, and one command always fails.
def fickle : Client.Handler Nat
  | .run _ "false", n => (.ok ⟨"1", "", "broken"⟩, n + 1)
  | .run .., n        => (.ok ⟨"0", if n = 0 then " old\n" else " new\n", ""⟩, n + 1)
  | _, n              => (.error (.client "unknown"), n)

theorem checks_end_at_failure_fickle :
    let nova : PlacedUnit := ⟨"nova/0", "nova", "0", none⟩
    let vault : PlacedUnit := ⟨"vault/0", "vault", "1", none⟩
    let checked := (checkCommands ["true", "false"] [nova, vault]).run fickle 0
    checked.result = .error (.commandFailed "nova/0" "false" 1 "broken") ∧
    checked.calls = [.run "nova/0" "true", .run "nova/0" "false"] ∧
    ∃ names, ((hostnames [nova, vault, nova]).run fickle 0).result = .ok names ∧
      names.find? "nova/0" = some "new" := by
  intro nova vault checked
  have ⟨commands, _⟩ := checks_end_at_failure fickle [nova, vault] 0
  have ⟨exchanges, e, failed, error⟩ := (commands ["true", "false"]).stopped
    [⟨⟨"nova/0", "true"⟩, .ok ⟨"0", " old\n", ""⟩⟩]
    ⟨⟨"nova/0", "false"⟩, .ok ⟨"1", "", "broken"⟩⟩ _ rfl (by decide) (by decide)
  have ⟨_, named⟩ := checks_end_at_failure fickle [nova, vault, nova] 0
  have ⟨_, names, found, given⟩ := named.through (by decide)
  have ⟨name, known, trimmed⟩ := given.last
    [⟨nameErrand nova, .ok ⟨"0", " old\n", ""⟩⟩, ⟨nameErrand vault, .ok ⟨"0", " new\n", ""⟩⟩]
    ⟨nameErrand nova, .ok ⟨"0", " new\n", ""⟩⟩ [] _ rfl rfl nofun
  have same : name = "new" := String.toList_inj.mp trimmed.eq_trimChars.symm
  cases failed
  exact ⟨error, (Run.map_fst_exchanges _).symm.trans (congrArg _ exchanges), names, found,
    same ▸ known⟩

end RollingUpgrade.Client
