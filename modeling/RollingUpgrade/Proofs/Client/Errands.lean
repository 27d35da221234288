import RollingUpgrade.Proofs.Run

namespace RollingUpgrade.Client

variable {σ α β γ : Type} {answer : Client.Handler σ} {s : σ}

-- A command, and the unit that it is to be run on.
structure Errand where
  unit : String
  command : String
  deriving DecidableEq

-- The command fails on a unit, or the tool does.
inductive Fails (unit command : String) : Except Error CommandResult → Error → Prop
  | unanswered {e : Error} : Fails unit command (.error e) e
  | failed {result : CommandResult} : ¬result.success →
    Fails unit command (.ok result) (.commandFailed unit command result.exitCode result.stderr)

-- What the tool replied to an errand.
structure Report where
  errand : Errand
  reply : Except Error CommandResult

namespace Errand

abbrev call (e : Errand) : Call := .run e.unit e.command

-- The reports on errands that are done one after the other, whatever is reported on each of them.
def reports (answer : Client.Handler σ) : List Errand → σ → List Report
  | [],      _ => []
  | e :: es, s => ⟨e, (answer e.call s).1⟩ :: reports answer es (answer e.call s).2

theorem map_errand_reports (answer : Client.Handler σ) (es : List Errand) (s : σ) :
    (reports answer es s).map (·.errand) = es := by
  induction es generalizing s
  case nil          => rfl
  case cons e es hi => exact congrArg (e :: ·) (hi _)

end Errand

namespace Report

-- The tool ran the command, and the command did not fail.
def succeeded (r : Report) : Bool :=
  match r.reply with
  | .ok result => result.success
  | .error _   => false

def printed (r : Report) : String :=
  match r.reply with
  | .ok result => result.stdout
  | .error _   => ""

def exchange (r : Report) : Client.Exchange := ⟨r.errand.call, r.reply⟩

-- The tool failed to run the command, or the command failed on the unit.
def FailsWith (r : Report) (e : Error) : Prop := Fails r.errand.unit r.errand.command r.reply e

end Report

-- A run that does errands up to the first one that fails. Their reports decide how it ends, and
-- what it gives if none of them fails.
structure EndsAtFailure (reports : List Report) (gives : α → Prop) (run : Run Client σ α) :
    Prop where
  ok_iff : (∃ a, run.result = .ok a) ↔ ∀ r ∈ reports, r.succeeded
  through : (∀ r ∈ reports, r.succeeded) →
    run.exchanges = reports.map Report.exchange ∧ ∃ a, run.result = .ok a ∧ gives a
  stopped : ∀ done r later, reports = done ++ r :: later → (∀ d ∈ done, d.succeeded) →
    ¬r.succeeded →
    run.exchanges = (done ++ [r]).map Report.exchange ∧ ∃ e, r.FailsWith e ∧ run.result = .error e

-- Either no errand fails, or one of them is the first to fail.
theorem all_succeeded_or_first_fails (reports : List Report) : (∀ r ∈ reports, r.succeeded) ∨
    ∃ done r later, reports = done ++ r :: later ∧ (∀ d ∈ done, d.succeeded) ∧ ¬r.succeeded := by
  cases first : reports.find? (!·.succeeded)
  case none   => exact .inl (by simpa using first)
  case some r =>
    have ⟨fails, done, later, split, passed⟩ := List.find?_eq_some_iff_append.mp first
    exact .inr ⟨done, r, later, split, by simpa using passed, by simpa using fails⟩

namespace EndsAtFailure

variable {reports : List Report} {gives : α → Prop} {run : Run Client σ α}

-- How a run ends in both cases decides when it succeeds.
theorem of_cases
    (through : (∀ r ∈ reports, r.succeeded) →
      run.exchanges = reports.map Report.exchange ∧ ∃ a, run.result = .ok a ∧ gives a)
    (stopped : ∀ done r later, reports = done ++ r :: later → (∀ d ∈ done, d.succeeded) →
      ¬r.succeeded → run.exchanges = (done ++ [r]).map Report.exchange ∧
        ∃ e, r.FailsWith e ∧ run.result = .error e) :
    EndsAtFailure reports gives run := by
  refine ⟨⟨fun ⟨a, ok⟩ => ?succeeded, fun all => ?ok⟩, through, stopped⟩
  case ok =>
    have ⟨_, a, ok, _⟩ := through all
    exact ⟨a, ok⟩
  case succeeded =>
    cases all_succeeded_or_first_fails reports
    case inl all   => exact all
    case inr first =>
      have ⟨done, r, later, split, passed, fails⟩ := first
      have ⟨_, e, _, error⟩ := stopped done r later split passed fails
      nomatch ok.symm.trans error

theorem retell {run' : Run Client σ β} {g : α → β} {gives' : β → Prop} (h : run'.Retells g run)
    (ends : EndsAtFailure reports gives run) (given : ∀ a, gives a → gives' (g a)) :
    EndsAtFailure reports gives' run' := by
  apply of_cases
  case through =>
    intro all
    have ⟨exchanges, a, ok, ha⟩ := ends.through all
    exact ⟨h.exchanges.trans exchanges, g a, by simp [h.result, ok, Except.map], given a ha⟩
  case stopped =>
    intro done r later split passed fails
    have ⟨exchanges, e, failed, error⟩ := ends.stopped done r later split passed fails
    exact ⟨h.exchanges.trans exchanges, e, failed, by simp [h.result, error, Except.map]⟩

end EndsAtFailure

section

variable {f : α → Program Client β} {errand : α → Errand} {made : Errand → String → β}

-- About each thing the program does one errand, notes apart, and makes something of what it prints.
def DoesErrands (answer : Client.Handler σ) (f : α → Program Client β) (errand : α → Errand)
    (made : Errand → String → β) : Prop :=
  ∀ a s, ((f a).run answer s).Retells (made (errand a))
    ((output (errand a).unit (errand a).command).run answer s)

theorem run_output_of_succeeded {e : Errand} (h : Report.succeeded ⟨e, (answer e.call s).1⟩) :
    (output e.unit e.command).run answer s =
      ⟨.ok (Report.printed ⟨e, (answer e.call s).1⟩), [.asked e.call (answer e.call s).1],
        (answer e.call s).2⟩ := by
  rw [output, Program.run_bind, Call.run_perform]
  cases reply : (answer e.call s).1
  case error => simp [Report.succeeded, reply] at h
  case ok result =>
    have success : result.success := by simpa [Report.succeeded, reply] using h
    simp [Report.printed, success, Run.andThen, Program.run]

theorem run_output_of_failed {e : Errand} (h : ¬Report.succeeded ⟨e, (answer e.call s).1⟩) :
    ∃ failure, Report.FailsWith ⟨e, (answer e.call s).1⟩ failure ∧
      (output e.unit e.command).run answer s =
        ⟨.error failure, [.asked e.call (answer e.call s).1], (answer e.call s).2⟩ := by
  rw [output, Program.run_bind, Call.run_perform]
  cases reply : (answer e.call s).1
  case error failure => exact ⟨failure, .unanswered, rfl⟩
  case ok result =>
    have failure : ¬result.success := by simpa [Report.succeeded, reply] using h
    refine ⟨_, .failed failure, ?_⟩
    simp [failure, Run.andThen, Program.run]

-- Nothing but requests moves the state, and programs that retell each other make the same ones.
theorem state_of_retells {p : Program Client α} {q : Program Client β} {g : α → β}
    (h : (q.run answer s).Retells g (p.run answer s)) :
    (q.run answer s).state = (p.run answer s).state := by
  have requests : (q.run answer s).requests = (p.run answer s).requests := by
    rw [← Run.map_fst_exchanges, h.exchanges, Run.map_fst_exchanges]
  rw [Program.state_run, Program.state_run, requests]

variable {a : α} {l : List α}

theorem mapM_cons_of_succeeded (does : DoesErrands answer f errand made) (l : List α)
    (h : Report.succeeded ⟨errand a, (answer (errand a).call s).1⟩) :
    let report : Report := ⟨errand a, (answer (errand a).call s).1⟩
    let rest := (l.mapM f).run answer (answer (errand a).call s).2
    let run := ((a :: l).mapM f).run answer s
    run.result = rest.result.map (made (errand a) report.printed :: ·) ∧
    run.exchanges = report.exchange :: rest.exchanges := by
  intro report rest run
  have first := does a s
  have state := state_of_retells first
  rw [run_output_of_succeeded h] at first state
  have result : ((f a).run answer s).result = .ok (made (errand a) report.printed) := first.result
  have told := Run.retells_value (made (errand a) report.printed :: ·) (r := rest)
  constructor
  · simp only [run, Program.run_mapM_cons, Run.andThen_ok result, state]
    exact told.result
  · simp only [run, Program.run_mapM_cons, Run.exchanges_andThen_ok result, first.exchanges, state]
    exact congrArg _ told.exchanges

theorem mapM_cons_of_failed (does : DoesErrands answer f errand made) (l : List α)
    (h : ¬Report.succeeded ⟨errand a, (answer (errand a).call s).1⟩) :
    let report : Report := ⟨errand a, (answer (errand a).call s).1⟩
    let run := ((a :: l).mapM f).run answer s
    run.exchanges = [report.exchange] ∧ ∃ e, report.FailsWith e ∧ run.result = .error e := by
  intro report run
  have first := does a s
  have ⟨e, failed, stopped⟩ := run_output_of_failed h
  rw [stopped] at first
  have result : ((f a).run answer s).result = .error e := first.result
  simp only [run, Program.run_mapM_cons]
  exact ⟨(Run.exchanges_andThen_error result).trans first.exchanges, e, failed,
    by rw [Run.andThen_error result]⟩

theorem mapM_of_all_succeeded (does : DoesErrands answer f errand made)
    (h : ∀ r ∈ Errand.reports answer (l.map errand) s, r.succeeded) :
    let reports := Errand.reports answer (l.map errand) s
    let run := (l.mapM f).run answer s
    run.exchanges = reports.map Report.exchange ∧
    run.result = .ok (reports.map fun r => made r.errand r.printed) := by
  induction l generalizing s
  case nil => exact ⟨rfl, rfl⟩
  case cons a l hi =>
    have ⟨first, rest⟩ := List.forall_mem_cons.mp h
    have ⟨result, exchanges⟩ := mapM_cons_of_succeeded does l first
    have ⟨exchanges', result'⟩ := hi rest
    exact ⟨by rw [exchanges, exchanges']; rfl, by rw [result, result']; rfl⟩

theorem mapM_of_first_failed {done later : List Report} {r : Report}
    (does : DoesErrands answer f errand made)
    (split : Errand.reports answer (l.map errand) s = done ++ r :: later)
    (passed : ∀ d ∈ done, d.succeeded) (fails : ¬r.succeeded) :
    let run := (l.mapM f).run answer s
    run.exchanges = (done ++ [r]).map Report.exchange ∧
    ∃ e, r.FailsWith e ∧ run.result = .error e := by
  induction l generalizing s done
  case nil => cases done <;> cases split
  case cons a l hi =>
    cases done
    case nil =>
      have ⟨head, _⟩ := List.cons.inj split
      subst head
      exact mapM_cons_of_failed does l fails
    case cons d done =>
      have ⟨head, rest⟩ := List.cons.inj split
      subst head
      have ⟨first, passed⟩ := List.forall_mem_cons.mp passed
      have ⟨result, exchanges⟩ := mapM_cons_of_succeeded does l first
      have ⟨exchanges', e, failed, error⟩ := hi rest passed
      exact ⟨by rw [exchanges, exchanges']; rfl, e, failed, by rw [result, error]; rfl⟩

theorem mapM_endsAtFailure (does : DoesErrands answer f errand made) (l : List α) (s : σ) :
    let reports := Errand.reports answer (l.map errand) s
    EndsAtFailure reports (· = reports.map fun r => made r.errand r.printed)
      ((l.mapM f).run answer s) := by
  apply EndsAtFailure.of_cases
  case through =>
    intro all
    have ⟨exchanges, result⟩ := mapM_of_all_succeeded does all
    exact ⟨exchanges, _, result, rfl⟩
  case stopped => exact fun done r later => mapM_of_first_failed does

end

end RollingUpgrade.Client
