import RollingUpgrade.Proofs.Client.Agreement
import RollingUpgrade.Proofs.Client.Errands

namespace RollingUpgrade.Client

variable {σ : Type} {answer : Client.Handler σ} {s : σ} {application package unit : String}
  {ids versions : List String}

-- The replies of units to a command if it is run on one unit after the other, whatever they reply.
def replies (answer : Client.Handler σ) (command : String) :
    List String → σ → List (String × Except Error CommandResult)
  | [],          _ => []
  | unit :: ids, s =>
    let (reply, s) := answer (.run unit command) s
    (unit, reply) :: replies answer command ids s

theorem map_fst_replies (command : String) (ids : List String) (s : σ) :
    (replies answer command ids s).map (·.1) = ids := by
  induction ids generalizing s
  case nil              => rfl
  case cons unit ids hi => exact congrArg (unit :: ·) (hi _)

theorem replies_eq_nil_iff {command : String} : replies answer command ids s = [] ↔ ids = [] := by
  rw [← List.map_eq_nil_iff (f := (·.1)), map_fst_replies]

-- A unit tells a version if the command succeeds.
inductive Tells : Except Error CommandResult → String → Prop
  | intro {result : CommandResult} {version : String} :
    result.success → ThirdWord result.stdout version → Tells (.ok result) version

theorem Tells.not_fails {command version : String} {reply : Except Error CommandResult} {e : Error}
    (h : Tells reply version) : ¬Fails unit command reply e := by
  intro fails
  cases h
  case intro success _ =>
    cases fails
    case failed failure => exact failure success

theorem tells_or_fails (unit command : String) (reply : Except Error CommandResult) :
    (∃ version, Tells reply version) ∨ ∃ e, Fails unit command reply e := by
  cases reply
  case error e => exact .inr ⟨e, .unanswered⟩
  case ok result =>
    by_cases success : result.success
    case pos => exact .inl ⟨_, .intro success (thirdWord_iff.mpr rfl)⟩
    case neg => exact .inr ⟨_, .failed success⟩

-- Either all replies tell a version, or there is a first one that does not.
theorem all_tell_or_first_fails (command : String)
    (rs : List (String × Except Error CommandResult)) :
    (∃ versions, List.Forall₂ (fun r v => Tells r.2 v) rs versions) ∨
    ∃ told unit reply later e, rs = told ++ (unit, reply) :: later ∧
      (∀ r ∈ told, ∃ v, Tells r.2 v) ∧ Fails unit command reply e := by
  induction rs
  case nil => exact .inl ⟨[], .nil⟩
  case cons r rs hi =>
    cases tells_or_fails r.1 command r.2
    case inr fails =>
      have ⟨e, fails⟩ := fails
      exact .inr ⟨[], r.1, r.2, rs, e, rfl, nofun, fails⟩
    case inl tells =>
      have ⟨v, tells⟩ := tells
      cases hi
      case inl all =>
        have ⟨versions, all⟩ := all
        exact .inl ⟨v :: versions, .cons tells all⟩
      case inr first =>
        have ⟨told, unit, reply, later, e, split, all, fails⟩ := first
        exact .inr ⟨r :: told, unit, reply, later, e, by rw [split]; rfl,
          List.forall_mem_cons.mpr ⟨⟨v, tells⟩, all⟩, fails⟩

-- The command that shows the version of a package.
abbrev listing (package : String) : String := "dpkg -l | grep " ++ package

-- What a unit replied to a command.
def asked (command : String) (r : String × Except Error CommandResult) : Client.Exchange :=
  ⟨.run r.1 command, r.2⟩

theorem reply_of_asked {command : String} {r : String × Except Error CommandResult} {call : Call}
    {e : Error} (h : (⟨call, .error e⟩ : Client.Exchange) = asked command r) : r.2 = .error e := by
  rw [asked] at h
  injection h with same eq
  subst same
  exact (eq_of_heq eq).symm

abbrev versionErrand (package unit : String) : Errand := ⟨unit, listing package⟩

-- The replies are the reports on what the units were asked for.
def Report.told (r : Report) : String × Except Error CommandResult := (r.errand.unit, r.reply)

theorem map_told_reports (package : String) (ids : List String) (s : σ) :
    (Errand.reports answer (ids.map (versionErrand package)) s).map Report.told =
      replies answer (listing package) ids s := by
  induction ids generalizing s
  case nil              => rfl
  case cons unit ids hi => exact congrArg ((unit, (answer (.run unit _) s).1) :: ·) (hi _)

theorem command_of_report {r : Report}
    (h : r ∈ Errand.reports answer (ids.map (versionErrand package)) s) :
    r.errand.command = listing package := by
  have mem := List.mem_map_of_mem (f := Report.errand) h
  rw [Errand.map_errand_reports] at mem
  have ⟨_, _, same⟩ := List.mem_map.mp mem
  rw [← same]

theorem map_exchange_reports {rs : List Report}
    (h : rs ⊆ Errand.reports answer (ids.map (versionErrand package)) s) :
    rs.map Report.exchange = (rs.map Report.told).map (asked (listing package)) := by
  rw [List.map_map]
  refine List.map_congr_left fun r hr => ?_
  have same := command_of_report (h hr)
  have ⟨⟨unit, command⟩, reply⟩ := r
  subst same
  rfl

-- Notes apart, a unit is asked for its version by one command.
theorem versionOn_does (package : String) :
    DoesErrands answer (versionOn package) (versionErrand package) fun _ => thirdWord := by
  intro unit s
  rw [versionOn]
  refine Program.retells_of_notes (fun printed => ?_) s
  exact (Program.Notes.emit .debug (by decide) _ _ _).bind (.done _)

theorem succeeded_of_tells {r : Report} {version : String} (h : Tells r.reply version) :
    r.succeeded ∧ thirdWord r.printed = version := by
  have ⟨errand, reply⟩ := r
  cases h
  case intro success third => exact ⟨success, thirdWord_iff.mp third⟩

theorem not_succeeded_of_fails {r : Report} {e : Error} (h : r.FailsWith e) : ¬r.succeeded := by
  have ⟨errand, reply⟩ := r
  cases h
  case unanswered     => exact Bool.false_ne_true
  case failed failure => exact failure

theorem Fails.unique {command : String} {reply : Except Error CommandResult} {e e' : Error}
    (h : Fails unit command reply e) (h' : Fails unit command reply e') : e = e' := by
  cases h <;> cases h' <;> rfl

theorem succeeded_of_all_tell {rs : List Report}
    (h : List.Forall₂ (fun r v => Tells r.reply v) rs versions) :
    (∀ r ∈ rs, r.succeeded) ∧ rs.map (fun r => thirdWord r.printed) = versions := by
  induction h
  case nil => exact ⟨nofun, rfl⟩
  case cons tells _ hi =>
    have ⟨success, version⟩ := succeeded_of_tells tells
    exact ⟨List.forall_mem_cons.mpr ⟨success, hi.left⟩, by rw [List.map_cons, version, hi.right]⟩

theorem mapM_versionOn_of_tells
    (h : List.Forall₂ (fun r v => Tells r.2 v) (replies answer (listing package) ids s) versions) :
    let run := (ids.mapM (versionOn package)).run answer s
    run.result = .ok versions ∧
    run.exchanges = (replies answer (listing package) ids s).map (asked (listing package)) := by
  rw [← map_told_reports, List.forall₂_map_left_iff] at h
  have ⟨all, told⟩ := succeeded_of_all_tell h
  have ⟨exchanges, result⟩ := mapM_of_all_succeeded (versionOn_does package) all
  rw [← map_told_reports, ← map_exchange_reports (List.Subset.refl _), ← told]
  exact ⟨result, exchanges⟩

theorem mapM_versionOn_of_fails {told later : List (String × Except Error CommandResult)}
    {reply : Except Error CommandResult} {e : Error}
    (split : replies answer (listing package) ids s = told ++ (unit, reply) :: later)
    (tells : ∀ r ∈ told, ∃ v, Tells r.2 v) (fails : Fails unit (listing package) reply e) :
    let run := (ids.mapM (versionOn package)).run answer s
    run.result = .error e ∧
    run.exchanges = (told ++ [(unit, reply)]).map (asked (listing package)) := by
  rw [← map_told_reports] at split
  obtain ⟨done, behind, whole, rfl, behind_eq⟩ := List.map_eq_append_iff.mp split
  obtain ⟨r, later', rfl, same, _⟩ := List.map_eq_cons_iff.mp behind_eq
  have passed : ∀ d ∈ done, d.succeeded := by
    intro d hd
    have ⟨_, told⟩ := tells _ (List.mem_map_of_mem hd)
    exact (succeeded_of_tells told).left
  have known : done ++ [r] ⊆ Errand.reports answer (ids.map (versionErrand package)) s := by
    simp [whole]
  have command : r.errand.command = listing package := command_of_report (known (by simp))
  have failed : r.FailsWith e := by
    rw [Report.FailsWith, command]
    cases same
    exact fails
  have ⟨exchanges, e', failed', result⟩ :=
    mapM_of_first_failed (versionOn_does package) whole passed (not_succeeded_of_fails failed)
  rw [← same, ← List.map_singleton, ← List.map_append, ← map_exchange_reports known]
  exact ⟨failed.unique failed' ▸ result, exchanges⟩

end RollingUpgrade.Client
