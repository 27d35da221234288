import RollingUpgrade.Proofs.Run
import RollingUpgrade.Upgrade.Plan

namespace RollingUpgrade

open Program

variable {σ : Type} {answer : Client.Handler σ} {s : σ} {app : String} {a : Application}

namespace Filter

-- The warning that an application is left out.
def notice (message app : String) (more : List (String × Log.Value)) : Log.Event where
  level   := .warn
  target  := Log.Target.filters
  message := message
  fields  := ("app", .quoted app) :: more

-- What a filter does once it knows its verdict.
def pronounce (message app : String) (more : List (String × Log.Value)) (excluded : Bool) (s : σ) :
    Run Client σ Bool :=
  ⟨.ok excluded, if excluded then [.logged (notice message app more)] else [], s⟩

theorem exchanges_pronounce {message : String} {more : List (String × Log.Value)}
    {excluded : Bool} : (pronounce message app more excluded s).exchanges = [] := by
  cases excluded <;> rfl

theorem run_verdict (message app : String) (more : List (String × Log.Value)) (excluded : Bool) :
    (if excluded then warnExcluded message (("app", .quoted app) :: more) >>= fun _ => pure excluded
      else pure excluded : Program Client Bool).run answer s =
      pronounce message app more excluded s := by
  cases excluded <;> rfl

theorem run_subordinates : (subordinates.excludes app a).run answer s =
    pronounce "excluding from upgrade, it is a subordinate" app [] a.isSubordinate s :=
  run_verdict _ _ _ _

-- An application or its charm is on the list of those that are never upgraded.
def listed (app : String) (a : Application) : Bool :=
  app ∈ excludeList ∨ Charm.name a.charm ∈ excludeList

theorem run_onExcludeList : (onExcludeList.excludes app a).run answer s =
    pronounce "excluding from upgrade, on the exclude list" app
      [("charm", .quoted (Charm.name a.charm))] (listed app a) s :=
  run_verdict _ _ _ _

theorem run_charmContains (name needle : String) :
    ((charmContains name needle).excludes app a).run answer s =
      pronounce s!"skipping upgrade of {needle} charm" app [("charm", .quoted (Charm.name a.charm))]
        (Text.occurs needle.toList (Charm.name a.charm).toList) s := by
  dsimp only [charmContains]
  exact run_verdict _ _ _ _

-- The options name where the packages of an OpenStack service come from.
def sourced (config : ApplicationConfig) : Bool := sourceOptions.any config.contains

theorem run_nonOpenstack : (nonOpenstack.excludes app a).run answer s =
    ((Call.config app).perform.run answer s).andThen fun config =>
      pronounce "excluding from upgrade, no source option" app [] (!sourced config) := by
  refine (run_bind _ _ _).trans ?_
  congr
  funext config s
  exact run_verdict _ _ _ _

end Filter

namespace FilterChain

variable {f : Filter} {filters : List Filter} {message : String} {more : List (String × Log.Value)}

theorem run_anyExcludes_cons (f : Filter) (filters : List Filter) :
    (anyExcludes app a (f :: filters)).run answer s =
      ((f.excludes app a).run answer s).andThen fun excluded s =>
        if excluded then ⟨.ok true, [], s⟩ else (anyExcludes app a filters).run answer s := by
  rw [anyExcludes, run_bind]
  congr
  funext excluded s
  cases excluded <;> rfl

theorem run_anyExcludes_of_spared
    (h : (f.excludes app a).run answer s = Filter.pronounce message app more false s) :
    (anyExcludes app a (f :: filters)).run answer s = (anyExcludes app a filters).run answer s := by
  rw [run_anyExcludes_cons, h, Filter.pronounce, Run.andThen_ok rfl]
  rfl

theorem run_anyExcludes_of_excluded
    (h : (f.excludes app a).run answer s = Filter.pronounce message app more true s) :
    (anyExcludes app a (f :: filters)).run answer s = Filter.pronounce message app more true s := by
  rw [run_anyExcludes_cons, h, Filter.pronounce, Run.andThen_ok rfl]
  rfl

theorem anyExcludes_singleton_retells :
    ((anyExcludes app a [f]).run answer s).Retells id ((f.excludes app a).run answer s) := by
  have last : (fun excluded s => if excluded then ⟨.ok true, [], s⟩
      else (anyExcludes app a []).run answer s) =
      fun excluded s => (⟨.ok excluded, [], s⟩ : Run Client σ Bool) := by
    funext excluded s
    cases excluded <;> rfl
  rw [run_anyExcludes_cons, last]
  exact Run.retells_value id

end FilterChain

namespace Plan

variable {chain : FilterChain} {applications : NameMap Application}

theorem run_survivors_cons (e : String × Application) (l : List (String × Application)) :
    (survivors chain (e :: l)).run answer s =
      ((chain.excludes e.1 e.2).run answer s).andThen fun excluded s =>
        ((survivors chain l).run answer s).andThen fun others s =>
          ⟨.ok (if excluded then others else e :: others), [], s⟩ := by
  rw [survivors, run_bind]
  congr
  funext excluded s
  exact run_bind _ _ _

-- Where the walk along the applications stops: the chain can be asked about all of them before, and
-- it fails for this one.
theorem run_survivors_of_error {l : List (String × Application)} {err : Error}
    (h : ((survivors chain l).run answer s).result = .error err) :
    ∃ earlier e later kept, l = earlier ++ e :: later ∧
      let before := (survivors chain earlier).run answer s
      let last := (chain.excludes e.1 e.2).run answer before.state
      before.result = .ok kept ∧ last.result = .error err ∧
      (survivors chain l).run answer s = ⟨.error err, before.steps ++ last.steps, last.state⟩ := by
  induction l generalizing s
  case nil => nomatch h
  case cons e l hi =>
    rw [run_survivors_cons] at h ⊢
    cases here : ((chain.excludes e.1 e.2).run answer s).result
    case error err' =>
      rw [Run.andThen_error here] at h ⊢
      have same : err' = err := by simpa using h
      exact ⟨[], e, l, [], rfl, rfl, same ▸ here, same ▸ rfl⟩
    case ok excluded =>
      rw [Run.andThen_ok here] at h ⊢
      cases later : ((survivors chain l).run answer
        ((chain.excludes e.1 e.2).run answer s).state).result
      case ok others =>
        rw [Run.andThen_ok later] at h
        nomatch h
      case error err' =>
        rw [Run.andThen_error later] at h ⊢
        have same : err' = err := by simpa using h
        have ⟨earlier, e', rest, kept, split, passed, failed, course⟩ := hi (same ▸ later)
        have before : (survivors chain (e :: earlier)).run answer s = _ :=
          run_survivors_cons e earlier
        rw [Run.andThen_ok here, Run.andThen_ok passed] at before
        refine ⟨e :: earlier, e', rest, if excluded then kept else e :: kept, by simp [split], ?_⟩
        simp only [before, course, List.append_nil, List.append_assoc]
        exact ⟨trivial, failed, same ▸ rfl⟩

theorem select_retells :
    ((select chain applications).run answer s).Retells .ofList
      ((survivors chain applications.toList).run answer s) := by
  rw [select]
  refine retells_of_notes (fun kept => ?_) s
  exact (Notes.emit .debug (by decide) _ _ _).bind (.done _)

theorem arrange_notes (applications : NameMap Application) :
    (arrange applications).Notes answer (ServiceGroup.ofApplications applications) := by
  have announced : (ServiceGroup.announce (ServiceGroup.ofApplications applications)).Notes answer
      () := .forM fun g => .emit .info (by decide) _ _ _
  exact announced.bind (.done _)

theorem groups_retells :
    ((groups chain applications).run answer s).Retells ServiceGroup.ofApplications
      ((select chain applications).run answer s) :=
  retells_of_notes arrange_notes s

-- How the plan is announced.
def announcement (mode : UpgradeMode) (chain : FilterChain) : Log.Event where
  level   := .info
  target  := Log.Target.plan
  message := "planning upgrade groups"
  fields  := [("mode", .shown mode.name), ("filters", .names chain.names)]

-- Once the filters are settled and there is a snapshot, a plan is the plan for its applications.
theorem run_ofMode {mode : UpgradeMode} {extra : ExtraFilters} {snapshot : Snapshot}
    (settled : mode.filters extra = .ok chain) (h : (answer .status s).1 = .ok snapshot) :
    (ofMode mode extra).run answer s =
      let planned := (groups chain snapshot.applications).run answer (answer .status s).2
      ⟨planned.result, .logged (announcement mode chain) :: .asked .status (.ok snapshot) ::
        planned.steps, planned.state⟩ := by
  have fresh : (candidates chain >>= arrange) =
      Call.status.perform >>= fun snapshot => groups chain snapshot.applications :=
    Program.bind_assoc _ _ _
  have asked : (Call.status.perform.run answer s).result = .ok snapshot := by
    rw [Call.result_perform, h]
  rw [ofMode, settled, Program.ofExcept, done_bind, fresh, run_bind, emit, run, run,
    Run.andThen_ok rfl, run_bind, Run.andThen_ok asked, Call.run_perform, h]
  rfl

end Plan
end RollingUpgrade
