import RollingUpgrade.Proofs.Client.Query
import RollingUpgrade.Proofs.Upgrade.Course
import RollingUpgrade.Proofs.Upgrade.Partition

namespace RollingUpgrade

variable {σ : Type} {answer : Client.Handler σ} {s : σ} {app : String} {a : Application}

-- The application that an event is about.
def Log.Event.application? (event : Log.Event) : Option String :=
  match event.fields.lookup "app" with
  | some (.quoted app) => some app
  | _                  => none

-- All options that were asked for were got.
def Answered (xs : List Client.Exchange) : Prop :=
  ∀ app e, ⟨.config app, .error e⟩ ∉ xs

theorem Answered.append {xs ys : List Client.Exchange} (hx : Answered xs) (hy : Answered ys) :
    Answered (xs ++ ys) := by
  intro app e h
  cases List.mem_append.mp h
  case inl h => exact hx app e h
  case inr h => exact hy app e h

-- How a run may decide about an application: it says nothing and lets it stay, it warns of the
-- application and excludes it, or it says nothing and fails because it does not get the options.
inductive Decides (app : String) (r : Run Client σ Bool) : Prop
  | spared (result : r.result = .ok false) (quiet : r.warnings = [])
      (answered : Answered r.exchanges)
  | excluded (result : r.result = .ok true) (told : r.warnings.map (·.application?) = [some app])
      (answered : Answered r.exchanges)
  | failed (xs : List Client.Exchange) (e : Error) (result : r.result = .error e)
      (quiet : r.warnings = []) (answered : Answered xs)
      (lookup : r.exchanges = xs ++ [⟨.config app, .error e⟩])

namespace Decides

theorem pronounce (message : String) (more : List (String × Log.Value)) (excluded : Bool) :
    Decides app (Filter.pronounce message app more excluded s) := by
  have answered : Answered (Filter.pronounce message app more excluded s).exchanges := by
    simp [Filter.exchanges_pronounce, Answered]
  cases excluded
  case false => exact .spared rfl rfl answered
  case true  => exact .excluded rfl rfl answered

-- A run that says nothing and asks for no options in vain decides nothing.
theorem behind {α : Type} {r : Run Client σ α} {b : α} {next : α → σ → Run Client σ Bool}
    (result : r.result = .ok b) (quiet : r.warnings = []) (answered : Answered r.exchanges)
    (h : Decides app (next b r.state)) : Decides app (r.andThen next) := by
  have gone : (r.andThen next).result = (next b r.state).result := by rw [Run.andThen_ok result]
  have told : (r.andThen next).warnings = (next b r.state).warnings := by
    rw [Run.warnings_andThen_ok result, quiet, List.nil_append]
  have asked : (r.andThen next).exchanges = r.exchanges ++ (next b r.state).exchanges :=
    Run.exchanges_andThen_ok result
  cases h
  case spared result' quiet' answered' =>
    exact .spared (gone.trans result') (told.trans quiet') (asked ▸ answered.append answered')
  case excluded result' told' answered' =>
    exact .excluded (gone.trans result') (told ▸ told') (asked ▸ answered.append answered')
  case failed xs e result' quiet' answered' lookup =>
    refine .failed (r.exchanges ++ xs) e (gone.trans result') (told.trans quiet')
      (answered.append answered') ?_
    rw [asked, lookup, List.append_assoc]

-- An application that is excluded stays so, and what comes next is left out.
theorem unlessExcluded {r : Run Client σ Bool} {next : Bool → σ → Run Client σ Bool}
    (hr : Decides app r) (stop : ∀ s, next true s = ⟨.ok true, [], s⟩)
    (go : ∀ s, Decides app (next false s)) : Decides app (r.andThen next) := by
  cases hr
  case spared result quiet answered => exact behind result quiet answered (go _)
  case excluded result told answered =>
    have same : r.andThen next = ⟨.ok true, r.steps, r.state⟩ := by
      rw [Run.andThen_ok result, stop, List.append_nil]
    exact same ▸ .excluded rfl told answered
  case failed xs e result quiet answered lookup =>
    have same : r.andThen next = ⟨.error e, r.steps, r.state⟩ := Run.andThen_error result
    exact same ▸ .failed xs e rfl quiet answered lookup

end Decides

theorem Filter.BuiltIn.decides {f : Filter} (h : f.BuiltIn) :
    Decides app ((f.excludes app a).run answer s) := by
  cases h
  case subordinates  => exact run_subordinates ▸ .pronounce _ _ _
  case onExcludeList => exact run_onExcludeList ▸ .pronounce _ _ _
  case charmContains => exact run_charmContains _ _ ▸ .pronounce _ _ _
  case nonOpenstack  =>
    rw [run_nonOpenstack, Call.run_perform]
    cases (answer (.config app) s).1
    case error e   => exact .failed [] e rfl rfl (fun _ _ h => nomatch h) rfl
    case ok config =>
      refine .behind rfl rfl (fun app' e h => ?_) (.pronounce _ _ _)
      cases List.mem_singleton.mp h

theorem FilterChain.excludes_decides {chain : FilterChain} (h : ∀ f ∈ chain.filters, f.BuiltIn) :
    Decides app ((chain.excludes app a).run answer s) := by
  obtain ⟨filters⟩ := chain
  rw [excludes]
  induction filters generalizing s
  case nil => exact .spared rfl rfl fun _ _ => List.not_mem_nil
  case cons f filters hi =>
    obtain ⟨first, rest⟩ := List.forall_mem_cons.mp h
    rw [run_anyExcludes_cons]
    exact first.decides.unlessExcluded (fun _ => rfl) fun _ => hi rest

namespace Plan

-- The names of the applications of a list that are not among those that are kept.
def dropped (l kept : List (String × Application)) : List String :=
  (l.map (·.1)).filter (· ∉ kept.map (·.1))

-- The applications that are in no group of a plan, in ascending order.
def leftOut (applications : NameMap Application) (groups : List ServiceGroup) : List String :=
  applications.keys.filter (· ∉ groups.flatMap (·.members))

theorem leftOut_eq {applications : NameMap Application} {kept : List (String × Application)}
    (h : kept.Sublist applications.toList) :
    leftOut applications (ServiceGroup.ofApplications (.ofList kept)) =
      dropped applications.toList kept := by
  have listed : (NameMap.ofList kept).toList = kept :=
    NameMap.toList_ofList (applications.ascending.sublist h)
  simp only [leftOut, dropped, ServiceGroup.mem_members, NameMap.keys, listed]

section

variable {e : String × Application} {l kept : List (String × Application)}
  (fresh : e.1 ∉ l.map (·.1))
include fresh

theorem dropped_cons_excluded (h : kept.Sublist l) :
    dropped (e :: l) kept = e.1 :: dropped l kept := by
  have missing : e.1 ∉ kept.map (·.1) := fun hk => fresh ((h.map _).mem hk)
  simp [dropped, missing]

theorem dropped_cons_kept : dropped (e :: l) (e :: kept) = dropped l kept := by
  have others : ∀ name ∈ l.map (·.1), name ≠ e.1 := fun name h same => fresh (same ▸ h)
  rw [dropped, List.map_cons, List.map_cons, List.filter_cons_of_neg (by simp)]
  exact List.filter_congr fun name h => by simp [others name h]

end

theorem survivors_warnings {chain : FilterChain} (builtIn : ∀ f ∈ chain.filters, f.BuiltIn)
    {l kept : List (String × Application)} (nodup : (l.map (·.1)).Nodup)
    (h : ((survivors chain l).run answer s).result = .ok kept) :
    ((survivors chain l).run answer s).warnings.map (·.application?) = (dropped l kept).map some ∧
    Answered ((survivors chain l).run answer s).exchanges := by
  induction l generalizing s kept
  case nil =>
    exact ⟨rfl, fun _ _ h => nomatch h⟩
  case cons e l hi =>
    have ⟨fresh, nodup⟩ := List.nodup_cons.mp nodup
    rw [run_survivors_cons] at h ⊢
    have ⟨excluded, first, h⟩ := Run.result_andThen_eq_ok h
    have ⟨others, rest, h⟩ := Run.result_andThen_eq_ok h
    have ⟨told, answered⟩ := hi nodup rest
    have sublist : others.Sublist l := (survivors_result rest).left
    have decided : Decides e.1 ((chain.excludes e.1 e.2).run answer s) :=
      FilterChain.excludes_decides builtIn
    rw [Run.warnings_andThen_ok first, Run.exchanges_andThen_ok first,
      (Run.retells_value _).warnings, (Run.retells_value _).exchanges, List.map_append, told]
    cases h
    cases decided
    case spared result quiet answered' =>
      cases first.symm.trans result
      exact ⟨by simp [quiet, dropped_cons_kept fresh], answered'.append answered⟩
    case excluded result told' answered' =>
      cases first.symm.trans result
      exact ⟨by simp [told', dropped_cons_excluded fresh sublist], answered'.append answered⟩
    case failed result _ _ _ => cases first.symm.trans result

-- The filters that come with the planner warn of each application that they leave out, in
-- ascending order, and of no other. Where the options of an application are not to be had, planning
-- fails, and the warnings are those of a plan for the applications before it.
theorem groups_warn_leftOut (answer : Client.Handler σ) {chain : FilterChain}
    (builtIn : ∀ f ∈ chain.filters, f.BuiltIn) (applications : NameMap Application) (s : σ) :
    let run := (groups chain applications).run answer s
    (∃ gs, run.result = .ok gs ∧ Answered run.exchanges ∧
      run.warnings.map (·.application?) = (leftOut applications gs).map some) ∨
    ∃ (earlier : NameMap Application) (app : String) (a : Application)
      (later : List (String × Application)) (xs : List Client.Exchange) (e : Error)
      (gs : List ServiceGroup),
      applications.toList = earlier.toList ++ (app, a) :: later ∧
      run.result = .error e ∧ run.exchanges = xs ++ [⟨.config app, .error e⟩] ∧ Answered xs ∧
      ((groups chain earlier).run answer s).result = .ok gs ∧
      run.warnings.map (·.application?) = (leftOut earlier gs).map some := by
  intro run
  have planned : run.Retells _ ((survivors chain applications.toList).run answer s) :=
    groups_retells.trans select_retells
  rw [planned.result, planned.warnings, planned.exchanges]
  cases walked : ((survivors chain applications.toList).run answer s).result
  case ok kept =>
    obtain ⟨told, answered⟩ := survivors_warnings builtIn applications.keys_nodup walked
    refine .inl ⟨_, rfl, answered, ?_⟩
    rw [told, Function.comp_apply, leftOut_eq (survivors_result walked).left]
  case error e =>
    obtain ⟨earlier, ⟨app, a⟩, later, kept, split, passed, failed, course⟩ :=
      run_survivors_of_error walked
    let before := (survivors chain earlier).run answer s
    let last := (chain.excludes app a).run answer before.state
    have warnings : ((survivors chain applications.toList).run answer s).warnings =
        before.warnings ++ last.warnings := by
      simp [course, Run.warnings, Run.events, before, last]
    have exchanges : ((survivors chain applications.toList).run answer s).exchanges =
        before.exchanges ++ last.exchanges := by
      simp [course, Run.exchanges, before, last]
    let first : NameMap Application :=
      ⟨earlier, (List.pairwise_append.mp (split ▸ applications.ascending)).left⟩
    obtain ⟨told, answered⟩ := survivors_warnings builtIn first.keys_nodup passed
    have decided : Decides app last := FilterChain.excludes_decides builtIn
    rw [warnings, exchanges]
    cases decided
    case spared result _ _   => cases failed.symm.trans result
    case excluded result _ _ => cases failed.symm.trans result
    case failed xs e' result quiet answered' lookup =>
      cases failed.symm.trans result
      refine .inr ⟨first, app, a, later, before.exchanges ++ xs, e,
        ServiceGroup.ofApplications (.ofList kept), split, rfl, ?_, answered.append answered',
        ?_, ?_⟩
      · rw [lookup, List.append_assoc]
      · rw [groups_retells.result, select_retells.result, passed]
        rfl
      · rw [quiet, List.append_nil, told, leftOut_eq (survivors_result passed).left]

-- A subordinate that two filters exclude, a service with a source, one whose options are not to be
-- had, and another subordinate.
def mixedApplications : NameMap Application :=
  .ofList [("etcd", ⟨"cs:~containers/etcd-12", ["vault"], none, .empty⟩),
    ("keystone", ⟨"ch:keystone-651", [], none, .empty⟩), ("ntp", ⟨"ch:ntp-41", [], none, .empty⟩),
    ("vault-hacluster", ⟨"ch:hacluster-70", ["vault"], none, .empty⟩)]

def mixedChain : FilterChain := ⟨[.subordinates, .charmContains "etcd" "etcd", .nonOpenstack]⟩

def partialModel : Client.Handler Unit := fun c s =>
  (if c = .config "ntp" then .error (.client "no options")
    else (ScriptedModel.empty.withConfig "keystone" [("source", .string "distro")]).answer c, s)

theorem groups_warn_leftOut_mixed :
    let run := (groups mixedChain mixedApplications).run partialModel ()
    (∀ f ∈ mixedChain.filters, f.BuiltIn) ∧ run.result = .error (.client "no options") ∧
    ∃ (earlier : NameMap Application) (gs : List ServiceGroup),
      ((groups mixedChain earlier).run partialModel ()).result = .ok gs ∧
      run.warnings.map (·.application?) = (leftOut earlier gs).map some ∧
      leftOut earlier gs = ["etcd"] := by
  intro run
  have builtIn : ∀ f ∈ mixedChain.filters, f.BuiltIn := by
    simp only [mixedChain, List.forall_mem_cons]
    exact ⟨.subordinates, .charmContains _ _, .nonOpenstack, fun _ h => nomatch h⟩
  have failed : run.result = .error (.client "no options") := by rfl
  have told : run.warnings.map (·.application?) = [some "etcd"] := by rfl
  refine ⟨builtIn, failed, ?_⟩
  cases groups_warn_leftOut partialModel builtIn mixedApplications ()
  case inl h =>
    have ⟨_, passed, _⟩ := h
    cases failed.symm.trans passed
  case inr h =>
    have ⟨earlier, _, _, _, _, _, gs, _, _, _, _, planned, warnings⟩ := h
    have one : (leftOut earlier gs).map some = [some "etcd"] := warnings.symm.trans told
    exact ⟨earlier, gs, planned, warnings, by simpa using one⟩

end Plan
end RollingUpgrade
