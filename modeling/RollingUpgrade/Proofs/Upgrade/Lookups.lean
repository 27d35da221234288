import RollingUpgrade.Proofs.Inquiry
import RollingUpgrade.Proofs.Upgrade.Course
import RollingUpgrade.Proofs.Upgrade.Partition

namespace RollingUpgrade

variable {σ : Type} {answer : Client.Handler σ} {s : σ} {app : String} {a : Application}

-- Asking for the options of applications. Whatever they are, they will do.
def lookups : Inquiry Client String ApplicationConfig where
  told := fun (app, config) => ⟨.config app, .ok config⟩
  Accepts _ := True
  Refuses app x e := x = ⟨.config app, .error e⟩

-- The snapshot alone does not say that the application is left out of an OpenStack upgrade.
def Application.undecided (app : String) (a : Application) : Bool :=
  !a.isSubordinate && !Filter.listed app a

namespace Filter

theorem sourced_iff {config : ApplicationConfig} :
    sourced config ↔ config.contains "openstack-origin" ∨ config.contains "source" := by
  simp [sourced, sourceOptions]

theorem nonOpenstack_conducts :
    lookups.Conducts [app] (fun found excluded => ∃ config, found = [(app, config)] ∧
      excluded = !sourced config) ((nonOpenstack.excludes app a).run answer s) := by
  rw [run_nonOpenstack]
  cases h : (answer (.config app) s).1
  case error e =>
    have result : ((Call.config app).perform.run answer s).result = .error e := by
      rw [Call.result_perform, h]
    rw [Run.andThen_error result, Call.run_perform, h]
    exact .upTo [] rfl (fun _ h => nomatch h) rfl rfl rfl
  case ok config =>
    have result : ((Call.config app).perform.run answer s).result = .ok config := by
      rw [Call.result_perform, h]
    refine .through [(app, config)] rfl (fun _ _ => trivial) ?_ (by rw [Run.andThen_ok result]; rfl)
      ⟨config, rfl, rfl⟩
    rw [Run.exchanges_andThen_ok result, exchanges_pronounce, Call.run_perform, h]
    rfl

end Filter

namespace Plan

-- What was found about an application, and the verdict on it. Its options are asked for only if the
-- snapshot leaves it undecided.
inductive Judged (app : String) (a : Application) : List (String × ApplicationConfig) → Bool → Prop
  | unasked : a.undecided app = false → Judged app a [] true
  | asked {config : ApplicationConfig} : a.undecided app →
    Judged app a [(app, config)] (!Filter.sourced config)

theorem openstack_excludes_conducts :
    lookups.Conducts (if a.undecided app then [app] else []) (Judged app a)
      ((UpgradeMode.openstack.defaultFilters.excludes app a).run answer s) := by
  rw [UpgradeMode.defaultFilters, FilterChain.excludes]
  cases subordinate : a.isSubordinate
  case true =>
    have left : a.undecided app = false := by simp [Application.undecided, subordinate]
    rw [FilterChain.run_anyExcludes_of_excluded (subordinate ▸ Filter.run_subordinates), left]
    exact .of_silent rfl rfl (.unasked left)
  case false =>
    rw [FilterChain.run_anyExcludes_of_spared (subordinate ▸ Filter.run_subordinates)]
    cases listed : Filter.listed app a
    case true =>
      have left : a.undecided app = false := by simp [Application.undecided, listed]
      rw [FilterChain.run_anyExcludes_of_excluded (listed ▸ Filter.run_onExcludeList), left]
      exact .of_silent rfl rfl (.unasked left)
    case false =>
      have undecided : a.undecided app := by simp [Application.undecided, subordinate, listed]
      rw [FilterChain.run_anyExcludes_of_spared (listed ▸ Filter.run_onExcludeList),
        if_pos undecided]
      exact Filter.nonOpenstack_conducts.retell FilterChain.anyExcludes_singleton_retells
        fun _ _ ⟨_, found, excluded⟩ => found ▸ excluded ▸ .asked undecided

-- The applications that the snapshot leaves undecided, in ascending order.
def lookedUp (l : List (String × Application)) : List String :=
  (l.filter fun e => e.2.undecided e.1).map (·.1)

-- Those are kept whose options name a source.
structure Kept (l : List (String × Application)) (found : List (String × ApplicationConfig))
    (kept : List (String × Application)) : Prop where
  sublist : kept.Sublist l
  names : kept.map (·.1) = (found.filter fun f => Filter.sourced f.2).map (·.1)

theorem openstack_survivors_conducts (l : List (String × Application)) :
    lookups.Conducts (lookedUp l) (Kept l)
      ((survivors UpgradeMode.openstack.defaultFilters l).run answer s) := by
  induction l generalizing s
  case nil => exact .of_silent rfl rfl ⟨.slnil, rfl⟩
  case cons e l hi =>
    have items : lookedUp (e :: l) =
        (if e.2.undecided e.1 then [e.1] else []) ++ lookedUp l := by
      cases h : e.2.undecided e.1 <;> simp [lookedUp, h]
    rw [run_survivors_cons, items]
    refine openstack_excludes_conducts.andThen fun found excluded judged s => ?_
    refine hi.retell (Run.retells_value _) fun found' others kept => ?_
    cases judged
    case unasked => exact ⟨kept.sublist.cons _, kept.names⟩
    case asked config _ =>
      cases h : Filter.sourced config
      case false => exact ⟨kept.sublist.cons _, by simp [kept.names, h]⟩
      case true  => exact ⟨kept.sublist.cons_cons _, by simp [kept.names, h]⟩

theorem openstack_groups_conducts (applications : NameMap Application) :
    lookups.Conducts (lookedUp applications.toList)
      (fun found groups => ∀ app, app ∈ groups.flatMap (·.members) ↔
        ∃ config, (app, config) ∈ found ∧ Filter.sourced config)
      ((groups UpgradeMode.openstack.defaultFilters applications).run answer s) := by
  refine (openstack_survivors_conducts _).retell (groups_retells.trans select_retells) ?_
  intro found kept h app
  have listed : (NameMap.ofList kept).toList = kept :=
    NameMap.toList_ofList (applications.ascending.sublist h.sublist)
  have planned : app ∈ kept.map (·.1) ↔
      ∃ config, (app, config) ∈ found ∧ Filter.sourced config := by
    simp [h.names]
  rw [Function.comp_apply, ServiceGroup.mem_members, NameMap.keys, listed, planned]

-- Given a snapshot, the plan of an OpenStack upgrade asks for the options of the applications that
-- the snapshot leaves undecided, and has those whose options name a source. It fails for the first
-- options that it does not get, and asks nothing after them.
theorem ofMode_openstack_lookups {snapshot : Snapshot} (h : (answer .status s).1 = .ok snapshot) :
    let run := (ofMode .openstack .none).run answer s
    let names := lookedUp snapshot.applications.toList
    (∃ (found : List (String × ApplicationConfig)) (groups : List ServiceGroup),
      found.map (·.1) = names ∧
      run.exchanges = ⟨.status, .ok snapshot⟩ :: found.map (fun f => ⟨.config f.1, .ok f.2⟩) ∧
      run.result = .ok groups ∧
      ∀ app, app ∈ groups.flatMap (·.members) ↔ ∃ config, (app, config) ∈ found ∧
        (config.contains "openstack-origin" ∨ config.contains "source")) ∨
    ∃ (found : List (String × ApplicationConfig)) (app : String) (rest : List String) (e : Error),
      names = found.map (·.1) ++ app :: rest ∧
      run.exchanges = ⟨.status, .ok snapshot⟩ :: found.map (fun f => ⟨.config f.1, .ok f.2⟩) ++
        [⟨.config app, .error e⟩] ∧
      run.result = .error e := by
  intro run names
  let planned := (groups UpgradeMode.openstack.defaultFilters snapshot.applications).run answer
    (answer .status s).2
  have course : run = ⟨planned.result, .logged _ :: .asked .status (.ok snapshot) :: planned.steps,
    planned.state⟩ := run_ofMode rfl h
  have asked : run.exchanges = ⟨.status, .ok snapshot⟩ :: planned.exchanges := by
    rw [course]
    rfl
  have result : run.result = planned.result := by rw [course]
  have conducted : lookups.Conducts names _ planned := openstack_groups_conducts _
  rw [asked, result]
  cases conducted
  case through found groups all _ exchanges result given =>
    refine .inl ⟨found, groups, all, exchanges ▸ rfl, result, ?_⟩
    simpa only [Filter.sourced_iff] using given
  case upTo found app rest x e before _ exchanges refused result =>
    exact .inr ⟨found, app, rest, e, before, by rw [exchanges, refused]; rfl, result⟩

-- A model with a subordinate, a service with a source, one without, a database by another name and
-- a message broker. The last two are left as they are.
def cloud : ScriptedModel :=
  (ScriptedModel.empty.withSnapshot ⟨.ofList
    [("hacluster", ⟨"ch:hacluster-70", ["keystone"], none, .empty⟩),
      ("keystone", ⟨"ch:keystone-651", [], none, .empty⟩),
      ("mysql", ⟨"ch:percona-cluster-300", [], none, .empty⟩),
      ("ntp", ⟨"ch:ntp-41", [], none, .empty⟩),
      ("rabbitmq-server", ⟨"ch:rabbitmq-server-188", [], none, .empty⟩)]⟩).withConfig
    "keystone" [("openstack-origin", .string "distro")]

theorem ofMode_openstack_lookups_cloud :
    let run := (ofMode .openstack .none).run cloud.handler ()
    (cloud.handler .status ()).1 = .ok cloud.snapshot ∧
    run.calls = [.status, .config "keystone", .config "ntp"] ∧
    ∃ (found : List (String × ApplicationConfig)) (groups : List ServiceGroup),
      found.map (·.1) = ["keystone", "ntp"] ∧ run.result = .ok groups ∧
      ∀ app, app ∈ groups.flatMap (·.members) ↔ ∃ config, (app, config) ∈ found ∧
        (config.contains "openstack-origin" ∨ config.contains "source") := by
  intro run
  have planned : run.result.isOk := by rfl
  have names : lookedUp cloud.snapshot.applications.toList = ["keystone", "ntp"] := by rfl
  have answered : (cloud.handler .status ()).1 = .ok cloud.snapshot := rfl
  refine ⟨answered, by rfl, ?_⟩
  cases ofMode_openstack_lookups answered
  case inl h =>
    have ⟨found, groups, all, _, result, mem⟩ := h
    exact ⟨found, groups, all.trans names, result, mem⟩
  case inr h =>
    have ⟨_, _, _, e, _, _, failed⟩ := h
    have failed : run.result = .error e := failed
    simp [failed, Except.isOk, Except.toBool] at planned

end Plan
end RollingUpgrade
