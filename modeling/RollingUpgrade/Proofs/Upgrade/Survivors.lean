import RollingUpgrade.Proofs.NameMap
import RollingUpgrade.Proofs.Upgrade.Chain
import RollingUpgrade.Proofs.Upgrade.Partition

namespace RollingUpgrade

-- Kinds of upgrade, each with one that starts from fewer filters.
def UpgradeMode.narrowings : List (UpgradeMode × UpgradeMode) :=
  [(.openstack, .series), (.series, .charm), (.openstack, .charm)]

theorem UpgradeMode.filters_subset {narrow wide : UpgradeMode} {extra : ExtraFilters}
    {X Y : FilterChain} (h : (narrow, wide) ∈ narrowings) (hX : narrow.filters extra = .ok X)
    (hY : wide.filters extra = .ok Y) : Y.filters ⊆ X.filters := by
  have ⟨fs, givesX, eqX⟩ := FilterChain.filters_of_extend hX
  have ⟨fs', givesY, eqY⟩ := FilterChain.filters_of_extend hY
  have same : fs' = fs := givesY.unique givesX
  have defaults : wide.defaultFilters.filters ⊆ narrow.defaultFilters.filters := by
    simp only [narrowings, List.mem_cons, Prod.mk.injEq, List.not_mem_nil, or_false] at h
    obtain ⟨rfl, rfl⟩ | ⟨rfl, rfl⟩ | ⟨rfl, rfl⟩ := h <;> simp [defaultFilters]
  rw [eqX, eqY, same]
  exact List.append_subset.mpr
    ⟨List.Subset.trans defaults (List.subset_append_left _ _), List.subset_append_right _ _⟩

variable {σ : Type} {answer : Client.Handler σ}

-- Whatever state the client is in, the filter lets the application stay.
def Filter.Spares (answer : Client.Handler σ) (f : Filter) (app : String) (a : Application) :
    Prop :=
  ∀ s, ((f.excludes app a).run answer s).result = .ok false

namespace Plan

-- The chain can be asked about the applications, and it keeps these.
def Keeps (answer : Client.Handler σ) (chain : FilterChain)
    (applications kept : NameMap Application) : Prop :=
  ∃ s, ((select chain applications).run answer s).result = .ok kept

variable {chain X Y : FilterChain} {applications kept keptX keptY : NameMap Application} {s : σ}
  {app : String} {a : Application}

theorem map_fst_questions (l : List (String × Application)) :
    (questions answer chain l s).map (·.1) = l := by
  induction l generalizing s
  case nil          => rfl
  case cons e l hi  => simp [questions, hi]

theorem result_anyExcludes_of_keptBy {filters : List Filter} (h : KeptBy answer app a filters s) :
    ((FilterChain.anyExcludes app a filters).run answer s).result = .ok false := by
  induction filters generalizing s
  case nil => rfl
  case cons f rest hi =>
    rw [FilterChain.run_anyExcludes_cons, Run.andThen_ok h.left]
    exact hi h.right

-- Applications that every filter lets stay whenever it is asked are all kept.
theorem result_survivors_of_keptBy {l : List (String × Application)}
    (h : ∀ e ∈ l, ∀ s, KeptBy answer e.1 e.2 chain.filters s) :
    ((survivors chain l).run answer s).result = .ok l := by
  induction l generalizing s
  case nil => rfl
  case cons e l hi =>
    have ⟨here, later⟩ := List.forall_mem_cons.mp h
    have spared := result_anyExcludes_of_keptBy (here s)
    rw [run_survivors_cons, FilterChain.excludes, Run.andThen_ok spared, Run.andThen_ok (hi later)]
    rfl

section

variable (unchanging : answer.Unchanging)
include unchanging

theorem keptBy_iff {filters : List Filter} :
    KeptBy answer app a filters s ↔ ∀ f ∈ filters, f.Spares answer app a := by
  induction filters generalizing s
  case nil => simp [KeptBy]
  case cons f rest hi =>
    have spares : ((f.excludes app a).run answer s).result = .ok false ↔ f.Spares answer app a :=
      ⟨fun h t => (Program.result_run_of_unchanging unchanging _ t s).trans h, fun h => h s⟩
    simp [KeptBy, spares, hi]

-- As long as the model stays as it is, neither the order of the filters nor what was asked before
-- matters.
theorem Keeps.mem_iff (h : Keeps answer chain applications kept) :
    (app, a) ∈ kept.toList ↔
      (app, a) ∈ applications.toList ∧ ∀ f ∈ chain.filters, f.Spares answer app a := by
  have ⟨s, h⟩ := h
  have all : (questions answer chain applications.toList s).map (·.1) = applications.toList :=
    map_fst_questions _
  have asked : (app, a) ∈ applications.toList ↔
      ∃ s', ((app, a), s') ∈ questions answer chain applications.toList s := by
    simpa using congrArg ((app, a) ∈ ·) all.symm
  simp only [select_result h, Survives, keptBy_iff unchanging, asked, exists_and_right]

theorem Keeps.subset (sub : Y.filters ⊆ X.filters) (hX : Keeps answer X applications keptX)
    (hY : Keeps answer Y applications keptY) : keptX.toList ⊆ keptY.toList := by
  intro ⟨app, a⟩ h
  have ⟨mem, spared⟩ := (hX.mem_iff unchanging).mp h
  exact (hY.mem_iff unchanging).mpr ⟨mem, fun f hf => spared f (sub hf)⟩

-- What a chain keeps it keeps again.
theorem Keeps.result_select_kept (h : Keeps answer chain applications kept) :
    ((select chain kept).run answer s).result = .ok kept := by
  have spared e (he : e ∈ kept.toList) s : KeptBy answer e.1 e.2 chain.filters s :=
    (keptBy_iff unchanging).mpr ((h.mem_iff unchanging).mp he).right
  rw [select_retells.result, result_survivors_of_keptBy spared, Except.map, NameMap.ofList_toList]

-- As long as the model stays as it is, a chain keeps no application that a chain of some of its
-- filters leaves out. So all that matters is which filters a chain has, further ones only leave out
-- more, and each kind of upgrade keeps what a narrower one keeps. What a chain keeps it keeps
-- again, with the same plan.
theorem select_antitone (applications : NameMap Application) :
    (∀ X Y keptX keptY, Y.filters ⊆ X.filters → Keeps answer X applications keptX →
      Keeps answer Y applications keptY → keptX.toList ⊆ keptY.toList) ∧
    (∀ X Y keptX keptY, (∀ f, f ∈ X.filters ↔ f ∈ Y.filters) → Keeps answer X applications keptX →
      Keeps answer Y applications keptY → keptX = keptY) ∧
    (∀ (chain : FilterChain) extra extended kept rest, chain.extend extra = .ok extended →
      Keeps answer chain applications kept → Keeps answer extended applications rest →
      rest.toList ⊆ kept.toList) ∧
    (∀ (narrow wide : UpgradeMode) extra X Y keptX keptY, (narrow, wide) ∈ UpgradeMode.narrowings →
      narrow.filters extra = .ok X → wide.filters extra = .ok Y →
      Keeps answer X applications keptX → Keeps answer Y applications keptY →
      keptX.toList ⊆ keptY.toList) ∧
    ∀ chain kept s, Keeps answer chain applications kept →
      ((select chain kept).run answer s).result = .ok kept ∧
      ∃ plan, ((groups chain applications).run answer s).result = .ok plan ∧
        ((groups chain kept).run answer s).result = .ok plan := by
  refine ⟨?fewer, ?same, ?further, ?modes, ?again⟩
  case fewer => exact fun X Y keptX keptY sub hX hY => hX.subset unchanging sub hY
  case same =>
    intro X Y keptX keptY same hX hY
    have sub := hX.subset unchanging (fun f => (same f).mpr) hY
    exact NameMap.eq_of_subset sub (hY.subset unchanging (fun f => (same f).mp) hX)
  case further =>
    intro chain extra extended kept rest h hc he
    have ⟨fs, _, filters⟩ := FilterChain.filters_of_extend h
    exact he.subset unchanging (filters ▸ List.subset_append_left _ _) hc
  case modes =>
    intro narrow wide extra X Y keptX keptY narrower hX hY keepsX
    exact keepsX.subset unchanging (UpgradeMode.filters_subset narrower hX hY)
  case again =>
    intro chain kept s h
    have again : ((select chain kept).run answer s).result = .ok kept :=
      h.result_select_kept unchanging
    have ⟨t, first⟩ := h
    replace first := (Program.result_run_of_unchanging unchanging _ s t).trans first
    refine ⟨again, ServiceGroup.ofApplications kept, ?_, ?_⟩
    · rw [groups_retells.result, first, Except.map]
    · rw [groups_retells.result, again, Except.map]

end

-- A subordinate, a service with a source, one without, and a database that is left as it is.
def fourApplications : NameMap Application :=
  .ofList [("hacluster", ⟨"ch:hacluster-70", ["keystone"], none, .empty⟩),
    ("keystone", ⟨"ch:keystone-651", [], none, .empty⟩), ("ntp", ⟨"ch:ntp-41", [], none, .empty⟩),
    ("percona-cluster", ⟨"ch:percona-cluster-300", [], none, .empty⟩)]

-- A model with options for two of them.
def sourcedModel : ScriptedModel :=
  (ScriptedModel.empty.withConfig "keystone" [("openstack-origin", .string "distro")]).withConfig
    "percona-cluster" [("source", .string "distro")]

theorem select_antitone_four_applications :
    let only names := fourApplications.filter fun app _ => app ∈ names
    let sourced := only ["keystone", "percona-cluster"]
    let principal := only ["keystone", "ntp", "percona-cluster"]
    Keeps sourcedModel.handler ⟨[.nonOpenstack, .subordinates]⟩ fourApplications sourced ∧
    Keeps sourcedModel.handler UpgradeMode.openstack.defaultFilters fourApplications
      (only ["keystone"]) ∧
    Keeps sourcedModel.handler UpgradeMode.series.defaultFilters fourApplications principal ∧
    sourced.toList ⊆ principal.toList ∧
    (only ["keystone"]).toList ⊆ principal.toList ∧
    (only ["keystone"]).toList ⊆ sourced.toList ∧
    ((select ⟨[.nonOpenstack, .subordinates]⟩ sourced).run sourcedModel.handler ()).result =
      .ok sourced := by
  intro only sourced principal
  have unchanging : sourcedModel.handler.Unchanging := sourcedModel.handler_unchanging
  have ⟨fewer, _, _, modes, again⟩ := select_antitone unchanging fourApplications
  have keepsSourced : Keeps sourcedModel.handler ⟨[.nonOpenstack, .subordinates]⟩ fourApplications
      sourced := ⟨(), by rfl⟩
  have keepsOne : Keeps sourcedModel.handler UpgradeMode.openstack.defaultFilters fourApplications
      (only ["keystone"]) := ⟨(), by rfl⟩
  have keepsPrincipal : Keeps sourcedModel.handler UpgradeMode.series.defaultFilters
      fourApplications principal := ⟨(), by rfl⟩
  refine ⟨keepsSourced, keepsOne, keepsPrincipal, ?series, ?modes, ?openstack, ?again⟩
  case series =>
    exact fewer _ _ _ _ (List.subset_cons_self _ _) keepsSourced keepsPrincipal
  case modes =>
    exact modes .openstack .series .none _ _ _ _ (by decide) rfl rfl keepsOne keepsPrincipal
  case openstack =>
    have sub : [Filter.nonOpenstack, .subordinates] ⊆
        UpgradeMode.openstack.defaultFilters.filters := by simp [UpgradeMode.defaultFilters]
    exact fewer _ _ _ _ sub keepsOne keepsSourced
  case again => exact (again _ _ () keepsSourced).left

end Plan
end RollingUpgrade
