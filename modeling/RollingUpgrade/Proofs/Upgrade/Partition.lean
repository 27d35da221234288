import Mathlib.Data.List.Nodup
import RollingUpgrade.Client.Recorder
import RollingUpgrade.Proofs.Run
import RollingUpgrade.Upgrade.Plan

namespace RollingUpgrade

namespace Phase

theorem table_disjoint : table.Pairwise fun p q => ∀ charm ∈ p.2, charm ∉ q.2 := by
  decide

end Phase

namespace ServiceGroup

variable {applications : NameMap Application} {app : String} {a : Application}

-- The applications with a charm of the list.
def covered (applications : NameMap Application) (charms : List String) : List String :=
  (applications.filter fun _ a => Charm.name a.charm ∈ charms).keys

-- The applications that are not placed and have a charm that is in no row of the table.
def leftover (applications : NameMap Application) (table : List (String × List String))
    (placed : List String) : List String :=
  (applications.filter fun app a => app ∉ placed ∧ ∀ row ∈ table, Charm.name a.charm ∉ row.2).keys

theorem mem_covered {charms : List String} :
    app ∈ covered applications charms ↔
      ∃ a, (app, a) ∈ applications.toList ∧ Charm.name a.charm ∈ charms := by
  simp [covered, NameMap.mem_keys_filter]

theorem mem_leftover {table : List (String × List String)} :
    app ∈ leftover applications table [] ↔
      ∃ a, (app, a) ∈ applications.toList ∧ ∀ row ∈ table, Charm.name a.charm ∉ row.2 := by
  simp [leftover, NameMap.mem_keys_filter]

-- The loop only asks whether an application is placed, not what its charm is. The invariant is
-- that no placed application has a charm that a later row covers.
theorem fill_eq {table : List (String × List String)} {placed : List String}
    (disjoint : table.Pairwise fun p q => ∀ charm ∈ p.2, charm ∉ q.2)
    (fresh : ∀ app a, (app, a) ∈ applications.toList → app ∈ placed →
      ∀ row ∈ table, Charm.name a.charm ∉ row.2) :
    fill applications table placed =
      table.map (fun row => ⟨row.1, covered applications row.2⟩) ++
        [⟨Phase.sweepUp, leftover applications table placed⟩] := by
  induction table generalizing placed
  case nil => simp [fill, leftover, NameMap.keys, NameMap.filter, List.filter_map]; rfl
  case cons row table hi =>
    obtain ⟨phase, charms⟩ := row
    obtain ⟨disjoint_row, disjoint_table⟩ := List.pairwise_cons.mp disjoint
    have members : (applications.filter fun app a =>
        app ∉ placed ∧ Charm.name a.charm ∈ charms).keys = covered applications charms := by
      refine congrArg _ (NameMap.filter_congr fun e he => ?_)
      have h : e.1 ∈ placed → Charm.name e.2.charm ∉ charms :=
        fun h => fresh e.1 e.2 he h _ List.mem_cons_self
      exact decide_eq_decide.mpr (and_iff_right_of_imp fun hc hp => h hp hc)
    have fresh' : ∀ app a, (app, a) ∈ applications.toList →
        app ∈ placed ++ covered applications charms →
        ∀ row ∈ table, Charm.name a.charm ∉ row.2 := by
      intro app a ha happ row hrow
      cases List.mem_append.mp happ
      case inl h => exact fresh app a ha h row (List.mem_cons_of_mem _ hrow)
      case inr h =>
        obtain ⟨b, hb, hcharm⟩ := mem_covered.mp h
        exact disjoint_row row hrow _ (NameMap.value_unique ha hb ▸ hcharm)
    have rest : leftover applications table (placed ++ covered applications charms) =
        leftover applications ((phase, charms) :: table) placed := by
      refine congrArg _ (NameMap.filter_congr fun e he => ?_)
      have h : e.1 ∈ covered applications charms ↔ Charm.name e.2.charm ∈ charms :=
        mem_covered.trans (NameMap.exists_value_iff he)
      simp only [List.mem_append, h, List.forall_mem_cons, not_or, and_assoc]
    rw [fill, members, hi disjoint_table fresh', rest]
    rfl

theorem ofApplications_eq :
    ofApplications applications =
      Phase.table.map (fun row => ⟨row.1, covered applications row.2⟩) ++
        [⟨Phase.sweepUp, leftover applications Phase.table []⟩] :=
  fill_eq Phase.table_disjoint fun _ _ _ h => nomatch h

theorem name_ofApplications :
    (ofApplications applications).map (·.name) = Phase.table.map (·.1) ++ [Phase.sweepUp] := by
  simp [ofApplications_eq]

theorem members_ascending {g : ServiceGroup} (h : g ∈ ofApplications applications) :
    g.members.Pairwise (· < ·) := by
  rw [ofApplications_eq, List.mem_append, List.mem_map] at h
  cases h
  case inl h => obtain ⟨row, -, rfl⟩ := h; exact NameMap.keys_ascending _
  case inr h => cases List.mem_singleton.mp h; exact NameMap.keys_ascending _

theorem mem_members_phase {i : Nat} {row : String × List String} {g : ServiceGroup}
    (hr : Phase.table[i]? = some row) (hg : (ofApplications applications)[i]? = some g) :
    app ∈ g.members ↔
      ∃ a, (app, a) ∈ applications.toList ∧ Charm.name a.charm ∈ row.2 := by
  have ⟨hi, _⟩ := List.getElem?_eq_some_iff.mp hr
  rw [ofApplications_eq, List.getElem?_append_left (by simpa using hi), List.getElem?_map, hr] at hg
  cases hg
  exact mem_covered

theorem mem_members_sweepUp {g : ServiceGroup}
    (hg : (ofApplications applications)[Phase.table.length]? = some g) :
    app ∈ g.members ↔ ∃ a, (app, a) ∈ applications.toList ∧
      ∀ row ∈ Phase.table, Charm.name a.charm ∉ row.2 := by
  rw [ofApplications_eq, List.getElem?_append_right (by simp)] at hg
  simp only [List.length_map, Nat.sub_self, List.getElem?_cons_zero, Option.some.injEq] at hg
  cases hg
  exact mem_leftover

theorem mem_members :
    app ∈ (ofApplications applications).flatMap (·.members) ↔ app ∈ applications.keys := by
  have keys : app ∈ applications.keys ↔ ∃ a, (app, a) ∈ applications.toList := by
    simp [NameMap.keys]
  simp only [ofApplications_eq, List.flatMap_append, List.mem_append, List.mem_flatMap,
    List.mem_map, exists_exists_and_eq_and, List.flatMap_singleton, mem_covered, mem_leftover, keys]
  constructor
  · rintro (⟨_, _, a, ha, _⟩ | ⟨a, ha, _⟩) <;> exact ⟨a, ha⟩
  · rintro ⟨a, ha⟩
    by_cases h : ∃ row ∈ Phase.table, Charm.name a.charm ∈ row.2
    case pos => obtain ⟨row, hrow, h⟩ := h; exact .inl ⟨row, hrow, a, ha, h⟩
    case neg => exact .inr ⟨a, ha, fun row hrow hc => h ⟨row, hrow, hc⟩⟩

-- No application is in two groups, since a charm is in one row at most.
theorem members_nodup : ((ofApplications applications).flatMap (·.members)).Nodup := by
  have covered_disjoint : Phase.table.Pairwise fun p q =>
      (covered applications p.2).Disjoint (covered applications q.2) := by
    refine Phase.table_disjoint.imp fun {p q} h app hp hq => ?_
    have ⟨a, ha, hcp⟩ := mem_covered.mp hp
    have ⟨b, hb, hcq⟩ := mem_covered.mp hq
    exact h _ hcp (NameMap.value_unique hb ha ▸ hcq)
  rw [ofApplications_eq, List.flatMap_append, List.flatMap_singleton, List.flatMap_map]
  refine List.Nodup.append ?covered ?leftover ?disjoint
  case covered =>
    exact List.nodup_flatMap.mpr ⟨fun _ _ => NameMap.keys_nodup _, covered_disjoint⟩
  case leftover => exact NameMap.keys_nodup _
  case disjoint =>
    intro app hc hl
    have ⟨row, hrow, h⟩ := List.mem_flatMap.mp hc
    have ⟨a, ha, hcharm⟩ := mem_covered.mp h
    have ⟨b, hb, hleft⟩ := mem_leftover.mp hl
    exact hleft row hrow (NameMap.value_unique hb ha ▸ hcharm)

end ServiceGroup

namespace Plan

variable {σ : Type} (answer : Client.Handler σ) (chain : FilterChain)

-- Every filter of the list, when its turn comes, lets the application stay.
def KeptBy (app : String) (a : Application) : List Filter → σ → Prop
  | [],        _ => True
  | f :: rest, s =>
    let run := (f.excludes app a).run answer s
    run.result = .ok false ∧ KeptBy app a rest run.state

-- The applications of a list, each with the state of the client when the chain is asked about it.
def questions : List (String × Application) → σ → List ((String × Application) × σ)
  | [],        _ => []
  | e :: rest, s => (e, s) :: questions rest ((chain.excludes e.1 e.2).run answer s).state

-- An application that is asked about and that no filter excludes.
def Survives (applications : NameMap Application) (s : σ) (app : String) (a : Application) : Prop :=
  ∃ s', ((app, a), s') ∈ questions answer chain applications.toList s ∧
    KeptBy answer app a chain.filters s'

variable {answer chain} {s : σ} {app : String} {a : Application}

theorem anyExcludes_eq_false_iff {filters : List Filter} {b : Bool}
    (h : ((FilterChain.anyExcludes app a filters).run answer s).result = .ok b) :
    b = false ↔ KeptBy answer app a filters s := by
  induction filters generalizing s
  case nil =>
    cases h
    exact iff_of_true rfl trivial
  case cons f rest hi =>
    rw [FilterChain.anyExcludes] at h
    have ⟨excluded, hr, h⟩ := Program.result_bind_eq_ok h
    cases excluded
    case true  => cases h; simp [KeptBy, hr]
    case false => simpa [KeptBy, hr] using hi h

theorem survivors_result {l kept : List (String × Application)}
    (h : ((survivors chain l).run answer s).result = .ok kept) :
    kept.Sublist l ∧ ∀ e, e ∈ kept ↔
      ∃ s', (e, s') ∈ questions answer chain l s ∧ KeptBy answer e.1 e.2 chain.filters s' := by
  induction l generalizing s kept
  case nil =>
    cases h
    simp [questions]
  case cons entry rest hi =>
    rw [survivors] at h
    have ⟨excluded, hr, h⟩ := Program.result_bind_eq_ok h
    have ⟨others, ho, h⟩ := Program.result_bind_eq_ok h
    cases h
    have ⟨sublist, mem⟩ := hi ho
    have verdict := anyExcludes_eq_false_iff hr
    cases excluded
    case true =>
      have dropped : ¬KeptBy answer entry.1 entry.2 chain.filters s := by simpa using verdict
      refine ⟨sublist.cons _, fun e => ?_⟩
      simp only [questions, List.mem_cons, Prod.mk.injEq, if_true, mem]
      constructor
      · exact fun ⟨s', h, keeps⟩ => ⟨s', .inr h, keeps⟩
      · rintro ⟨s', ⟨rfl, rfl⟩ | h, keeps⟩
        · exact absurd keeps dropped
        · exact ⟨s', h, keeps⟩
    case false =>
      have stays : KeptBy answer entry.1 entry.2 chain.filters s := by simpa using verdict
      refine ⟨sublist.cons_cons _, fun e => ?_⟩
      simp only [questions, List.mem_cons, Prod.mk.injEq, Bool.false_eq_true, if_false, mem]
      constructor
      · rintro (rfl | ⟨s', h, keeps⟩)
        · exact ⟨s, .inl ⟨rfl, rfl⟩, stays⟩
        · exact ⟨s', .inr h, keeps⟩
      · rintro ⟨s', ⟨rfl, rfl⟩ | h, keeps⟩
        · exact .inl rfl
        · exact .inr ⟨s', h, keeps⟩

theorem select_result {applications selected : NameMap Application}
    (h : ((select chain applications).run answer s).result = .ok selected) :
    (app, a) ∈ selected.toList ↔ Survives answer chain applications s app a := by
  rw [select] at h
  have ⟨kept, hk, h⟩ := Program.result_bind_eq_ok h
  have ⟨sublist, mem⟩ := survivors_result hk
  cases h
  rw [NameMap.toList_ofList (applications.ascending.sublist sublist)]
  exact mem (app, a)

theorem arrange_result {applications : NameMap Application} {gs : List ServiceGroup}
    (h : ((arrange applications).run answer s).result = .ok gs) :
    gs = ServiceGroup.ofApplications applications := by
  rw [arrange] at h
  have ⟨_, _, h⟩ := Program.result_bind_eq_ok h
  cases h
  rfl

-- If a plan comes about, then it has the phases of the table in order, and the sweep after them. An
-- application that no filter excludes is in one phase, once, and no other name is in any. The phase
-- is that of the charm, whatever other applications there are.
theorem groups_partition_survivors {applications : NameMap Application} {gs : List ServiceGroup}
    (h : ((groups chain applications).run answer s).result = .ok gs) :
    gs.map (·.name) = Phase.table.map (·.1) ++ [Phase.sweepUp] ∧
    (∀ g ∈ gs, g.members.Pairwise (· < ·)) ∧
    (∀ app, (∀ a, ¬Survives answer chain applications s app a) →
      (gs.flatMap (·.members)).count app = 0) ∧
    ∀ app a, Survives answer chain applications s app a →
      (gs.flatMap (·.members)).count app = 1 ∧
      (∀ (i : Nat) row g, Phase.table[i]? = some row → gs[i]? = some g →
        (app ∈ g.members ↔ Charm.name a.charm ∈ row.2)) ∧
      ∀ g, gs[Phase.table.length]? = some g →
        (app ∈ g.members ↔ ∀ row ∈ Phase.table, Charm.name a.charm ∉ row.2) := by
  rw [groups] at h
  have ⟨selected, hs, h⟩ := Program.result_bind_eq_ok h
  have mem {app a} : (app, a) ∈ selected.toList ↔ Survives answer chain applications s app a :=
    select_result hs
  cases arrange_result h
  refine ⟨ServiceGroup.name_ofApplications, fun _ => ServiceGroup.members_ascending, ?others, ?kept⟩
  case others =>
    intro app h
    rw [List.count_eq_zero, ServiceGroup.mem_members, NameMap.keys, List.mem_map]
    rintro ⟨⟨_, a⟩, ha, rfl⟩
    exact h a (mem.mp ha)
  case kept =>
    intro app a h
    have hm := mem.mpr h
    refine ⟨?once, fun i row g hr hg => ?phase, fun g hg => ?sweepUp⟩
    case once =>
      refine List.count_eq_one_of_mem ServiceGroup.members_nodup (ServiceGroup.mem_members.mpr ?_)
      exact List.mem_map.mpr ⟨_, hm, rfl⟩
    case phase   =>
      exact (ServiceGroup.mem_members_phase hr hg).trans (NameMap.exists_value_iff hm)
    case sweepUp =>
      exact (ServiceGroup.mem_members_sweepUp hg).trans (NameMap.exists_value_iff hm)

-- An application that is upgraded, and a database that is left as it is.
def twoApplications : NameMap Application :=
  .ofList [("keystone", ⟨"ch:amd64/jammy/keystone-651", [], none, .empty⟩),
    ("percona-cluster", ⟨"cs:percona-cluster-300", [], none, .empty⟩)]

theorem groups_partition_two_applications :
    ∃ gs, (ScriptedModel.empty.run [] (groups ⟨[.onExcludeList]⟩ twoApplications)).result = .ok gs ∧
      gs.map (·.name) = ["Database Services", "Stateful Services", "Core Identity",
        "Control Plane", "Data Plane", "sweep_up"] ∧
      (gs.flatMap (·.members)).count "percona-cluster" = 0 ∧
      (gs.flatMap (·.members)).count "keystone" = 1 := by
  have h : (ScriptedModel.empty.run [] (groups ⟨[.onExcludeList]⟩ twoApplications)).result =
      .ok (ServiceGroup.ofApplications (.ofList [twoApplications.toList[0]])) := by rfl
  have ⟨names, _, others, kept⟩ := @groups_partition_survivors _ (Recorder.handleFaulty []) _
    (.ofModel .empty, 0) _ _ h
  refine ⟨_, h, names, others _ fun a ⟨_, _, keeps, _⟩ => ?excluded, ?survives⟩
  case excluded => cases keeps
  case survives => exact (kept _ _ ⟨_, .head _, rfl, trivial⟩).left

end Plan
end RollingUpgrade
