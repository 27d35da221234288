import RollingUpgrade.Client.Checks
import RollingUpgrade.Pids.Discovery
import RollingUpgrade.Proofs.Upgrade.Chain

namespace RollingUpgrade

open Program

-- Whether a call asks for the snapshot, for options or for a command on a unit.
def Call.IsQuery : Call → Prop
  | .status | .config _ | .run .. => True
  | _                             => False

variable {σ : Type} {answer : Client.Handler σ}

namespace Filter

variable {f : Filter} {app : String} {a : Application}

-- The filters that come with the planner, with any text for the name of a charm.
inductive BuiltIn : Filter → Prop
  | subordinates : BuiltIn subordinates
  | onExcludeList : BuiltIn onExcludeList
  | nonOpenstack : BuiltIn nonOpenstack
  | charmContains (name needle : String) : BuiltIn (charmContains name needle)

theorem builtIn_of_mem_table {name : String} (h : (name, f) ∈ table) : f.BuiltIn := by
  simp only [table, List.mem_cons, Prod.mk.injEq, List.not_mem_nil, or_false] at h
  obtain ⟨_, rfl⟩ | ⟨_, rfl⟩ | ⟨_, rfl⟩ | ⟨_, rfl⟩ | ⟨_, rfl⟩ | ⟨_, rfl⟩ := h
  · exact .subordinates
  · exact .onExcludeList
  · exact .nonOpenstack
  all_goals exact .charmContains _ _

theorem warning_only {message : String} {fields : List (String × Log.Value)}
    (excluded verdict : Bool) :
    (if excluded then warnExcluded message fields >>= fun _ => pure verdict
      else pure verdict).Only answer Call.IsQuery := by
  split
  case isTrue  => exact .bind (.emit _ _ _ _) fun _ => .done _
  case isFalse => exact .done _

theorem BuiltIn.excludes_only (h : f.BuiltIn) : (f.excludes app a).Only answer Call.IsQuery := by
  cases h
  case nonOpenstack =>
    dsimp only [Filter.nonOpenstack]
    exact .bind (Call.perform_only trivial) fun _ => warning_only _ _
  all_goals
    dsimp only [Filter.subordinates, Filter.onExcludeList, Filter.charmContains]
    exact warning_only _ _

end Filter

-- Extra filters that come with the planner. Those that a configuration names always do.
def ExtraFilters.BuiltIn : ExtraFilters → Prop
  | .none    => True
  | .one f   => f.BuiltIn
  | .many fs => ∀ f ∈ fs, f.BuiltIn
  | .named _ => True

theorem ExtraFilters.Gives.builtIn {extra : ExtraFilters} {fs : List Filter} (h : extra.Gives fs)
    (added : extra.BuiltIn) : ∀ f ∈ fs, f.BuiltIn := by
  cases h
  case none => exact fun f hf => nomatch hf
  case one  => exact List.forall_mem_singleton.mpr added
  case many => exact added
  case named names known =>
    induction known
    case nil           => exact fun f hf => nomatch hf
    case cons mem _ hi =>
      exact List.forall_mem_cons.mpr ⟨Filter.builtIn_of_mem_table mem, hi trivial⟩

namespace FilterChain

theorem builtIn_of_extend {c extended : FilterChain} {extra : ExtraFilters}
    (base : ∀ f ∈ c.filters, f.BuiltIn) (added : extra.BuiltIn)
    (h : c.extend extra = .ok extended) : ∀ f ∈ extended.filters, f.BuiltIn := by
  have ⟨fs, gives, filters⟩ := filters_of_extend h
  rw [filters]
  exact List.forall_mem_append.mpr ⟨base, gives.builtIn added⟩

theorem anyExcludes_only {filters : List Filter} {app : String} {a : Application}
    (h : ∀ f ∈ filters, f.BuiltIn) : (anyExcludes app a filters).Only answer Call.IsQuery := by
  induction filters
  case nil => exact .done _
  case cons f rest hi =>
    refine .bind (h f List.mem_cons_self).excludes_only fun excluded => ?_
    cases excluded
    case true  => exact .done _
    case false => exact hi fun f hf => h f (List.mem_cons_of_mem _ hf)

end FilterChain

theorem UpgradeMode.builtIn_defaultFilters (mode : UpgradeMode) :
    ∀ f ∈ mode.defaultFilters.filters, f.BuiltIn := by
  cases mode
  case openstack =>
    simp only [defaultFilters, List.forall_mem_cons]
    exact ⟨.subordinates, .onExcludeList, .nonOpenstack, fun f hf => nomatch hf⟩
  case series    => exact List.forall_mem_singleton.mpr .subordinates
  case charm     => exact fun f hf => nomatch hf

namespace Plan

variable {chain : FilterChain}

theorem survivors_only (h : ∀ f ∈ chain.filters, f.BuiltIn) (l : List (String × Application)) :
    (survivors chain l).Only answer Call.IsQuery := by
  induction l
  case nil           => exact .done _
  case cons e rest hi =>
    exact .bind (FilterChain.anyExcludes_only h) fun _ => .bind hi fun _ => .done _

theorem candidates_only (h : ∀ f ∈ chain.filters, f.BuiltIn) :
    (candidates chain).Only answer Call.IsQuery :=
  .bind (Call.perform_only trivial) fun _ =>
    .bind (survivors_only h _) fun _ => .bind (.emit _ _ _ _) fun _ => .done _

theorem arrange_only (applications : NameMap Application) :
    (arrange applications).Only answer Call.IsQuery :=
  .bind (.forM fun _ _ => .emit _ _ _ _) fun _ => .done _

theorem ofMode_only (mode : UpgradeMode) {extra : ExtraFilters} (h : extra.BuiltIn) :
    (ofMode mode extra).Only answer Call.IsQuery := by
  rw [ofMode]
  cases hf : mode.filters extra
  case error e => exact .fail e
  case ok chain =>
    have builtIn : ∀ f ∈ chain.filters, f.BuiltIn :=
      FilterChain.builtIn_of_extend mode.builtIn_defaultFilters h hf
    dsimp only [Program.ofExcept, done_bind]
    exact .bind (.emit _ _ _ _) fun _ => .bind (candidates_only builtIn) fun _ => arrange_only _

end Plan

namespace Pids

theorem find_only (unit process : String) (expectSuccess : Bool) :
    (find unit process expectSuccess).Only answer Call.IsQuery := by
  refine .bind (Call.perform_only trivial) fun result => ?_
  split
  case isTrue  => exact .bind (.fail _) fun _ => .bind (.emit _ _ _ _) fun _ => .done _
  case isFalse => exact .bind (.emit _ _ _ _) fun _ => .done _

theorem findAll_only (expected : ExpectedPids) (expectSuccess : Bool) :
    (findAll expected expectSuccess).Only answer Call.IsQuery :=
  .bind (.mapM fun _ _ => .bind (.mapM fun _ _ => .bind (find_only _ _ _) fun _ => .done _) fun _ =>
    .done _) fun _ => .done _

end Pids

namespace Client

theorem units_only (application : String) : (units application).Only answer Call.IsQuery := by
  refine .bind (Call.perform_only trivial) fun snapshot => ?_
  split
  case h_1 => exact .done _
  case h_2 => exact .fail _

theorem output_only (unit command : String) : (output unit command).Only answer Call.IsQuery := by
  refine .bind (Call.perform_only trivial) fun result => ?_
  split
  case isTrue  => exact .done _
  case isFalse => exact .fail _

theorem packageVersions_only (application package : String) :
    (packageVersions application package).Only answer Call.IsQuery :=
  .bind (units_only _) fun _ => .mapM fun _ _ =>
    .bind (output_only _ _) fun _ => .bind (.emit _ _ _ _) fun _ => .done _

theorem packageVersion_only (application package : String) :
    (packageVersion application package).Only answer Call.IsQuery := by
  refine .bind (packageVersions_only _ _) fun versions => ?_
  cases agreement application package versions
  case error e    => exact .fail e
  case ok version => exact .done version

theorem hostnames_only (units : List PlacedUnit) : (hostnames units).Only answer Call.IsQuery :=
  .bind (.mapM fun _ _ => .bind (output_only _ _) fun _ => .done _) fun _ => .done _

theorem checkCommands_only (commands : List String) (units : List PlacedUnit) :
    (checkCommands commands units).Only answer Call.IsQuery :=
  .forM fun _ _ => .forM fun _ _ => .bind (output_only _ _) fun _ => .done _

end Client
end RollingUpgrade
