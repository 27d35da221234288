import Mathlib.Data.List.Forall2
import RollingUpgrade.Proofs.Upgrade.Course

namespace RollingUpgrade

open Program

namespace Filter

-- The built-in filters, each with the name that stands for it in a configuration.
def table : List (String × Filter) :=
  [("subordinates", subordinates), ("upgrade-exclude-list", onExcludeList),
    ("non-openstack-services", nonOpenstack), ("easyrsa", charmContains "easyrsa" "easyrsa"),
    ("etcd", charmContains "etcd" "etcd"), ("memcached", charmContains "memcached" "memcached")]

-- No built-in filter has the name.
def Unknown (name : String) : Prop := name ∉ table.map (·.1)

instance (name : String) : Decidable (Unknown name) :=
  inferInstanceAs (Decidable (name ∉ table.map (·.1)))

-- The first of several names that no built-in filter has.
inductive FirstUnknown : List String → String → Prop
  | here {name : String} {rest : List String} : Unknown name → FirstUnknown (name :: rest) name
  | later {known name : String} {rest : List String} : ¬Unknown known → FirstUnknown rest name →
    FirstUnknown (known :: rest) name

variable {f : Filter} {name : String} {names : List String}

theorem name_of_mem_table (h : (name, f) ∈ table) : f.name = name := by
  simp only [table, List.mem_cons, Prod.mk.injEq, List.not_mem_nil, or_false] at h
  obtain ⟨rfl, rfl⟩ | ⟨rfl, rfl⟩ | ⟨rfl, rfl⟩ | ⟨rfl, rfl⟩ | ⟨rfl, rfl⟩ | ⟨rfl, rfl⟩ := h <;> rfl

theorem mem_table_of_mem_builtins (h : f ∈ builtins) : (f.name, f) ∈ table := by
  have listed : f ∈ table.map (·.2) := h
  have ⟨e, mem, same⟩ := List.mem_map.mp listed
  have called : e.2.name = e.1 := name_of_mem_table mem
  simpa [← same, called] using mem

theorem builtin?_eq_some_iff : builtin? name = some f ↔ (name, f) ∈ table := by
  constructor
  · intro h
    have called : f.name = name := by simpa using List.find?_some h
    exact called ▸ mem_table_of_mem_builtins (List.mem_of_find?_eq_some h)
  · intro h
    simp only [table, List.mem_cons, Prod.mk.injEq, List.not_mem_nil, or_false] at h
    obtain ⟨rfl, rfl⟩ | ⟨rfl, rfl⟩ | ⟨rfl, rfl⟩ | ⟨rfl, rfl⟩ | ⟨rfl, rfl⟩ | ⟨rfl, rfl⟩ := h <;> rfl

theorem eq_of_mem_table {g : Filter} (hf : (name, f) ∈ table) (hg : (name, g) ∈ table) : f = g :=
  Option.some.inj ((builtin?_eq_some_iff.mpr hf).symm.trans (builtin?_eq_some_iff.mpr hg))

theorem builtin?_eq_none_iff : builtin? name = none ↔ Unknown name := by
  simp [Option.eq_none_iff_forall_ne_some, builtin?_eq_some_iff, Unknown]

theorem not_unknown_iff : ¬Unknown name ↔ ∃ f, (name, f) ∈ table := by
  simp [Unknown]

theorem known_or_firstUnknown (names : List String) :
    (∃ fs, List.Forall₂ (fun name f => (name, f) ∈ table) names fs) ∨
      ∃ name, FirstUnknown names name := by
  induction names
  case nil => exact .inl ⟨[], .nil⟩
  case cons name names hi =>
    by_cases unknown : Unknown name
    case pos => exact .inr ⟨name, .here unknown⟩
    case neg =>
      have ⟨f, mem⟩ := not_unknown_iff.mp unknown
      exact hi.imp (fun ⟨fs, known⟩ => ⟨f :: fs, .cons mem known⟩)
        fun ⟨name, first⟩ => ⟨name, .later unknown first⟩

theorem exists_firstUnknown_iff :
    (∃ name, FirstUnknown names name) ↔ ∃ name ∈ names, Unknown name := by
  constructor
  · intro ⟨name, first⟩
    induction first
    case here unknown => exact ⟨_, List.mem_cons_self, unknown⟩
    case later hi =>
      have ⟨name, mem, unknown⟩ := hi
      exact ⟨name, List.mem_cons_of_mem _ mem, unknown⟩
  · intro ⟨name, mem, unknown⟩
    induction names
    case nil => nomatch mem
    case cons first rest hi =>
      by_cases h : Unknown first
      case pos => exact ⟨first, .here h⟩
      case neg =>
        cases mem
        case head     => exact absurd unknown h
        case tail mem =>
          have ⟨name, later⟩ := hi mem
          exact ⟨name, .later h later⟩

end Filter

namespace ExtraFilters

-- What extra filters are: those at hand, or for each of the names the built-in one.
inductive Gives : ExtraFilters → List Filter → Prop
  | none : Gives .none []
  | one {f : Filter} : Gives (.one f) [f]
  | many {fs : List Filter} : Gives (.many fs) fs
  | named {names : List String} {fs : List Filter} :
    List.Forall₂ (fun name f => (name, f) ∈ Filter.table) names fs → Gives (.named names) fs

def names : ExtraFilters → List String
  | .none        => []
  | .one f       => [f.name]
  | .many fs     => fs.map (·.name)
  | .named names => names

variable {extra : ExtraFilters} {fs : List Filter}

theorem Gives.map_name (h : extra.Gives fs) : fs.map (·.name) = extra.names := by
  cases h
  case none | one | many => rfl
  case named names known =>
    induction known
    case nil => rfl
    case cons mem _ hi =>
      rw [List.map_cons, Filter.name_of_mem_table mem, hi]
      rfl

theorem Gives.unique {fs' : List Filter} (h : extra.Gives fs) (h' : extra.Gives fs') :
    fs = fs' := by
  cases h
  case none | one | many => cases h'; rfl
  case named names known =>
    cases h'
    case named known' =>
      induction known generalizing fs'
      case nil => cases known'; rfl
      case cons mem _ hi =>
        cases known'
        case cons mem' later =>
          have same := Filter.eq_of_mem_table mem mem'
          rw [same, hi later]

theorem gives_or_firstUnknown (extra : ExtraFilters) : (∃ fs, extra.Gives fs) ∨
    ∃ names name, extra = .named names ∧ Filter.FirstUnknown names name := by
  cases extra
  case none    => exact .inl ⟨_, .none⟩
  case one f   => exact .inl ⟨_, .one⟩
  case many fs => exact .inl ⟨_, .many⟩
  case named names =>
    exact (Filter.known_or_firstUnknown names).imp (fun ⟨fs, known⟩ => ⟨fs, .named known⟩)
      fun ⟨name, first⟩ => ⟨names, name, rfl, first⟩

end ExtraFilters

namespace FilterChain

variable {c extended : FilterChain} {extra : ExtraFilters} {names : List String} {fs : List Filter}
  {f : Filter} {name : String} {e : Error}

theorem ofNames_cons_of_known (h : (name, f) ∈ Filter.table) :
    ofNames (name :: names) = (ofNames names).map fun c => ⟨f :: c.filters⟩ := by
  simp only [ofNames, List.mapM_cons, Filter.builtin?_eq_some_iff.mpr h]
  generalize (names.mapM _ : Except Error (List Filter)) = rest
  cases rest <;> rfl

theorem ofNames_cons_of_unknown (h : Filter.Unknown name) :
    ofNames (name :: names) = .error (.invalidArgument ("unknown upgrade filter: " ++ name)) := by
  simp only [ofNames, List.mapM_cons, Filter.builtin?_eq_none_iff.mpr h]
  rfl

theorem ofNames_of_known (h : List.Forall₂ (fun name f => (name, f) ∈ Filter.table) names fs) :
    ofNames names = .ok ⟨fs⟩ := by
  induction h
  case nil            => rfl
  case cons mem _ hi  => rw [ofNames_cons_of_known mem, hi]; rfl

theorem ofNames_of_firstUnknown (h : Filter.FirstUnknown names name) :
    ofNames names = .error (.invalidArgument ("unknown upgrade filter: " ++ name)) := by
  induction h
  case here unknown => exact ofNames_cons_of_unknown unknown
  case later known _ hi =>
    have ⟨f, mem⟩ := Filter.not_unknown_iff.mp known
    rw [ofNames_cons_of_known mem, hi]
    rfl

theorem extend_of_gives (h : extra.Gives fs) : c.extend extra = .ok ⟨c.filters ++ fs⟩ := by
  cases h
  case none        => simp [extend]
  case one | many  => rfl
  case named known => rw [extend, ofNames_of_known known]; rfl

theorem extend_of_firstUnknown (h : Filter.FirstUnknown names name) : c.extend (.named names) =
    .error (.invalidArgument ("unknown upgrade filter: " ++ name)) := by
  rw [extend, ofNames_of_firstUnknown h]
  rfl

theorem extend_eq_ok_iff : c.extend extra = .ok extended ↔
    ∃ fs, extra.Gives fs ∧ extended = ⟨c.filters ++ fs⟩ := by
  constructor
  · intro h
    cases extra.gives_or_firstUnknown
    case inl gives =>
      have ⟨fs, gives⟩ := gives
      cases (extend_of_gives gives).symm.trans h
      exact ⟨fs, gives, rfl⟩
    case inr fails =>
      have ⟨names, name, same, first⟩ := fails
      cases same
      cases (extend_of_firstUnknown first).symm.trans h
  · intro ⟨fs, gives, same⟩
    exact same ▸ extend_of_gives gives

theorem extend_eq_error_iff : c.extend extra = .error e ↔
    ∃ names name, extra = .named names ∧ Filter.FirstUnknown names name ∧
      e = .invalidArgument ("unknown upgrade filter: " ++ name) := by
  constructor
  · intro h
    cases extra.gives_or_firstUnknown
    case inl gives =>
      have ⟨fs, gives⟩ := gives
      cases (extend_of_gives gives).symm.trans h
    case inr fails =>
      have ⟨names, name, same, first⟩ := fails
      cases same
      cases (extend_of_firstUnknown first).symm.trans h
      exact ⟨names, name, rfl, first, rfl⟩
  · intro ⟨names, name, named, first, text⟩
    cases named
    exact text ▸ extend_of_firstUnknown first

theorem filters_of_extend (h : c.extend extra = .ok extended) :
    ∃ fs, extra.Gives fs ∧ extended.filters = c.filters ++ fs := by
  have ⟨fs, gives, same⟩ := extend_eq_ok_iff.mp h
  exact ⟨fs, gives, same ▸ rfl⟩

theorem run_extendInPlace (c : FilterChain) (extra : ExtraFilters) :
    (extendInPlace extra).run c = match c.extend extra with
      | .ok extended => .ok () extended
      | .error e     => .error e c := by
  cases extra
  case none | one | many => rfl
  case named names =>
    rw [extendInPlace, extend]
    cases ofNames names <;> rfl

theorem run_extendInPlace_eq_ok_iff :
    (extendInPlace extra).run c = .ok () extended ↔ c.extend extra = .ok extended := by
  rw [run_extendInPlace]
  cases c.extend extra <;> simp

theorem run_extendInPlace_eq_error_iff :
    (extendInPlace extra).run c = .error e extended ↔ extended = c ∧ c.extend extra = .error e := by
  rw [run_extendInPlace]
  cases c.extend extra <;> simp [and_comm, eq_comm]

variable {σ : Type} {answer : Client.Handler σ} {s : σ} {app : String} {a : Application}

theorem anyExcludes_append (fs gs : List Filter) : anyExcludes app a (fs ++ gs) =
    anyExcludes app a fs >>= fun excluded =>
      if excluded then pure true else anyExcludes app a gs := by
  induction fs
  case nil => rfl
  case cons f fs hi =>
    simp only [List.cons_append, anyExcludes, hi, bind_assoc]
    congr
    funext excluded
    cases excluded <;> rfl

-- Filters in two parts are asked like the first of them, and then like the second if the first lets
-- the application stay.
theorem run_anyExcludes_append (fs gs : List Filter) :
    (anyExcludes app a (fs ++ gs)).run answer s =
      ((anyExcludes app a fs).run answer s).andThen fun excluded s =>
        if excluded then ⟨.ok true, [], s⟩ else (anyExcludes app a gs).run answer s := by
  rw [anyExcludes_append, run_bind]
  congr
  funext excluded s
  cases excluded <;> rfl

theorem run_excludes_append_of_spared
    (h : ((c.excludes app a).run answer s).result = .ok false) :
    ((⟨c.filters ++ fs⟩ : FilterChain).excludes app a).run answer s =
      let first := (c.excludes app a).run answer s
      let second := ((⟨fs⟩ : FilterChain).excludes app a).run answer first.state
      ⟨second.result, first.steps ++ second.steps, second.state⟩ := by
  rw [excludes, run_anyExcludes_append, ← excludes, Run.andThen_ok h]
  rfl

theorem run_excludes_append_of_not_spared
    (h : ((c.excludes app a).run answer s).result ≠ .ok false) :
    ((⟨c.filters ++ fs⟩ : FilterChain).excludes app a).run answer s =
      (c.excludes app a).run answer s := by
  rw [excludes, run_anyExcludes_append, ← excludes]
  cases first : ((c.excludes app a).run answer s).result
  case error e => rw [Run.andThen_error first, ← first]
  case ok excluded =>
    have excluded : excluded = true := by simpa [first] using h
    rw [Run.andThen_ok first, excluded, if_pos rfl, List.append_nil, ← excluded, ← first]

end FilterChain

theorem Plan.run_ofMode_of_error {σ : Type} {answer : Client.Handler σ} {s : σ}
    {mode : UpgradeMode} {extra : ExtraFilters} {e : Error} (h : mode.filters extra = .error e) :
    (ofMode mode extra).run answer s = ⟨.error e, [], s⟩ := by
  rw [ofMode, h]
  rfl

namespace FilterChain

-- A chain grows by the filters that are given, in their order, and is asked about the old ones
-- before the new ones. It stays as it is where a name is unknown, and a plan then fails before the
-- model is asked anything.
theorem extendInPlace_appends_given :
    (∀ (c : FilterChain) (extra : ExtraFilters),
      (∀ extended, (extendInPlace extra).run c = .ok () extended ↔
        ∃ fs, extra.Gives fs ∧ extended = ⟨c.filters ++ fs⟩) ∧
      (∀ extended, (extendInPlace extra).run c = .ok () extended →
        extended.names = c.names ++ extra.names) ∧
      ∀ e left, (extendInPlace extra).run c = .error e left ↔
        left = c ∧ ∃ names name, extra = .named names ∧ Filter.FirstUnknown names name ∧
          e = .invalidArgument ("unknown upgrade filter: " ++ name)) ∧
    (∀ names, (∃ name, Filter.FirstUnknown names name) ↔ ∃ name ∈ names, Filter.Unknown name) ∧
    (∀ (c : FilterChain) (fs : List Filter) (app : String) (a : Application) (σ : Type)
      (answer : Client.Handler σ) (s : σ),
      let first := (c.excludes app a).run answer s
      let second := ((⟨fs⟩ : FilterChain).excludes app a).run answer first.state
      let both := ((⟨c.filters ++ fs⟩ : FilterChain).excludes app a).run answer s
      (first.result = .ok false →
        both = ⟨second.result, first.steps ++ second.steps, second.state⟩) ∧
      (first.result ≠ .ok false → both = first)) ∧
    ∀ (mode : UpgradeMode) (config : UpgradeConfig) (name : String),
      Filter.FirstUnknown config.extraFilters name →
      ∀ (σ : Type) (answer : Client.Handler σ) (s : σ),
        (Plan.ofConfig mode config).run answer s =
          ⟨.error (.invalidArgument ("unknown upgrade filter: " ++ name)), [], s⟩ := by
  refine ⟨fun c extra => ⟨?grows, ?names, ?stays⟩, fun _ => Filter.exists_firstUnknown_iff, ?asked,
    ?plan⟩
  case grows => exact fun _ => run_extendInPlace_eq_ok_iff.trans extend_eq_ok_iff
  case stays =>
    exact fun _ _ => run_extendInPlace_eq_error_iff.trans (and_congr_right' extend_eq_error_iff)
  case names =>
    intro extended h
    have ⟨fs, gives, filters⟩ := filters_of_extend (run_extendInPlace_eq_ok_iff.mp h)
    simp [names, filters, gives.map_name]
  case asked =>
    intro c fs app a σ answer s
    exact ⟨run_excludes_append_of_spared, run_excludes_append_of_not_spared⟩
  case plan =>
    intro mode config name first σ answer s
    exact Plan.run_ofMode_of_error (extend_of_firstUnknown first)

-- The first of two unknown names, and applications that are and are not left to the second filter.
theorem extendInPlace_appends_given_unless_unknown :
    let old : FilterChain := ⟨[.onExcludeList]⟩
    let run (app : String) := ((⟨old.filters ++ [.nonOpenstack]⟩ : FilterChain).excludes app
      default).run ScriptedModel.empty.handler ()
    (extendInPlace (.named ["etcd", "vault", "nova"])).run old =
      .error (.invalidArgument "unknown upgrade filter: vault") old ∧
    (Plan.ofConfig .charm ⟨.default, .default, ["etcd", "vault", "nova"]⟩).run
      ScriptedModel.empty.handler () =
        ⟨.error (.invalidArgument "unknown upgrade filter: vault"), [], ()⟩ ∧
    (run "nova").calls = [.config "nova"] ∧ (run "rabbitmq-server").calls = [] := by
  intro old run
  have first : Filter.FirstUnknown ["etcd", "vault", "nova"] "vault" :=
    .later (by decide) (.here (by decide))
  have ⟨extending, _, asking, planning⟩ := extendInPlace_appends_given
  have ⟨_, _, fails⟩ := extending old (.named ["etcd", "vault", "nova"])
  have stays := (asking old [.nonOpenstack] "nova" default Unit ScriptedModel.empty.handler ()).left
    rfl
  have goes := (asking old [.nonOpenstack] "rabbitmq-server" default Unit
    ScriptedModel.empty.handler ()).right nofun
  exact ⟨(fails _ _).mpr ⟨rfl, _, _, rfl, first, rfl⟩, planning _ _ "vault" first _ _ _,
    congrArg Run.calls stays, congrArg Run.calls goes⟩

end FilterChain
end RollingUpgrade
