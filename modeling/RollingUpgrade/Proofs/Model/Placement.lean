import RollingUpgrade.Proofs.Model.Arrangement
import RollingUpgrade.Proofs.NameMap

namespace RollingUpgrade.PlacedUnit

-- A unit of the name at the place of another unit.
def placedAt (id app : String) (unit : Principal) : PlacedUnit :=
  ⟨id, app, unit.machine, unit.publicAddress⟩

-- A unit of a deployed principal of `a` carries a unit of the name.
def Carried (s : Snapshot) (a : Application) (id : String) : Prop :=
  ∃ name ∈ a.subordinateTo, ∃ principal, s.applications.find? name = some principal ∧
    ∃ unit ∈ principal.units.values, id ∈ unit.subordinates

-- The unit carries a unit of the name and is the first to do so, in the order in which `a` lists
-- its principals and, within one of them, in the order of the names of its units.
inductive FirstCarrier (s : Snapshot) (a : Application) (id : String) (unit : Principal) : Prop
  | intro {earlier later : List String} {name unitName : String} {principal : Application}
    (listed : a.subordinateTo = earlier ++ name :: later)
    (deployed : s.applications.find? name = some principal)
    (mem : (unitName, unit) ∈ principal.units.toList)
    (carries : id ∈ unit.subordinates)
    (notEarlier : ∀ other ∈ earlier, ∀ p, s.applications.find? other = some p →
      ∀ v ∈ p.units.values, id ∉ v.subordinates)
    (notBefore : ∀ e ∈ principal.units.toList, e.1 < unitName → id ∉ e.2.subordinates)

variable {s : Snapshot} {app id : String} {a : Application} {unit : Principal} {u : PlacedUnit}
  {units : List PlacedUnit}

theorem mem_ownUnits :
    u ∈ ownUnits app a ↔ ∃ unit, a.units.find? u.id = some unit ∧ u = placedAt u.id app unit := by
  simp only [ownUnits, List.mem_map, NameMap.find?_eq_some_iff]
  constructor
  · intro ⟨e, mem, eq⟩
    subst eq
    exact ⟨e.2, mem, rfl⟩
  · intro ⟨unit, mem, eq⟩
    exact ⟨(u.id, unit), mem, eq.symm⟩

theorem mem_ridingOn :
    u ∈ ridingOn app unit ↔
      u.id ∈ unit.subordinates ∧ unitApplication u.id = app ∧ u = placedAt u.id app unit := by
  simp only [ridingOn, List.mem_map, List.mem_filter, beq_iff_eq]
  constructor
  · intro ⟨id, ⟨mem, own⟩, eq⟩
    subst eq
    exact ⟨mem, own, rfl⟩
  · intro ⟨mem, own, eq⟩
    exact ⟨u.id, ⟨mem, own⟩, eq.symm⟩

theorem mem_ridingUnits :
    u ∈ ridingUnits s app a ↔ ∃ name ∈ a.subordinateTo, ∃ principal,
      s.applications.find? name = some principal ∧ ∃ unit ∈ principal.units.values,
        u ∈ ridingOn app unit := by
  simp only [ridingUnits, List.mem_flatMap, List.mem_filterMap]
  constructor
  · intro ⟨principal, ⟨name, listed, deployed⟩, riding⟩
    exact ⟨name, listed, principal, deployed, riding⟩
  · intro ⟨name, listed, principal, deployed, riding⟩
    exact ⟨principal, ⟨name, listed, deployed⟩, riding⟩

theorem application_of_mem_found (h : u ∈ found s app a) : u.application = app := by
  cases List.mem_append.mp h
  case inl own =>
    have ⟨_, _, eq⟩ := mem_ownUnits.mp own
    rw [eq, placedAt]
  case inr riding =>
    have ⟨_, _, _, _, _, _, mem⟩ := mem_ridingUnits.mp riding
    rw [(mem_ridingOn.mp mem).right.right, placedAt]

theorem mem_ids_found :
    id ∈ (found s app a).map (·.id) ↔ id ∈ a.units ∨ Carried s a id ∧ unitApplication id = app := by
  rw [List.mem_map]
  constructor
  · intro ⟨u, mem, eq⟩
    subst eq
    apply (List.mem_append.mp mem).imp
    · intro own
      have ⟨unit, mem, _⟩ := mem_ownUnits.mp own
      exact NameMap.mem_iff_find?.mpr ⟨unit, mem⟩
    · intro riding
      have ⟨name, listed, principal, deployed, unit, hu, mem⟩ := mem_ridingUnits.mp riding
      have ⟨carried, own, _⟩ := mem_ridingOn.mp mem
      exact ⟨⟨name, listed, principal, deployed, unit, hu, carried⟩, own⟩
  · intro h
    cases h
    case inl own =>
      have ⟨unit, mem⟩ := NameMap.mem_iff_find?.mp own
      have own : placedAt id app unit ∈ ownUnits app a := mem_ownUnits.mpr ⟨unit, mem, rfl⟩
      exact ⟨_, List.mem_append_left _ own, rfl⟩
    case inr carried =>
      have ⟨⟨name, listed, principal, deployed, unit, hu, mem⟩, own⟩ := carried
      have riding : placedAt id app unit ∈ ridingUnits s app a :=
        mem_ridingUnits.mpr ⟨name, listed, principal, deployed, unit, hu,
          mem_ridingOn.mpr ⟨mem, own, rfl⟩⟩
      exact ⟨_, List.mem_append_right _ riding, rfl⟩

-- The first place of a name among the riding units, looked for in one principal after the other and
-- there on one unit after the other.
theorem find?_ridingUnits :
    (ridingUnits s app a).find? (·.id == id) = a.subordinateTo.findSome? fun name =>
      (s.applications.find? name).bind fun principal => principal.units.toList.findSome? fun e =>
        (ridingOn app e.2).find? (·.id == id) := by
  rw [ridingUnits, List.find?_flatMap]
  induction a.subordinateTo
  case nil => rfl
  case cons name names hi =>
    rw [List.findSome?_cons, ← hi]
    cases deployed : s.applications.find? name
    case none => simp [deployed]
    case some principal =>
      rw [List.filterMap_cons_some deployed, List.findSome?_cons, List.find?_flatMap,
        NameMap.values, List.findSome?_map]
      rfl

theorem notMem_of_find?_ridingOn (own : unitApplication id = app)
    (h : (ridingOn app unit).find? (·.id == id) = none) : id ∉ unit.subordinates := by
  intro mem
  have riding : placedAt id app unit ∈ ridingOn app unit := mem_ridingOn.mpr ⟨mem, own, rfl⟩
  simpa [placedAt] using List.find?_eq_none.mp h _ riding

theorem firstCarrier_of_find? (h : (ridingUnits s app a).find? (·.id == id) = some u) :
    ∃ unit, FirstCarrier s a id unit ∧ u = placedAt id app unit := by
  rw [find?_ridingUnits] at h
  have ⟨earlier, name, later, listed, h, notEarlier⟩ := List.findSome?_eq_some_iff.mp h
  have ⟨principal, deployed, h⟩ := Option.bind_eq_some_iff.mp h
  have ⟨before, e, after, split, h, notBefore⟩ := List.findSome?_eq_some_iff.mp h
  have named : u.id = id := by simpa using List.find?_some h
  have ⟨carries, own, place⟩ := mem_ridingOn.mp (List.mem_of_find?_eq_some h)
  rw [named] at carries own place
  refine ⟨e.2, .intro listed deployed (?mem : (e.1, e.2) ∈ _) carries ?earlier ?before, place⟩
  case mem => simp [split]
  case earlier =>
    intro other listed p deployed v hv
    have ⟨d, hd, eq⟩ := List.mem_map.mp hv
    have none := Option.bind_eq_none_iff.mp (notEarlier other listed) p deployed
    exact eq ▸ notMem_of_find?_ridingOn own (List.findSome?_eq_none_iff.mp none d hd)
  case before =>
    intro d hd lt
    have ascending := principal.units.ascending
    rw [split, List.pairwise_append, List.pairwise_cons] at ascending
    rw [split, List.mem_append, List.mem_cons] at hd
    rcases hd with hd | hd | hd
    case inl         => exact notMem_of_find?_ridingOn own (notBefore d hd)
    case inr.inl     => exact absurd (hd ▸ lt) (String.lt_irrefl _)
    case inr.inr     => exact absurd lt (String.lt_asymm (ascending.right.left.left d hd))

theorem ofApplication?_eq_some_iff (deployed : s.applications.find? app = some a) :
    ofApplication? s app = some units ↔ arranged (found s app a) = units := by
  rw [ofApplication?, deployed, Option.map_some, Option.some.injEq]

-- Of the units found under one name the first stays.
theorem mem_units_iff (deployed : s.applications.find? app = some a)
    (h : ofApplication? s app = some units) :
    u ∈ units ↔ (found s app a).find? (·.id == u.id) = some u :=
  (ofApplication?_eq_some_iff deployed).mp h ▸ mem_arranged

theorem mem_ids_units (deployed : s.applications.find? app = some a)
    (h : ofApplication? s app = some units) :
    id ∈ units.map (·.id) ↔ id ∈ (found s app a).map (·.id) :=
  (ofApplication?_eq_some_iff deployed).mp h ▸ mem_ids_arranged

-- The names of the units of an application that is deployed, in ascending order: those of its own
-- units and those of its name that its principals carry.
inductive UnitNames (s : Snapshot) (app : String) (ids : List String) : Prop
  | intro {a : Application} (deployed : s.applications.find? app = some a)
    (ascending : ids.Pairwise (· < ·))
    (all : ∀ id, id ∈ ids ↔ id ∈ a.units ∨ Carried s a id ∧ unitApplication id = app)

theorem UnitNames.unique {ids ids' : List String} (h : UnitNames s app ids)
    (h' : UnitNames s app ids') : ids = ids' := by
  have ⟨deployed, ascending, all⟩ := h
  have ⟨deployed', ascending', all'⟩ := h'
  cases deployed.symm.trans deployed'
  exact ascending.eq_of_mem_iff ascending' fun id => (all id).trans (all' id).symm

theorem unitNames_iff {ids : List String} : UnitNames s app ids ↔
    ∃ units, ofApplication? s app = some units ∧ units.map (·.id) = ids := by
  have names {units} (h : ofApplication? s app = some units) :
      UnitNames s app (units.map (·.id)) := by
    have ⟨a, deployed, listed⟩ := Option.map_eq_some_iff.mp h
    have ascending : units.Pairwise (·.id < ·.id) := listed ▸ arranged_ascending _
    exact .intro deployed (List.pairwise_map.mpr ascending) fun id =>
      (mem_ids_units deployed h).trans mem_ids_found
  constructor
  · intro h
    have ⟨deployed, _, _⟩ := h
    have listed := (ofApplication?_eq_some_iff deployed).mpr rfl
    exact ⟨_, listed, (names listed).unique h⟩
  · intro ⟨units, listed, eq⟩
    exact eq ▸ names listed

theorem ofApplication?_eq_none_iff : ofApplication? s app = none ↔ app ∉ s.applications := by
  simp [ofApplication?, NameMap.mem_iff_find?, Option.eq_none_iff_forall_ne_some]

-- A unit of the application's own comes before those that are carried.
theorem placed_of_first (h : (found s app a).find? (·.id == u.id) = some u) :
    (∀ unit, a.units.find? u.id = some unit → u = placedAt u.id app unit) ∧
    (u.id ∉ a.units → ∃ unit, FirstCarrier s a u.id unit ∧ u = placedAt u.id app unit) := by
  rw [found, List.find?_append] at h
  cases Option.or_eq_some_iff.mp h
  case inl own =>
    have ⟨unit, known, place⟩ := mem_ownUnits.mp (List.mem_of_find?_eq_some own)
    constructor
    · intro unit' known'
      rw [known] at known'
      cases known'
      exact place
    · intro unknown
      exact absurd (NameMap.mem_iff_find?.mpr ⟨unit, known⟩) unknown
  case inr riding =>
    constructor
    · intro unit known
      have own : placedAt u.id app unit ∈ ownUnits app a := mem_ownUnits.mpr ⟨unit, known, rfl⟩
      have other := List.find?_eq_none.mp riding.left (placedAt u.id app unit) own
      exact absurd (beq_self_eq_true u.id) other
    · exact fun _ => firstCarrier_of_find? riding.right

-- An application that is deployed has its own units and the subordinates of its name that its
-- principals carry, each of them once and in ascending order. A unit of its own is at its own
-- place, any other at the place of the first unit that carries it.
theorem ofApplication?_places (s : Snapshot) (app : String) :
    (ofApplication? s app = none ↔ app ∉ s.applications) ∧
    ∀ a, s.applications.find? app = some a → ∃ units, ofApplication? s app = some units ∧
      units.Pairwise (·.id < ·.id) ∧ (∀ u ∈ units, u.application = app) ∧
      (∀ id, id ∈ units.map (·.id) ↔ id ∈ a.units ∨ Carried s a id ∧ unitApplication id = app) ∧
      ∀ u ∈ units,
        (∀ unit, a.units.find? u.id = some unit → u = placedAt u.id app unit) ∧
        (u.id ∉ a.units → ∃ unit, FirstCarrier s a u.id unit ∧ u = placedAt u.id app unit) := by
  constructor
  · simp [ofApplication?, NameMap.mem_iff_find?, Option.eq_none_iff_forall_ne_some]
  · intro a deployed
    have h := (ofApplication?_eq_some_iff deployed).mpr rfl
    refine ⟨_, h, arranged_ascending _, ?application, ?ids, ?places⟩
    case application =>
      intro u hu
      exact application_of_mem_found (List.mem_of_find?_eq_some ((mem_units_iff deployed h).mp hu))
    case ids =>
      intro id
      rw [← mem_ids_found, mem_ids_units deployed h]
    case places =>
      exact fun u hu => placed_of_first ((mem_units_iff deployed h).mp hu)

-- A unit on a machine, with the units that ride on it.
def carrying (machine : String) (riders : List String) : Principal :=
  ⟨false, machine, none, none, none, .ofList (riders.map (·, ⟨"", false, none, none⟩))⟩

-- A cluster with a unit of its own, and with principals that are listed twice or not deployed.
def hacluster : Application :=
  ⟨"hacluster", ["gone", "nova", "keystone", "nova"], none,
    .ofList [("hacluster/1", carrying "9" [])]⟩

-- Units of the cluster ride on several machines under one name.
def crowded : Snapshot :=
  ⟨.ofList [("hacluster", hacluster),
    ("keystone", ⟨"keystone", [], none,
      .ofList [("keystone/0", carrying "0" ["hacluster/0", "hacluster/1", "ntp/0"])]⟩),
    ("nova", ⟨"nova", [], none, .ofList [("nova/0", carrying "1" ["hacluster/1"]),
      ("nova/1", carrying "2" ["hacluster/0"])]⟩)]⟩

theorem ofApplication?_places_crowded :
    ofApplication? crowded "hacluster" =
      some [⟨"hacluster/0", "hacluster", "2", none⟩, ⟨"hacluster/1", "hacluster", "9", none⟩] ∧
    (∃ unit, FirstCarrier crowded hacluster "hacluster/0" unit ∧ unit.machine = "2") ∧
    ¬Carried crowded hacluster "hacluster/2" := by
  have listed : ofApplication? crowded "hacluster" =
      some [⟨"hacluster/0", "hacluster", "2", none⟩, ⟨"hacluster/1", "hacluster", "9", none⟩] :=
    (ofApplication?_eq_some_iff rfl).mpr (arranged_eq_iff.mpr (by decide))
  have ⟨units, listed', _, _, ids, places⟩ :=
    (ofApplication?_places crowded "hacluster").right hacluster rfl
  cases Option.some.inj (listed.symm.trans listed')
  have ⟨unit, first, place⟩ := (places _ (List.mem_cons_self ..)).right (by decide)
  refine ⟨listed, ⟨unit, first, (congrArg PlacedUnit.machine place).symm⟩, fun carried => ?_⟩
  have absent := (ids "hacluster/2").mpr (.inr ⟨carried, by decide⟩)
  simp at absent

end RollingUpgrade.PlacedUnit
