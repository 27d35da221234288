import RollingUpgrade.Config.Undercloud
import RollingUpgrade.Proofs.NameMap

namespace RollingUpgrade.Undercloud

-- What a variable is set to. An empty text counts as nothing.
def Sets (lookup : String → Option String) (name value : String) : Prop :=
  lookup name = some value ∧ value ≠ ""

def Unset (lookup : String → Option String) (name : String) : Prop :=
  ∀ value, ¬Sets lookup name value

-- What the first of several variables that is set is set to.
def FirstSet (lookup : String → Option String) (names : List String) (value : String) : Prop :=
  ∃ earlier name later, names = earlier ++ name :: later ∧ Sets lookup name value ∧
    ∀ other ∈ earlier, Unset lookup other

-- Settings with the variables that give them, the first of these first.
def sources : List (String × List String) :=
  [("default_gateway", ["default_gateway", "TEST_GATEWAY", "GATEWAY"]),
    ("external_dns", ["external_dns", "TEST_NAME_SERVER", "NAME_SERVER"]),
    ("external_net_cidr", ["external_net_cidr", "TEST_CIDR_EXT", "CIDR_EXT"]),
    ("net_id", ["TEST_NET_ID", "NET_ID"])]

-- The variables that may give a range of addresses.
def rangeNames : List String := ["TEST_FIP_RANGE", "FIP_RANGE"]

-- The ends of the range, which stand before and after its first colon.
def RangeEnds (lookup : String → Option String) (ends : String × String) : Prop :=
  ':' ∉ ends.1.toList ∧ FirstSet lookup rangeNames (ends.1 ++ ":" ++ ends.2)

-- Settings that are an end of the range unless they have a variable of their own name.
def rangeSettings : List (String × (String × String → String)) :=
  [("start_floating_ip", Prod.fst), ("end_floating_ip", Prod.snd)]

-- All variables that are looked at.
def relevant : List String :=
  sources.flatMap (·.2) ++ rangeSettings.map (·.1) ++ rangeNames

variable {lookup lookup' : String → Option String} {names : List String}
  {setting forTests older name value : String} {side : String × String → String}

theorem value?_eq_some_iff :
    (lookup name).filter (!·.isEmpty) = some value ↔ Sets lookup name value := by
  simp [Option.filter_eq_some_iff, Sets]

theorem value?_eq_none_iff : (lookup name).filter (!·.isEmpty) = none ↔ Unset lookup name := by
  simp only [Option.eq_none_iff_forall_ne_some, ne_eq, value?_eq_some_iff, Unset]

theorem firstSet?_eq_some_iff :
    firstSet? lookup names = some value ↔ FirstSet lookup names value := by
  simp only [firstSet?, List.findSome?_eq_some_iff, value?_eq_some_iff, value?_eq_none_iff,
    FirstSet]

theorem firstSet?_eq_none_iff :
    firstSet? lookup names = none ↔ ∀ name ∈ names, Unset lookup name := by
  simp only [firstSet?, List.findSome?_eq_none_iff, value?_eq_none_iff]

theorem firstSet?_singleton (name : String) :
    firstSet? lookup [name] = (lookup name).filter (!·.isEmpty) := by
  simp [firstSet?]

theorem firstSet?_append (names names' : List String) :
    firstSet? lookup (names ++ names') = (firstSet? lookup names).or (firstSet? lookup names') :=
  List.findSome?_append

-- The pass over the variables, with the columns of the table named.
theorem fromVariables_eq : fromVariables lookup = variableNames.filterMap fun row =>
    (firstSet? lookup [row.2.1, row.2.2]).map (row.1, ·) :=
  rfl

theorem lookup_fromVariables (h : (setting, forTests, older) ∈ variableNames) :
    (fromVariables lookup).reverse.lookup setting = firstSet? lookup [forTests, older] := by
  rw [fromVariables_eq]
  exact NameMap.lookup_reverse_filterMap (·.1) _ (by decide) h

theorem lookup_fromVariables_of_notMem (h : setting ∉ variableNames.map (·.1)) :
    (fromVariables lookup).reverse.lookup setting = none := by
  rw [fromVariables_eq, NameMap.lookup_reverse_filterMap_of_notMem _ _ h]

theorem lookup_fromOwnNames (h : setting ∈ directSettings) :
    (fromOwnNames lookup).reverse.lookup setting = firstSet? lookup [setting] := by
  rw [fromOwnNames]
  exact NameMap.lookup_reverse_filterMap id (firstSet? lookup [·]) (by decide) h

theorem lookup_fromOwnNames_of_notMem (h : setting ∉ directSettings) :
    (fromOwnNames lookup).reverse.lookup setting = none := by
  rw [fromOwnNames]
  exact NameMap.lookup_reverse_filterMap_of_notMem id _ (by simpa)

-- The two ends of the range, where there are any.
def range? (lookup : String → Option String) : Option (String × String) :=
  (firstSet? lookup rangeNames).bind fun range =>
    (Text.splitFirst? ':' range.toList).map fun ends => (.ofList ends.1, .ofList ends.2)

theorem splitFirst?_toList_eq_some_iff {range first last : String} :
    Text.splitFirst? ':' range.toList = some (first.toList, last.toList) ↔
      range = first ++ ":" ++ last ∧ ':' ∉ first.toList := by
  simp [Text.splitFirst?_eq_some_iff, ← String.toList_inj]

theorem range?_eq_some_iff {ends : String × String} :
    range? lookup = some ends ↔ RangeEnds lookup ends := by
  obtain ⟨first, last⟩ := ends
  have texts (ends : List Char × List Char) :
      (String.ofList ends.1, String.ofList ends.2) = (first, last) ↔
        ends = (first.toList, last.toList) := by
    simp [Prod.ext_iff, ← String.toList_inj]
  simp only [range?, RangeEnds, Option.bind_eq_some_iff, Option.map_eq_some_iff, texts,
    firstSet?_eq_some_iff, exists_eq_right, splitFirst?_toList_eq_some_iff]
  constructor
  · rintro ⟨range, set, rfl, colon⟩
    exact ⟨colon, set⟩
  · rintro ⟨colon, set⟩
    exact ⟨_, set, rfl, colon⟩

theorem range?_eq_none_iff :
    range? lookup = none ↔ ∀ range, FirstSet lookup rangeNames range → ':' ∉ range.toList := by
  simp only [range?, Option.bind_eq_none_iff, firstSet?_eq_some_iff, Option.map_eq_none_iff,
    Text.splitFirst?_eq_none_iff]

theorem fromRange_eq : fromRange lookup =
    rangeSettings.filterMap fun row => ((range? lookup).map row.2).map (row.1, ·) := by
  have names : firstSet? lookup ["TEST_FIP_RANGE", "FIP_RANGE"] = firstSet? lookup rangeNames := rfl
  rw [fromRange, range?, names]
  cases firstSet? lookup rangeNames
  case none => rfl
  case some range =>
    simp only [Option.bind_some]
    cases Text.splitFirst? ':' range.toList <;> rfl

theorem lookup_fromRange (h : (setting, side) ∈ rangeSettings) :
    (fromRange lookup).reverse.lookup setting = (range? lookup).map side := by
  rw [fromRange_eq]
  exact NameMap.lookup_reverse_filterMap (·.1) _ (by decide) h

theorem lookup_fromRange_of_notMem (h : setting ∉ rangeSettings.map (·.1)) :
    (fromRange lookup).reverse.lookup setting = none := by
  rw [fromRange_eq, NameMap.lookup_reverse_filterMap_of_notMem _ _ h]

-- What a later pass gives counts before what an earlier one gives.
theorem find?_settings (lookup : String → Option String) (setting : String) :
    (settings lookup).find? setting = ((fromOwnNames lookup).reverse.lookup setting).or
      (((fromRange lookup).reverse.lookup setting).or
        ((fromVariables lookup).reverse.lookup setting)) := by
  simp only [settings, NameMap.find?_ofList, List.reverse_append, List.lookup_append]

theorem find?_settings_of_variables (h : (setting, forTests, older) ∈ variableNames) :
    (settings lookup).find? setting = ((fromOwnNames lookup).reverse.lookup setting).or
      (firstSet? lookup [forTests, older]) := by
  have apart : ∀ row ∈ variableNames, row.1 ∉ rangeSettings.map (·.1) := by decide
  rw [find?_settings, lookup_fromRange_of_notMem (apart _ h), Option.none_or,
    lookup_fromVariables h]

theorem find?_settings_of_source (h : (setting, names) ∈ sources) :
    (settings lookup).find? setting = firstSet? lookup names := by
  have direct {setting forTests older : String} (own : setting ∈ directSettings)
      (h : (setting, forTests, older) ∈ variableNames) :
      (settings lookup).find? setting = firstSet? lookup [setting, forTests, older] := by
    rw [find?_settings_of_variables h, lookup_fromOwnNames own, ← firstSet?_append]
    rfl
  simp only [sources, List.mem_cons, Prod.mk.injEq, List.not_mem_nil, or_false] at h
  obtain ⟨rfl, rfl⟩ | ⟨rfl, rfl⟩ | ⟨rfl, rfl⟩ | ⟨rfl, rfl⟩ := h
  case inr.inr.inr =>
    have netId : ("net_id", "TEST_NET_ID", "NET_ID") ∈ variableNames := by decide
    rw [find?_settings_of_variables netId, lookup_fromOwnNames_of_notMem (by decide),
      Option.none_or]
  all_goals exact direct (by decide) (by decide)

theorem find?_settings_of_rangeSetting (h : (setting, side) ∈ rangeSettings) :
    (settings lookup).find? setting =
      (firstSet? lookup [setting]).or ((range? lookup).map side) := by
  have direct : ∀ row ∈ rangeSettings.map (·.1), row ∈ directSettings := by decide
  have apart : ∀ row ∈ rangeSettings.map (·.1), row ∉ variableNames.map (·.1) := by decide
  have known := List.mem_map_of_mem (f := (·.1)) h
  rw [find?_settings, lookup_fromOwnNames (direct _ known), lookup_fromRange h,
    lookup_fromVariables_of_notMem (apart _ known), Option.or_none]

theorem mem_settings (h : setting ∈ settings lookup) :
    setting ∈ sources.map (·.1) ++ rangeSettings.map (·.1) := by
  have direct : ∀ row ∈ directSettings, row ∈ sources.map (·.1) ++ rangeSettings.map (·.1) := by
    decide
  have tabled : ∀ row ∈ variableNames.map (·.1),
      row ∈ sources.map (·.1) ++ rangeSettings.map (·.1) := by decide
  by_contra other
  have absent : (settings lookup).find? setting = none := by
    rw [find?_settings, lookup_fromOwnNames_of_notMem (mt (direct _) other),
      lookup_fromRange_of_notMem (other <| List.mem_append_right _ ·),
      lookup_fromVariables_of_notMem (mt (tabled _) other)]
    rfl
  exact NameMap.find?_eq_none_iff.mp absent h

theorem firstSet?_congr
    (same : ∀ name ∈ names, ∀ value, Sets lookup name value ↔ Sets lookup' name value) :
    firstSet? lookup names = firstSet? lookup' names := by
  have alike : ∀ name ∈ names,
      (lookup name).filter (!·.isEmpty) = (lookup' name).filter (!·.isEmpty) :=
    fun name mem => Option.ext fun value => by simp only [value?_eq_some_iff, same name mem]
  rw [firstSet?, firstSet?, ← List.head?_filterMap, ← List.head?_filterMap,
    List.filterMap_congr alike]

theorem settings_congr
    (same : ∀ name ∈ relevant, ∀ value, Sets lookup name value ↔ Sets lookup' name value) :
    settings lookup = settings lookup' := by
  have first (names : List String) (known : ∀ name ∈ names, name ∈ relevant) :
      firstSet? lookup names = firstSet? lookup' names :=
    firstSet?_congr fun name mem => same name (known name mem)
  have tabled : ∀ row ∈ variableNames, ∀ name ∈ [row.2.1, row.2.2], name ∈ relevant := by decide
  have direct : ∀ setting ∈ directSettings, ∀ name ∈ [setting], name ∈ relevant := by decide
  have fromVariables : fromVariables lookup = fromVariables lookup' :=
    List.filterMap_congr fun row mem => congrArg (Option.map _) (first _ (tabled row mem))
  have fromRange : fromRange lookup = fromRange lookup' := by
    rw [fromRange_eq, fromRange_eq, range?, range?, first rangeNames (by decide)]
  have fromOwnNames : fromOwnNames lookup = fromOwnNames lookup' :=
    List.filterMap_congr fun name mem => congrArg (Option.map _) (first _ (direct name mem))
  rw [settings, settings, fromVariables, fromRange, fromOwnNames]

-- Each setting has the value of the first of its variables that is set. For the ends of the range,
-- the range counts as the last of these. Other variables do not matter.
theorem settings_precedence (lookup : String → Option String) :
    (∀ setting ∈ settings lookup, setting ∈ sources.map (·.1) ++ rangeSettings.map (·.1)) ∧
    (∀ setting names, (setting, names) ∈ sources →
      (∀ value, (settings lookup).find? setting = some value ↔ FirstSet lookup names value) ∧
      (setting ∉ settings lookup ↔ ∀ name ∈ names, Unset lookup name)) ∧
    (∀ setting side, (setting, side) ∈ rangeSettings →
      (∀ value, (settings lookup).find? setting = some value ↔ Sets lookup setting value ∨
        Unset lookup setting ∧ ∃ ends, RangeEnds lookup ends ∧ side ends = value) ∧
      (setting ∉ settings lookup ↔ Unset lookup setting ∧
        ∀ range, FirstSet lookup rangeNames range → ':' ∉ range.toList)) ∧
    ∀ lookup', (∀ name ∈ relevant, ∀ value, Sets lookup name value ↔ Sets lookup' name value) →
      settings lookup = settings lookup' := by
  refine ⟨fun _ => mem_settings, ?source, ?range, fun _ => settings_congr⟩
  case source =>
    intro setting names h
    simp only [← NameMap.find?_eq_none_iff, find?_settings_of_source h, firstSet?_eq_some_iff,
      firstSet?_eq_none_iff, implies_true, and_self]
  case range =>
    intro setting side h
    simp only [← NameMap.find?_eq_none_iff, find?_settings_of_rangeSetting h, firstSet?_singleton,
      Option.or_eq_some_iff, Option.or_eq_none_iff, Option.map_eq_some_iff, Option.map_eq_none_iff,
      value?_eq_some_iff, value?_eq_none_iff, range?_eq_some_iff, range?_eq_none_iff, implies_true,
      and_self]

-- One end of the range under its own name, an empty variable, and a variable that does not matter.
theorem settings_precedence_mixed :
    let set := [("start_floating_ip", "10.0.0.5"), ("TEST_FIP_RANGE", "10.0.0.1:10.0.0.9"),
      ("FIP_RANGE", "10.1.0.1:10.1.0.9"), ("TEST_NET_ID", ""), ("NET_ID", "private")]
    let lookup (name : String) := set.lookup name
    let lookup' (name : String) := (("HOME", "/root") :: set).lookup name
    (settings lookup).find? "start_floating_ip" = some "10.0.0.5" ∧
      (settings lookup).find? "end_floating_ip" = some "10.0.0.9" ∧
      (settings lookup).find? "net_id" = some "private" ∧ "external_dns" ∉ settings lookup ∧
      settings lookup = settings lookup' := by
  intro set lookup lookup'
  have ⟨_, plain, ends, congr⟩ := settings_precedence lookup
  have unset {name : String} (h : (lookup name).filter (!·.isEmpty) = none) : Unset lookup name :=
    value?_eq_none_iff.mp h
  have range : RangeEnds lookup ("10.0.0.1", "10.0.0.9") :=
    ⟨by decide, [], _, _, rfl, ⟨rfl, by decide⟩, nofun⟩
  have netId : FirstSet lookup ["TEST_NET_ID", "NET_ID"] "private" :=
    ⟨["TEST_NET_ID"], _, [], rfl, ⟨rfl, by decide⟩, by simpa using unset rfl⟩
  have dns : ∀ name ∈ ["external_dns", "TEST_NAME_SERVER", "NAME_SERVER"],
      (lookup name).filter (!·.isEmpty) = none := by decide
  have same : ∀ name ∈ relevant, lookup name = lookup' name := by decide
  refine ⟨?start, ?last, ?netId, ?dns, ?same⟩
  case start =>
    have known : ("start_floating_ip", Prod.fst) ∈ rangeSettings := List.mem_cons_self
    exact ((ends _ _ known).left _).mpr (.inl ⟨rfl, by decide⟩)
  case last =>
    have known : ("end_floating_ip", Prod.snd) ∈ rangeSettings := by simp [rangeSettings]
    exact ((ends _ _ known).left _).mpr (.inr ⟨unset rfl, _, range, rfl⟩)
  case netId => exact ((plain _ _ (by decide)).left _).mpr netId
  case dns   => exact (plain _ _ (by decide)).right.mpr fun name mem => unset (dns name mem)
  case same  => exact congr lookup' fun name mem value => by rw [Sets, Sets, same name mem]

end RollingUpgrade.Undercloud
