import RollingUpgrade.Config.Network
import RollingUpgrade.Proofs.Config.Environment

namespace RollingUpgrade

namespace Topology

variable {t config : Topology} {texts : NameMap String} {key : String}

theorem find?_withTexts (t : Topology) (texts : NameMap String) (key : String) :
    (t.withTexts texts).find? key =
      ((texts.find? key).map Yaml.Value.text).or (t.find? key) := by
  rw [withTexts, NameMap.find?_overlay, NameMap.find?_map]

theorem text_injective {s s' : String} (h : Yaml.Value.text s = Yaml.Value.text s') : s = s' := by
  injection h with h
  injection h

instance (v : Yaml.Value) (s : String) : Decidable (v = .text s) :=
  match v with
  | .scalar c                =>
    decidable_of_iff (c = .text s) ⟨congrArg Yaml.Value.scalar, Yaml.Value.scalar.inj⟩
  | .sequence _ | .mapping _ => .isFalse nofun

instance (v : Option Yaml.Value) (s : String) : Decidable (v = some (.text s)) :=
  match v with
  | none   => .isFalse nofun
  | some v => decidable_of_iff (v = .text s) ⟨congrArg some, Option.some.inj⟩

-- A key has a text if this text is put over the topology, or if nothing is and the topology has it.
theorem find?_withTexts_eq_text_iff {s : String} :
    (t.withTexts texts).find? key = some (.text s) ↔
      texts.find? key = some s ∨ key ∉ texts ∧ t.find? key = some (.text s) := by
  rw [find?_withTexts, Option.or_eq_some_iff, Option.map_eq_none_iff, NameMap.find?_eq_none_iff,
    Option.map_eq_some_iff]
  refine or_congr_left ⟨fun ⟨s', found, same⟩ => ?_, fun found => ⟨s, found, rfl⟩⟩
  exact text_injective same ▸ found

-- Overrides matter only once the topology is there.
theorem load_eq_map (h : Host) (path name : String) (overrides : NameMap String)
    (parse : Parser) : load h path name overrides parse =
      (load h path name .empty parse).map (·.withTexts overrides) := by
  rw [load, load]
  cases h.readParsed parse path
  case error e => rfl
  case ok topologies =>
    simp only [bind, Except.bind, pick]
    cases topologies.find? name <;> rfl

end Topology

namespace Undercloud

variable {lookup : String → Option String} {setting : String}

-- The setting is an end of the range, on the side of the colon where there is nothing, and has no
-- variable of its own name.
inductive EmptyEnd (lookup : String → Option String) (setting : String) : Prop
  | intro {side : String × String → String} {ends : String × String}
    (listed : (setting, side) ∈ rangeSettings) (unset : Unset lookup setting)
    (range : RangeEnds lookup ends) (empty : side ends = "")

-- A variable that is set gives no empty text.
theorem firstSet?_ne_empty {names : List String} : firstSet? lookup names ≠ some "" := by
  intro h
  have ⟨_, _, _, _, set, _⟩ := firstSet?_eq_some_iff.mp h
  exact set.right rfl

theorem find?_settings_eq_empty_iff :
    (settings lookup).find? setting = some "" ↔ EmptyEnd lookup setting := by
  constructor
  · intro h
    have known := mem_settings (NameMap.mem_iff_find?.mpr ⟨_, h⟩)
    cases List.mem_append.mp known
    case inl known =>
      have ⟨row, mem, eq⟩ := List.mem_map.mp known
      subst eq
      rw [find?_settings_of_source mem] at h
      exact absurd h firstSet?_ne_empty
    case inr known =>
      have ⟨row, mem, eq⟩ := List.mem_map.mp known
      subst eq
      rw [find?_settings_of_rangeSetting mem, Option.or_eq_some_iff] at h
      have ⟨unset, range⟩ := h.resolve_left firstSet?_ne_empty
      have ⟨ends, range, empty⟩ := Option.map_eq_some_iff.mp range
      rw [firstSet?_singleton, value?_eq_none_iff] at unset
      exact .intro mem unset (range?_eq_some_iff.mp range) empty
  · intro h
    cases h
    case intro side ends listed unset range empty =>
      rw [find?_settings_of_rangeSetting listed, firstSet?_singleton, value?_eq_none_iff.mpr unset,
        range?_eq_some_iff.mpr range, Option.none_or, Option.map_some, empty]

-- A setting is empty exactly if it is an empty end of the range. So a topology that is loaded has
-- an empty text where it is put over what the file says, and where the file says so itself and
-- nothing is put over it.
theorem settings_empty_iff (lookup : String → Option String) (h : Host) (path name : String)
    (parse : Topology.Parser) :
    (∀ setting, (settings lookup).find? setting = some "" ↔ EmptyEnd lookup setting) ∧
    ∀ t, Topology.load h path name .empty parse = .ok t →
      ∃ config, Topology.load h path name (settings lookup) parse = .ok config ∧
        ∀ setting, config.find? setting = some (.text "") ↔ EmptyEnd lookup setting ∨
          setting ∉ settings lookup ∧ t.find? setting = some (.text "") := by
  refine ⟨fun setting => find?_settings_eq_empty_iff, fun t loaded => ?_⟩
  refine ⟨t.withTexts (settings lookup), ?_, fun setting => ?_⟩
  · rw [Topology.load_eq_map, loaded]
    rfl
  · rw [Topology.find?_withTexts_eq_text_iff, find?_settings_eq_empty_iff]

-- A host with a topology, and a range of addresses that has no end.
def openRange : Host where
  files            := FileTree.empty.withFile "/etc/lab.yaml"
    "lab: {start_floating_ip: 10.0.0.2, end_floating_ip: 10.0.0.9}".toUTF8.toList
  workingDirectory := "/"
  environment      := .ofList [("FIP_RANGE", "10.0.0.1:")]
  configHome       := none

theorem settings_empty_iff_open_range :
    ∃ t config, Topology.load openRange "/etc/lab.yaml" "lab" .empty = .ok t ∧
      Topology.load openRange "/etc/lab.yaml" "lab" (settings openRange.valueOf?) = .ok config ∧
      config.find? "end_floating_ip" = some (.text "") ∧
      config.find? "start_floating_ip" ≠ some (.text "") := by
  have ⟨empty, overlaid⟩ := settings_empty_iff openRange.valueOf? openRange "/etc/lab.yaml" "lab"
    Topology.parseAll
  have start : (settings openRange.valueOf?).find? "start_floating_ip" = some "10.0.0.1" := by
    decide
  cases loaded : Topology.load openRange "/etc/lab.yaml" "lab" .empty
  case error e =>
    have succeeds : (Topology.load openRange "/etc/lab.yaml" "lab" .empty).isOk := by
      decide +kernel
    rw [loaded] at succeeds
    nomatch succeeds
  case ok t =>
    have ⟨config, loaded', emptied⟩ := overlaid t loaded
    refine ⟨t, config, rfl, loaded', (emptied _).mpr (.inl ((empty _).mp (by decide))), ?_⟩
    intro emptyStart
    cases (emptied _).mp emptyStart
    case inl h => simpa [start] using (empty _).mpr h
    case inr h => exact h.left (NameMap.mem_iff_find?.mpr ⟨_, start⟩)

-- The end of the addresses that the file gives is lost.
theorem settings_empty_after_colon :
    let last (overrides : NameMap String) : Option Yaml.Value :=
      (Topology.load openRange "/etc/lab.yaml" "lab" overrides).toOption.bind
        (·.find? "end_floating_ip")
    (settings openRange.valueOf?).find? "end_floating_ip" = some "" ∧
      last .empty = some (.text "10.0.0.9") ∧
      last (settings openRange.valueOf?) = some (.text "") := by
  decide +kernel

end Undercloud
end RollingUpgrade
