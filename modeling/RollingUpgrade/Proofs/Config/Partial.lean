import RollingUpgrade.Config.Upgrade
import RollingUpgrade.Proofs.Json.Without
import RollingUpgrade.Proofs.Yaml.Written

namespace RollingUpgrade

open Document
open Yaml.Node (Renders)

variable {δ : Type} [Document δ] {leaf : Rendition δ} {removed : List String → Bool}

namespace SeriesSettings

-- Leaves render the settings themselves.
def rendition (leaf : Rendition δ) : Rendition δ :=
  .record (fieldNames.flatten.map fun name => (name, leaf))

def fields (leaf : Rendition δ) (s : SeriesSettings) : List (Field δ) :=
  [⟨"from_series", leaf, some (.string s.fromSeries)⟩,
    ⟨"to_series", leaf, some (.string s.toSeries)⟩,
    ⟨"origin", leaf, some (s.origin.elim .null .string)⟩,
    ⟨"pause_non_leader_primary", leaf, some (.bool s.pausePrimaries)⟩,
    ⟨"pause_non_leader_subordinate", leaf, some (.bool s.pauseSubordinates)⟩,
    ⟨"files", leaf, some (.strings s.files)⟩,
    ⟨"workaround_script", leaf, some (s.workaroundScript.elim .null .string)⟩]

-- The settings with defaults for some of them.
def reset (removed : List String → Bool) (s : SeriesSettings) : SeriesSettings where
  fromSeries := if removed ["from_series"] then default.fromSeries else s.fromSeries
  toSeries := if removed ["to_series"] then default.toSeries else s.toSeries
  origin := if removed ["origin"] then default.origin else s.origin
  pausePrimaries :=
    if removed ["pause_non_leader_primary"] then default.pausePrimaries else s.pausePrimaries
  pauseSubordinates :=
    if removed ["pause_non_leader_subordinate"] then default.pauseSubordinates
    else s.pauseSubordinates
  files := if removed ["files"] then default.files else s.files
  workaroundScript :=
    if removed ["workaround_script"] then default.workaroundScript else s.workaroundScript

theorem reads_without (legible : leaf.Legible) (s : SeriesSettings) :
    ReadAs (rendition leaf) decode? (s.toJson.without removed) (s.reset removed) := by
  intro d h
  have ⟨_, read, given⟩ := Field.fields?_without (s.fields leaf) (by simp [fields]) h
  obtain _ | ⟨fromSeries, _ | ⟨toSeries, _ | ⟨origin, _ | ⟨primaries, _ | ⟨subordinates,
    _ | ⟨files, _ | ⟨script, ⟨⟩⟩⟩⟩⟩⟩⟩⟩ := given
  dsimp only [fields, List.map] at read
  simp only [Field.Given, Field.pruned, Option.map_some, Json.without_optional] at origin script
  simp only [decode?, fieldNames, read, Option.bind_eq_bind, Option.bind_some,
    (legible.string _).orElse_unless default.fromSeries fromSeries,
    (legible.string _).orElse_unless default.toSeries toSeries,
    (legible.optional _).orElse_unless default.origin origin,
    (legible.bool _).orElse_unless default.pausePrimaries primaries,
    (legible.bool _).orElse_unless default.pauseSubordinates subordinates,
    (legible.strings _).orElse_unless default.files files,
    (legible.optional _).orElse_unless default.workaroundScript script]
  rfl

theorem rendition_without {write : Json → δ} (writes : leaf.Writes write) (s : SeriesSettings) :
    rendition leaf (s.toJson.without removed) (write (s.toJson.without removed)) :=
  Field.record_without writes (s.fields leaf)
    (by simp [fields, Field.pruned, writes.string, writes.optional, writes.bool, writes.strings])

end SeriesSettings

namespace PollSettings

def rendition (leaf : Rendition δ) : Rendition δ :=
  .record (fieldNames.flatten.map fun name => (name, leaf))

def fields (leaf : Rendition δ) (p : PollSettings) : List (Field δ) :=
  [⟨"timeout_secs", leaf, some (.nat p.timeoutSecs)⟩,
    ⟨"interval_secs", leaf, some (.nat p.intervalSecs)⟩]

def reset (removed : List String → Bool) (p : PollSettings) : PollSettings where
  timeoutSecs := if removed ["timeout_secs"] then default.timeoutSecs else p.timeoutSecs
  intervalSecs := if removed ["interval_secs"] then default.intervalSecs else p.intervalSecs

-- Times are counted in 64 bits.
structure InRange (p : PollSettings) : Prop where
  timeout  : fitsUnsigned 64 p.timeoutSecs
  interval : fitsUnsigned 64 p.intervalSecs

theorem reads_without (legible : leaf.Legible) {p : PollSettings} (range : p.InRange) :
    ReadAs (rendition leaf) decode? (p.toJson.without removed) (p.reset removed) := by
  intro d h
  have ⟨_, read, given⟩ := Field.fields?_without (p.fields leaf) (by simp [fields]) h
  obtain _ | ⟨timeout, _ | ⟨interval, ⟨⟩⟩⟩ := given
  dsimp only [fields, List.map] at read
  simp only [decode?, fieldNames, read, Option.bind_eq_bind, Option.bind_some,
    (legible.count _ range.timeout).orElse_unless default.timeoutSecs timeout,
    (legible.count _ range.interval).orElse_unless default.intervalSecs interval]
  rfl

theorem rendition_without {write : Json → δ} (writes : leaf.Writes write) {p : PollSettings}
    (range : p.InRange) :
    rendition leaf (p.toJson.without removed) (write (p.toJson.without removed)) :=
  Field.record_without writes (p.fields leaf)
    (by simp [fields, Field.pruned, writes.count _ range.timeout, writes.count _ range.interval])

end PollSettings

namespace UpgradeConfig

def rendition (leaf : Rendition δ) : Rendition δ :=
  .record [("series", SeriesSettings.rendition leaf), ("poll", PollSettings.rendition leaf),
    ("extra_filters", leaf)]

def fields (leaf : Rendition δ) (c : UpgradeConfig) : List (Field δ) :=
  [⟨"series", SeriesSettings.rendition leaf, some c.series.toJson⟩,
    ⟨"poll", PollSettings.rendition leaf, some c.poll.toJson⟩,
    ⟨"extra_filters", leaf, some (.strings c.extraFilters)⟩]

def reset (removed : List String → Bool) (c : UpgradeConfig) : UpgradeConfig where
  series :=
    if removed ["series"] then default.series
    else c.series.reset fun path => removed ("series" :: path)
  poll :=
    if removed ["poll"] then default.poll else c.poll.reset fun path => removed ("poll" :: path)
  extraFilters := if removed ["extra_filters"] then default.extraFilters else c.extraFilters

theorem reads_without (legible : leaf.Legible) {c : UpgradeConfig} (range : c.poll.InRange) :
    ReadAs (rendition leaf) decode? (c.toJson.without removed) (c.reset removed) := by
  intro d h
  have ⟨_, read, given⟩ := Field.fields?_without (c.fields leaf) (by simp [fields]) h
  obtain _ | ⟨series, _ | ⟨poll, _ | ⟨extraFilters, ⟨⟩⟩⟩⟩ := given
  dsimp only [fields, List.map] at read
  simp only [decode?, read, Option.bind_eq_bind, Option.bind_some,
    (c.series.reads_without legible).orElse_unless default.series series,
    (PollSettings.reads_without legible range).orElse_unless default.poll poll,
    (legible.strings _).orElse_unless default.extraFilters extraFilters]
  rfl

theorem rendition_without {write : Json → δ} (writes : leaf.Writes write) {c : UpgradeConfig}
    (range : c.poll.InRange) :
    rendition leaf (c.toJson.without removed) (write (c.toJson.without removed)) :=
  Field.record_without writes (c.fields leaf)
    (by simp [fields, Field.pruned, c.series.rendition_without writes,
      PollSettings.rendition_without writes range, writes.strings])

theorem origin_without (c : UpgradeConfig) :
    (c.toJson.without removed).at? ["series", "origin"] =
      if removed ["series"] || removed ["series", "origin"] then none
      else some (c.series.origin.elim .null .string) := by
  have series : c.toJson.get? "series" = some c.series.toJson := rfl
  have origin : c.series.toJson.get? "origin" = some (c.series.origin.elim .null .string) := rfl
  cases gone : removed ["series"] <;> cases gone' : removed ["series", "origin"] <;>
    simp [Json.at?, Json.get?_without, series, origin, gone, gone']

theorem origin_reset (c : UpgradeConfig) :
    (c.reset removed).series.origin =
      if removed ["series"] || removed ["series", "origin"] then some "openstack-origin"
      else c.series.origin := by
  cases gone : removed ["series"] <;> cases gone' : removed ["series", "origin"] <;>
    simp [reset, SeriesSettings.reset, gone, gone', default, SeriesSettings.default]

theorem reset_nothing (c : UpgradeConfig) : c.reset (fun _ => false) = c := rfl

-- Whatever settings are not given, the others are read as they were written and these take their
-- defaults, in JSON and in YAML, and also if keys stand in another order and if there are keys of
-- other names. An origin that is null is none, which the default is not.
theorem decode?_without {c : UpgradeConfig} (range : c.poll.InRange)
    (removed : List String → Bool) :
    let tree := c.toJson.without removed
    decode? tree = some (c.reset removed) ∧
      decode? (Yaml.Node.ofJson tree) = some (c.reset removed) ∧
      (∀ j, rendition .exact tree j → decode? j = some (c.reset removed)) ∧
      (∀ n, rendition Renders tree n → decode? n = some (c.reset removed)) ∧
      c.reset (fun _ => false) = c ∧
      ((c.reset removed).series.origin = none ↔ tree.at? ["series", "origin"] = some .null) ∧
      (tree.at? ["series", "origin"] = none →
        (c.reset removed).series.origin = some "openstack-origin") := by
  have json : ReadAs (rendition .exact) decode? (c.toJson.without removed) (c.reset removed) :=
    reads_without .exact range
  have yaml : ReadAs (rendition Renders) decode? (c.toJson.without removed) (c.reset removed) :=
    reads_without Yaml.Node.legible range
  refine ⟨json _ (rendition_without .exact range),
    yaml _ (rendition_without Yaml.Node.writes range), json, yaml, c.reset_nothing, ?none, ?default⟩
  case none =>
    rw [origin_without, origin_reset]
    cases removed ["series"] || removed ["series", "origin"] <;> cases c.series.origin <;> simp
  case default =>
    rw [origin_without, origin_reset]
    cases removed ["series"] || removed ["series", "origin"] <;> simp

-- Settings of which two are told, in a file that says more than is asked for.
def custom : UpgradeConfig :=
  ⟨⟨"xenial", "bionic", none, false, true, ["/tmp/fix"], some "fix"⟩, ⟨60, 5⟩, ["etcd"]⟩

def untold (path : List String) : Bool :=
  path ∉ [["poll"], ["poll", "timeout_secs"], ["series"], ["series", "origin"]]

def customTold : Yaml.Node :=
  .mapping [(.scalar "poll" true, .mapping [(.scalar "unit" true, .scalar "s" true),
    (.scalar "timeout_secs" true, .scalar "60" true)]),
    (.scalar "series" true, .mapping [(.scalar "origin" true, .scalar "~" true)])]

theorem decode?_without_custom :
    custom.poll.InRange ∧ rendition Renders (custom.toJson.without untold) customTold ∧
      decode? customTold = some ⟨{ SeriesSettings.default with origin := none }, ⟨60, 10⟩, []⟩ := by
  have range : custom.poll.InRange := ⟨by decide, by decide⟩
  have told : rendition Renders (custom.toJson.without untold) customTold := by
    refine ⟨_, _, [_, _], [], rfl, rfl, rfl, .swap _ _ _,
      .cons ⟨rfl, SeriesSettings.rendition Renders, by simp, ?series⟩ <|
      .cons ⟨rfl, PollSettings.rendition Renders, by simp, ?poll⟩ .nil, nofun⟩
    case series =>
      exact ⟨_, _, [_], [], rfl, rfl, rfl, .refl _,
        .cons ⟨rfl, Renders, List.mem_map.mpr ⟨"origin", by decide, rfl⟩, .null rfl⟩ .nil, nofun⟩
    case poll =>
      exact ⟨_, _, [_], [_], rfl, rfl, rfl, .swap _ _ _,
        .cons ⟨rfl, Renders, List.mem_map.mpr ⟨"timeout_secs", by decide, rfl⟩,
          .count rfl nofun⟩ .nil, by decide⟩
  have ⟨_, _, _, yaml, _⟩ := decode?_without range untold
  exact ⟨range, told, yaml _ told⟩

example : (Yaml.Node.parse shape (Yaml.render (custom.toJson.without untold))).bind decode? =
    some ⟨{ SeriesSettings.default with origin := none }, ⟨60, 10⟩, []⟩ := by decide +kernel

end UpgradeConfig
end RollingUpgrade
