import RollingUpgrade.Document

namespace RollingUpgrade

structure SeriesSettings where
  fromSeries : String
  toSeries : String
  -- The option that is set back to the distribution's pocket after the upgrade.
  origin : Option String
  pausePrimaries : Bool
  pauseSubordinates : Bool
  files : List String
  workaroundScript : Option String
  deriving DecidableEq, Repr

namespace SeriesSettings

def default : SeriesSettings where
  fromSeries := "trusty"
  toSeries := "xenial"
  origin := some "openstack-origin"
  pausePrimaries := true
  pauseSubordinates := true
  files := []
  workaroundScript := none

instance : Inhabited SeriesSettings := ⟨default⟩

def withSeries (s : SeriesSettings) (fromSeries toSeries : String) : SeriesSettings :=
  { s with fromSeries, toSeries }

def withOrigin (s : SeriesSettings) (origin : Option String) : SeriesSettings :=
  { s with origin }

def withPausing (s : SeriesSettings) (primaries subordinates : Bool) : SeriesSettings :=
  { s with pausePrimaries := primaries, pauseSubordinates := subordinates }

def withFiles (s : SeriesSettings) (files : List String) : SeriesSettings := { s with files }

def withWorkaroundScript (s : SeriesSettings) (script : String) : SeriesSettings :=
  { s with workaroundScript := some script }

def fieldNames : List (List String) :=
  [["from_series"], ["to_series"], ["origin"], ["pause_non_leader_primary"],
    ["pause_non_leader_subordinate"], ["files"], ["workaround_script"]]

open Document in
-- A missing field takes its default; an origin that is null is none.
def decode? {δ : Type} [Document δ] (d : δ) : Option SeriesSettings := do
  match ← fields? fieldNames 0 d with
  | [fromSeries, toSeries, origin, primaries, subordinates, files, script] =>
    return {
      fromSeries := ← orElse default.fromSeries string? fromSeries
      toSeries := ← orElse default.toSeries string? toSeries
      origin := ← orElse default.origin (optional? string?) origin
      pausePrimaries := ← orElse default.pausePrimaries bool? primaries
      pauseSubordinates := ← orElse default.pauseSubordinates bool? subordinates
      files := ← orElse default.files (listOf? string?) files
      workaroundScript := ← orElse default.workaroundScript (optional? string?) script }
  | _ => none

def toJson (s : SeriesSettings) : Json :=
  .object [("from_series", .string s.fromSeries), ("to_series", .string s.toSeries),
    ("origin", s.origin.elim .null .string), ("pause_non_leader_primary", .bool s.pausePrimaries),
    ("pause_non_leader_subordinate", .bool s.pauseSubordinates), ("files", .strings s.files),
    ("workaround_script", s.workaroundScript.elim .null .string)]

end SeriesSettings
end RollingUpgrade
