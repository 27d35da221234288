import RollingUpgrade.Config.Location
import RollingUpgrade.PollSettings
import RollingUpgrade.Series.Settings

namespace RollingUpgrade

structure UpgradeConfig where
  series : SeriesSettings
  poll : PollSettings
  -- Names of filters that are added to those of a mode.
  extraFilters : List String
  deriving DecidableEq, Repr

namespace UpgradeConfig

def default : UpgradeConfig := ⟨.default, .default, []⟩

instance : Inhabited UpgradeConfig := ⟨default⟩

def shape : Yaml.Shape :=
  .record [("series", .fields SeriesSettings.fieldNames.flatten),
    ("poll", .fields PollSettings.fieldNames.flatten), ("extra_filters", .all)]

open Document in
-- A missing field takes its default.
def decode? {δ : Type} [Document δ] (d : δ) : Option UpgradeConfig := do
  match ← fields? [["series"], ["poll"], ["extra_filters"]] 0 d with
  | [series, poll, extraFilters] =>
    return {
      series := ← orElse default.series SeriesSettings.decode? series
      poll := ← orElse default.poll PollSettings.decode? poll
      extraFilters := ← orElse default.extraFilters (listOf? string?) extraFilters }
  | _ => none

def parse : Yaml.Parser UpgradeConfig := Yaml.parser shape decode?

def toJson (c : UpgradeConfig) : Json :=
  .object [("series", c.series.toJson), ("poll", c.poll.toJson),
    ("extra_filters", .strings c.extraFilters)]

-- Reads the first candidate that is a file; without one the defaults count.
def load (h : Host) (explicit : Option String) (parse : Yaml.Parser UpgradeConfig := parse) :
    Except Error UpgradeConfig :=
  match Config.locate? h explicit Config.upgradeFile with
  | some c => h.readParsed parse c.path
  | none => .ok default

end UpgradeConfig
end RollingUpgrade
