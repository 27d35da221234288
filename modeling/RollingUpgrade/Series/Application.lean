import RollingUpgrade.Series.Machine

namespace RollingUpgrade.Series

open Program

-- Subordinates of these applications are never paused.
def neverPaused : List String := ["cinder-ceph"]

def pause (unit : String) : Program Client Unit := do
  emit .info Log.Target.series "pausing" [("unit", .quoted unit)]
  let result ← (Call.action unit "pause" .empty).perform
  if result.failed then .fail (.actionFailed unit "pause" result.message)

def pauseSubordinate (unit : String) : Program Client Unit :=
  if unitApplication unit ∈ neverPaused then
    emit .info Log.Target.series "skipping pause of blacklisted subordinate" [("unit", .shown unit)]
  else pause unit

-- Pauses a unit that does not lead, after its subordinates, as far as the settings want it.
def pauseUnit (settings : SeriesSettings) (name : String) (unit : Principal) :
    Program Client Unit := do
  if settings.pauseSubordinates then unit.subordinates.keys.forM pauseSubordinate
  if settings.pausePrimaries then pause name

def upgradeUnits (settings : SeriesSettings) (hooks : List Hook) :
    List (String × String) → List String → Program Client (List String)
  | [], completed => return completed
  | (unit, machine) :: rest, completed => do
    if machine ∈ completed then
      emit .info Log.Target.series "machine already upgraded, skipping"
        [("unit", .quoted unit), ("machine", .shown machine)]
      upgradeUnits settings hooks rest completed
    else
      upgradeMachine unit machine settings hooks
      upgradeUnits settings hooks rest (completed ++ [machine])

-- Upgrades an application and gives the completed machines, those given first.
def upgradeApplication (application : String) (settings : SeriesSettings) (completed : List String)
    (hooks : List Hook) : Program Client (List String) := do
  let snapshot ← Call.status.perform
  let some app := snapshot.applications.find? application
    | .fail (.client s!"application {application} not found")
  let some (leader, leading) := app.leader?
    | .fail (.client s!"application {application} has no leader unit")
  let others := app.units.toList.filter (·.1 != leader)
  others.forM fun (name, unit) => pauseUnit settings name unit
  let order := (leader, leading.machine) :: others.map fun (name, unit) => (name, unit.machine)
  upgradeUnits settings hooks order completed

end RollingUpgrade.Series
