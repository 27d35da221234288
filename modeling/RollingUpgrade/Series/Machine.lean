import RollingUpgrade.Series.Steps

namespace RollingUpgrade.Series

open Program

-- Runs on a unit when its series upgrade is complete.
abbrev Hook := String → Program Client Unit

def defaultPocket : String := "distro"

def idle : Program Client Unit := Call.awaitIdle.perform

def workload (unit status : String) : Program Client Unit :=
  (Call.awaitWorkload unit status).perform

-- Upgrades the machine that a unit is on. Everything is idle before a machine is prepared, while
-- it is down, and before the next change.
def upgradeMachine (unit machine : String) (settings : SeriesSettings) (hooks : List Hook) :
    Program Client Unit := do
  let application := unitApplication unit
  emit .info Log.Target.series "series upgrade"
    [("unit", .quoted unit), ("machine", .quoted machine), ("from", .shown settings.fromSeries),
      ("to", .shown settings.toSeries)]
  keepConf unit
  distUpgrade unit
  idle
  (Call.prepareSeries machine settings.toSeries).perform
  workload unit "blocked"
  idle
  preparedReleaseUpgrade unit settings
  reboot unit
  workload unit "blocked"
  idle
  settings.origin.forM fun origin => do
    setOrigin application origin defaultPocket
    idle
  (Call.completeSeries machine).perform
  idle
  hooks.forM (· unit)
  workload unit "active"
  idle
  (Call.setSeries application settings.toSeries).perform
  emit .info Log.Target.series "series upgrade complete"
    [("unit", .quoted unit), ("machine", .quoted machine)]

end RollingUpgrade.Series
