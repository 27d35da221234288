import RollingUpgrade.Client.Call
import RollingUpgrade.Log.Target
import RollingUpgrade.Path
import RollingUpgrade.Series.Settings

namespace RollingUpgrade.Series

open Program

-- Runs a command on a unit and warns if it reports a failure.
def runLogged (unit command : String) : Program Client Unit := do
  let result ← (Call.run unit command).perform
  if !result.success then
    emit .warn Log.Target.series "command returned non-zero"
      [("unit", .quoted unit), ("command", .quoted command), ("code", .number result.exitCode),
        ("stderr", .shown result.stderr)]

-- Sends a command by secure shell and warns if it exits with a failure.
def sshLogged (unit : String) (args : List String) : Program Client Unit := do
  match ← (Call.ssh unit args).attempt with
  | .ok () => return ()
  | .error (.commandFailed _ command code _) =>
    emit .warn Log.Target.series "ssh command failed, continuing"
      [("unit", .quoted unit), ("command", .shown command), ("code", .number code)]
  | .error e => .fail e

def aptUpdate : String := "sudo apt update"

def distUpgradeCommand : String :=
  "sudo DEBIAN_FRONTEND=noninteractive apt --assume-yes " ++
    "-o \"Dpkg::Options::=--force-confdef\" -o \"Dpkg::Options::=--force-confold\" dist-upgrade"

def releaseUpgradeArgs : List String :=
  ["sudo", "DEBIAN_FRONTEND=noninteractive", "do-release-upgrade", "-f",
    "DistUpgradeViewNonInteractive"]

def rebootArgs : List String := ["sudo", "reboot", "&&", "exit"]

-- Adds the option to keep configuration files, unless it is there.
def keepConfCommand : String :=
  let option := "DPkg::options \x7b \"--force-confdef\"; \x7d;"
  let conf := "/etc/apt/apt.conf.d/50unattended-upgrades"
  "grep '" ++ option ++ "' " ++ conf ++ " || echo '" ++ option ++ "' >> " ++ conf

def distUpgrade (unit : String) : Program Client Unit := do
  emit .info Log.Target.series "dist-upgrade" [("unit", .quoted unit)]
  runLogged unit aptUpdate
  runLogged unit distUpgradeCommand

def releaseUpgrade (unit : String) : Program Client Unit := do
  emit .info Log.Target.series "do-release-upgrade" [("unit", .quoted unit)]
  sshLogged unit releaseUpgradeArgs

def runAsRoot (unit command : String) : Program Client Unit := sshLogged unit ["sudo " ++ command]

-- The connection drops, which is a failure to be passed over.
def reboot (unit : String) : Program Client Unit := do
  emit .info Log.Target.series "rebooting" [("unit", .quoted unit)]
  sshLogged unit rebootArgs

def keepConf (unit : String) : Program Client Unit := runLogged unit keepConfCommand

def setOrigin (application origin pocket : String) : Program Client Unit := do
  emit .info Log.Target.series "setting origin"
    [("application", .quoted application), ("origin", .quoted origin), ("pocket", .quoted pocket)]
  (Call.setConfig application (.ofList [(origin, pocket)])).perform

-- Copies a file into the home directory of a unit, under its own name.
def copyFile (unit file : String) : Program Client Unit :=
  match Path.fileName? file with
  | some name => (Call.copy unit file name).perform
  | none => .fail (.invalidArgument ("not a file path: " ++ file))

def preparedReleaseUpgrade (unit : String) (settings : SeriesSettings) : Program Client Unit := do
  settings.files.forM (copyFile unit)
  settings.workaroundScript.forM (runAsRoot unit)
  releaseUpgrade unit

end RollingUpgrade.Series
