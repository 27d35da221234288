import RollingUpgrade.Client.Call
import RollingUpgrade.Log.Target

namespace RollingUpgrade.Client

-- The third word of the first line, if there is one.
def thirdWord (output : String) : String :=
  let firstLine := String.ofList (Text.beforeFirst '\n' output.toList)
  ((Text.words firstLine)[2]?).getD ""

def versionOn (package unit : String) : Program Client String := do
  let version := thirdWord (← output unit ("dpkg -l | grep " ++ package))
  Program.emit .debug Log.Target.units "package version"
    [("unit", .shown unit), ("package", .quoted package), ("version", .shown version)]
  return version

def packageVersions (application package : String) : Program Client (List String) := do
  (← units application).mapM fun unit => versionOn package unit.id

def distinct (texts : List String) : List String := (texts.mergeSort (· ≤ ·)).eraseReps

def agreement (application package : String) (versions : List String) : Except Error String :=
  match distinct versions with
  | [version] => .ok version
  | [] => .error (.client s!"application {application} has no units")
  | _ => .error (.packageVersionMismatch package versions)

def packageVersion (application package : String) : Program Client String := do
  Program.ofExcept (agreement application package (← packageVersions application package))

def hostnames (units : List PlacedUnit) : Program Client (NameMap String) := do
  let names ← units.mapM fun unit => do return (unit.id, Text.trim (← output unit.id "hostname"))
  return .ofList names

-- Runs every command on every unit, all commands on one unit before the next unit; the first
-- failure ends the check.
def checkCommands (commands : List String) (units : List PlacedUnit) : Program Client Unit :=
  units.forM fun unit => commands.forM fun command => do
    let _ ← output unit.id command

end RollingUpgrade.Client
