import RollingUpgrade.Config.Host

namespace RollingUpgrade.Config

inductive Source
  | explicit
  | environment
  | workingDirectory
  | userDirectory
  | systemDirectory
  deriving DecidableEq, Repr

def Source.name : Source → String
  | .explicit => "explicit"
  | .environment => "env"
  | .workingDirectory => "cwd"
  | .userDirectory => "user config dir"
  | .systemDirectory => "/etc"

structure Candidate where
  path : String
  source : Source
  deriving DecidableEq, Repr

-- A configuration file: its usual name, and the variable that holds its path.
structure File where
  name : String
  pathVariable : String

def networkFile : File := ⟨"network.yaml", "STACKCHECK_NETWORK_CONFIG"⟩

def upgradeFile : File := ⟨"upgrade.yaml", "STACKCHECK_UPGRADE_CONFIG"⟩

def directoryVariable : String := "STACKCHECK_CONFIG_DIR"

def subdirectory : String := "stackcheck"

def userDirectory? (h : Host) : Option String :=
  h.configHome.map fun home => Path.join home subdirectory

def systemDirectory : String := Path.join "/etc" subdirectory

-- Where a file may be, best candidate first, whether or not it is there.
def candidates (h : Host) (explicit : Option String) (file : File) : List Candidate :=
  (explicit.toList.map fun path => ⟨path, .explicit⟩) ++
    ((h.valueOf? file.pathVariable).toList.map fun path => ⟨path, .environment⟩) ++
    ((h.valueOf? directoryVariable).toList.map fun dir =>
      ⟨Path.join dir file.name, .environment⟩) ++
    (h.workingDirectory?.toList.map fun dir => ⟨Path.join dir file.name, .workingDirectory⟩) ++
    ((userDirectory? h).toList.map fun dir => ⟨Path.join dir file.name, .userDirectory⟩) ++
    [⟨Path.join systemDirectory file.name, .systemDirectory⟩]

def locate? (h : Host) (explicit : Option String) (file : File) : Option Candidate :=
  (candidates h explicit file).find? fun c => h.isFile c.path

end RollingUpgrade.Config
