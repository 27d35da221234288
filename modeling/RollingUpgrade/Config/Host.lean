import RollingUpgrade.Config.FileTree
import RollingUpgrade.Yaml.Value

namespace RollingUpgrade

structure Host where
  files : FileTree
  -- An absolute path.
  workingDirectory : String
  -- Whether the path of the working directory can be told.
  tellsWorkingDirectory : Bool := true
  environment : NameMap String
  -- The directory with the configuration of the user.
  configHome : Option String

namespace Host

def valueOf? (h : Host) (name : String) : Option String := h.environment.find? name

def workingDirectory? (h : Host) : Option String :=
  if h.tellsWorkingDirectory then some h.workingDirectory else none

def contains (h : Host) (path : String) : Bool := h.files.contains h.workingDirectory path

def isFile (h : Host) (path : String) : Bool := h.files.isFile h.workingDirectory path

def readText (h : Host) (path : String) : Except Error String :=
  (h.files.readText h.workingDirectory path).mapError fun f => .io f.message

-- Reads a file and parses its text. A text that is refused is bad YAML.
def readParsed {α : Type} (h : Host) (parse : Yaml.Parser α) (path : String) : Except Error α := do
  let text ← h.readText path
  (parse text).mapError .yaml

end Host
end RollingUpgrade
