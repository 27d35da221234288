import RollingUpgrade.Log.Name
import RollingUpgrade.Log.Target

namespace RollingUpgrade.Log

structure Settings where
  format : Format
  level : Level
  timestamps : Bool
  -- Directives that replace those of the level.
  directives : Option String
  deriving DecidableEq, Repr

namespace Settings

def levelVariable : String := "STACKCHECK_LOG"

def formatVariable : String := "STACKCHECK_LOG_FORMAT"

def directivesVariable : String := "RUST_LOG"

def default : Settings := ⟨.human, .info, true, none⟩

instance : Inhabited Settings := ⟨default⟩

-- The most verbose level that a list of directives names anywhere.
def mostVerbose? (directives : String) : Option Level :=
  ((Text.splitWhere (fun c => c == ',' || c == '=') directives.toList).filterMap
    fun part => Level.ofName? (.ofList part)).min?

def isBlankText (s : String) : Bool := s.toList.all Text.isBlank

-- The settings of an environment, of which `lookup` gives the variables. A level or a format that
-- the caller gives goes before the variables; a variable that names none counts as not set.
def ofEnvironment (lookup : String → Option String) (level : Option Level)
    (format : Option Format) : Settings :=
  let chosen := level.or ((lookup levelVariable).bind Level.ofName?)
  let directives :=
    if chosen.isSome then none else (lookup directivesVariable).filter (!isBlankText ·)
  { default with
    level := (chosen.or (directives.bind mostVerbose?)).getD default.level
    format := (format.or ((lookup formatVariable).bind Format.ofName?)).getD default.format
    directives }

def withFormat (s : Settings) (format : Format) : Settings := { s with format }

-- Choosing a level drops the directives.
def withLevel (s : Settings) (level : Level) : Settings := { s with level, directives := none }

def withTimestamps (s : Settings) (timestamps : Bool) : Settings := { s with timestamps }

def levelDirective (s : Settings) : String :=
  ",".intercalate (Target.families.map fun family => family ++ "=" ++ s.level.name)

def filterDirective (s : Settings) : String := s.directives.getD s.levelDirective

end Settings
end RollingUpgrade.Log
