import RollingUpgrade.Log.Event
import RollingUpgrade.Text.Blank
import RollingUpgrade.Text.Letter

namespace RollingUpgrade.Log

-- Lines for humans, or one JSON object a line.
inductive Format
  | human
  | jsonl
  deriving DecidableEq, Repr, Inhabited

namespace Format

def all : List Format := [.human, .jsonl]

def name : Format → String
  | .human => "human"
  | .jsonl => "jsonl"

def aliases : List (String × Format) := [("pretty", .human), ("json", .jsonl)]

def ofExactName? (s : String) : Option Format := all.find? (·.name == s)

end Format

namespace Level

def aliases : List (String × Level) := [("warning", .warn), ("quiet", .off)]

def ofExactName? (s : String) : Option Level := all.find? (·.name == s)

end Level

-- The word that users mean: blanks around it and the case of Latin letters do not matter.
def word (s : String) : String := Text.lowerLatin (Text.trim s)

def Level.ofName? (s : String) : Option Level :=
  (ofExactName? (word s)).or (aliases.lookup (word s))

def Format.ofName? (s : String) : Option Format :=
  (ofExactName? (word s)).or (aliases.lookup (word s))

def unrecognized (kind s : String) : String := s!"unrecognized log {kind} '{s}'"

def Level.ofName (s : String) : Except String Level :=
  (ofName? s).elim (.error (unrecognized "level" s)) .ok

def Format.ofName (s : String) : Except String Format :=
  (ofName? s).elim (.error (unrecognized "format" s)) .ok

end RollingUpgrade.Log
