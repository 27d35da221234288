import RollingUpgrade.Json.Render
import RollingUpgrade.Log.Directive

namespace RollingUpgrade.Log

def Level.label (l : Level) : String := l.name.map Char.toUpper

namespace Value

def human : Value → String
  | .quoted s => Text.quote s
  | .shown s => s
  | .number n => toString n
  | .flag b => if b then "true" else "false"

def toJson : Value → Json
  | .quoted s | .shown s => .string s
  | .number n => .int n
  | .flag b => .bool b

end Value

-- A character of a message. Those that steer a terminal do not get through.
def messageChar (c : Char) : List Char :=
  if "\x07\x08\x0c\x1b\x7f".toList.contains c then
    '\\' :: 'x' :: (if c.toNat < 0x10 then ['0'] else []) ++ Text.hex c.toNat
  else if 0x80 ≤ c.toNat && c.toNat ≤ 0x9F then
    '\\' :: 'u' :: '\x7b' :: Text.hex c.toNat ++ ['\x7d']
  else [c]

namespace Event

def human (e : Event) : String :=
  let label := e.level.label
  let pad : String := .ofList (List.replicate (5 - label.length) ' ')
  let message : String := .ofList (e.message.toList.flatMap messageChar)
  " ".intercalate ((pad ++ label) :: message :: e.fields.map fun f => f.1 ++ "=" ++ f.2.human)

def toJson (e : Event) : Json :=
  .object <|
    [("level", .string e.level.label), ("target", .string e.target),
      ("message", .string e.message)] ++ e.fields.map fun f => (f.1, f.2.toJson)

def alreadySetUp : Event :=
  ⟨.debug, Target.logging, "logging already initialized",
    [("error", .shown "a global default trace dispatcher has already been set")]⟩

end Event

namespace Settings

-- The text that is written for humans, with `time` in front of each event if the settings want
-- it.
def humanText (s : Settings) (time : String) (events : List Event) : String :=
  .join ((s.select events).map fun e =>
    (if s.timestamps then time ++ " " else "") ++ e.human ++ "\n")

def objects (s : Settings) (events : List Event) : List Json := (s.select events).map Event.toJson

end Settings
end RollingUpgrade.Log
