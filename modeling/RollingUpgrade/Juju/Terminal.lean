import RollingUpgrade.Program
import RollingUpgrade.Text.Utf8

namespace RollingUpgrade

-- How a started program ended: its exit code, unless a signal ended it, and what it wrote.
structure Exit where
  code : Option Nat
  stdout : List UInt8
  stderr : List UInt8
  deriving Repr, Inhabited

namespace Exit

def success (e : Exit) : Bool := e.code == some 0

-- A program that a signal ended counts as one that ended with -1.
def shownCode (e : Exit) : Int := e.code.elim (-1) fun n => n

def output (e : Exit) : String := Text.Utf8.decodeLossy e.stdout

def errors (e : Exit) : String := Text.Utf8.decodeLossy e.stderr

end Exit

structure StartFailure where
  notFound : Bool
  message : String
  deriving Repr

namespace Terminal

inductive Request
  | start (program : String) (args : List String)
  -- Reads a clock that never goes back, in nanoseconds.
  | clock
  | pause (seconds : Nat)
  deriving DecidableEq

abbrev Reply : Request → Type
  | .start .. => Except StartFailure Exit
  | .clock => Nat
  | .pause _ => Unit

end Terminal

abbrev Terminal : Interface := ⟨Terminal.Request, Terminal.Reply⟩

-- A terminal on which the programs started end one after the other as scripted. Its clock stands
-- still.
structure ScriptedTerminal where
  exits : List Exit

namespace ScriptedTerminal

def noSuchFile : String := "No such file or directory (os error 2)"

-- A program or an argument with a null character cannot be handed over. The terminal lacks the
-- programs listed, and a directory is no program.
def startFailure? (missing : List String) (program : String) (args : List String) :
    Option StartFailure :=
  if (program :: args).any (·.toList.contains '\x00') then
    some ⟨false, "nul byte found in provided data"⟩
  else if program.isEmpty || program ∈ missing then some ⟨true, noSuchFile⟩
  else if program.toList.getLast? == some '/' then
    some ⟨false, "Permission denied (os error 13)"⟩
  else none

def unscripted : Exit := ⟨some 97, [], "no scripted response".toUTF8.toList⟩

-- Only a program that starts uses up a scripted end.
def answer (missing : List String) :
    (r : Terminal.Request) → ScriptedTerminal → Terminal.Reply r × ScriptedTerminal
  | .start program args, t =>
    match startFailure? missing program args, t.exits with
    | some failure, _ => (.error failure, t)
    | none, exit :: rest => (.ok exit, ⟨rest⟩)
    | none, [] => (.ok unscripted, t)
  | .clock, t => (0, t)
  | .pause _, t => ((), t)

end ScriptedTerminal

def Run.startedArgs {σ α : Type} (r : Run Terminal σ α) : List (List String) :=
  r.steps.filterMap fun
    | .asked (.start _ args) (.ok _) => some args
    | _ => none

end RollingUpgrade
