import RollingUpgrade.Document

namespace RollingUpgrade

structure PollSettings where
  timeoutSecs : Nat
  intervalSecs : Nat
  deriving DecidableEq, Repr

namespace PollSettings

def default : PollSettings := ⟨2700, 10⟩

instance : Inhabited PollSettings := ⟨default⟩

def fieldNames : List (List String) := [["timeout_secs"], ["interval_secs"]]

open Document in
def decode? {δ : Type} [Document δ] (d : δ) : Option PollSettings := do
  match ← fields? fieldNames 0 d with
  | [timeout, interval] =>
    return {
      timeoutSecs := ← orElse default.timeoutSecs count? timeout
      intervalSecs := ← orElse default.intervalSecs count? interval }
  | _ => none

def toJson (p : PollSettings) : Json :=
  .object [("timeout_secs", .nat p.timeoutSecs), ("interval_secs", .nat p.intervalSecs)]

end PollSettings
end RollingUpgrade
