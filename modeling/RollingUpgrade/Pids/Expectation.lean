import RollingUpgrade.Document

namespace RollingUpgrade

-- An expected number of processes: some or none, exactly one number, or one of several.
inductive PidExpectation
  | running (some : Bool)
  | exact (count : Nat)
  | oneOf (counts : List Nat)
  deriving DecidableEq, Repr, Inhabited

namespace PidExpectation

def accepts (e : PidExpectation) (count : Nat) : Bool :=
  match e with
  | .running true => 1 ≤ count
  | .running false => count == 0
  | .exact n => count == n
  | .oneOf counts => counts.contains count

def describe : PidExpectation → String
  | .running true => "at least 1"
  | .running false => "0"
  | .exact n => toString n
  | .oneOf counts => "one of [" ++ ", ".intercalate (counts.map toString) ++ "]"

def ofJson? : Json → Option PidExpectation
  | .bool b => some (.running b)
  | .array items => (items.mapM Document.count?).map .oneOf
  | j => (Document.count? j).map .exact

def toJson : PidExpectation → Json
  | .running b => .bool b
  | .exact n => .nat n
  | .oneOf counts => .array (counts.map .nat)

-- Whatever kind of value a text has here decides which kind of expectation it is.
def decode? {δ : Type} [Document δ] (d : δ) : Option PidExpectation :=
  (Document.untyped? d).bind ofJson?

end PidExpectation

abbrev ExpectedPids := NameMap (NameMap PidExpectation)

abbrev FoundPids := NameMap (NameMap (List String))

namespace ExpectedPids

open Document

def decode? {δ : Type} [Document δ] : δ → Option ExpectedPids :=
  mapOf? (mapOf? PidExpectation.decode?)

def toJson (e : ExpectedPids) : Json := .ofMap (.ofMap PidExpectation.toJson) e

end ExpectedPids

namespace FoundPids

open Document

def decode? {δ : Type} [Document δ] : δ → Option FoundPids :=
  mapOf? (mapOf? (listOf? string?))

def toJson (f : FoundPids) : Json := .ofMap (.ofMap .strings) f

end FoundPids
end RollingUpgrade
