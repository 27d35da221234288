import RollingUpgrade.Text.Quoted

namespace RollingUpgrade.Log

-- How grave an event is, or from which gravity on events are wanted; `off` wants none.
inductive Level
  | trace
  | debug
  | info
  | warn
  | error
  | off
  deriving DecidableEq, Repr, Inhabited

namespace Level

def all : List Level := [.trace, .debug, .info, .warn, .error, .off]

def rank : Level → Nat
  | .trace => 0
  | .debug => 1
  | .info => 2
  | .warn => 3
  | .error => 4
  | .off => 5

theorem rank_injective {a b : Level} (h : a.rank = b.rank) : a = b := by
  cases a <;> cases b <;> simp_all [rank]

instance : LE Level := ⟨fun a b => a.rank ≤ b.rank⟩

instance (a b : Level) : Decidable (a ≤ b) := inferInstanceAs (Decidable (a.rank ≤ b.rank))

instance : Min Level := ⟨fun a b => if a ≤ b then a else b⟩

def name : Level → String
  | .trace => "trace"
  | .debug => "debug"
  | .info => "info"
  | .warn => "warn"
  | .error => "error"
  | .off => "off"

end Level

-- The value of a field. A text that is `quoted` stands between quotes on a line for humans; one
-- that is `shown` stands as it is.
inductive Value
  | quoted (text : String)
  | shown (text : String)
  | number (value : Int)
  | flag (value : Bool)
  deriving DecidableEq, Repr

def Value.names (l : List String) : Value := .shown (Text.quoteList l)

structure Event where
  level : Level
  target : String
  message : String
  fields : List (String × Value)
  deriving DecidableEq, Repr

end RollingUpgrade.Log
