import RollingUpgrade.Number.Binary64
import RollingUpgrade.Text.Separator

namespace RollingUpgrade.Yaml

inductive Scalar
  | null
  | bool (value : Bool)
  -- An integer in 64 bits, signed or not.
  | int (value : Int)
  -- An integer that takes more than 64 bits and no more than 128.
  | wideInt (value : Int)
  | float (value : Binary64)
  | infinity (negative : Bool)
  | nan
  | text (value : String)
  deriving DecidableEq, Repr

namespace Scalar

-- Whether two scalars are the same as data. The two zeros are.
def same : Scalar → Scalar → Bool
  | .float x, .float y => x.place == y.place && (x.negative == y.negative || x.place == 0)
  | a, b => a == b

def isNullWord (s : String) : Bool := s ∈ ["null", "Null", "NULL", "~"]

def bool? (s : String) : Option Bool :=
  if s ∈ ["true", "True", "TRUE"] then some true
  else if s ∈ ["false", "False", "FALSE"] then some false
  else none

def digit? (base : Nat) (c : Char) : Option Nat :=
  let value? :=
    if c.isDigit then some (c.toNat - '0'.toNat)
    else if 'a' ≤ c && c ≤ 'f' then some (c.toNat - 'a'.toNat + 10)
    else if 'A' ≤ c && c ≤ 'F' then some (c.toNat - 'A'.toNat + 10)
    else none
  value?.filter (· < base)

def digits? (base : Nat) (s : List Char) : Option Nat :=
  if s.isEmpty then none else s.foldlM (fun n c => (digit? base c).map (n * base + ·)) 0

def dropSign : List Char → List Char
  | '+' :: rest | '-' :: rest => rest
  | s => s

-- Whether a text is digits with a needless zero in front, which is no number.
def hasLeadingZero (s : List Char) : Bool :=
  match dropSign s with
  | '0' :: c :: rest => (c :: rest).all Char.isDigit
  | _ => false

-- The magnitude of an integer in base 16, 8, 2 or 10.
def magnitude? : List Char → Option Nat
  | '0' :: 'x' :: rest => digits? 16 rest
  | '0' :: 'o' :: rest => digits? 8 rest
  | '0' :: 'b' :: rest => digits? 2 rest
  | s => if hasLeadingZero s then none else digits? 10 s

def int? : List Char → Option Int
  | '-' :: rest => (magnitude? rest).map fun n => -(n : Int)
  | '+' :: rest => (magnitude? rest).map fun n => (n : Int)
  | s => (magnitude? s).map fun n => (n : Int)

def exponent? : List Char → Option Int
  | '-' :: rest => (digits? 10 rest).map fun n => -(n : Int)
  | '+' :: rest => (digits? 10 rest).map fun n => (n : Int)
  | s => (digits? 10 s).map fun n => (n : Int)

-- A decimal: digits with a point among, before or behind them, and an exponent.
def decimal? (negative : Bool) (s : List Char) : Option Binary64 := do
  let isMark : Char → Bool := fun c => c == 'e' || c == 'E'
  let mantissa := s.takeWhile (!isMark ·)
  let exponent ← match s.dropWhile (!isMark ·) with
    | [] => some 0
    | _ :: rest => exponent? rest
  let (whole, fraction) := (Text.splitFirst? '.' mantissa).getD (mantissa, [])
  let digits ← digits? 10 (whole ++ fraction)
  Binary64.ofDecimal? negative digits (exponent - fraction.length)

def decimalOf? : List Char → Option Binary64
  | '-' :: rest => decimal? true rest
  | '+' :: rest => decimal? false rest
  | s => decimal? false s

def infinity? (s : String) : Option Bool :=
  if s ∈ [".inf", ".Inf", ".INF", "+.inf", "+.Inf", "+.INF"] then some false
  else if s ∈ ["-.inf", "-.Inf", "-.INF"] then some true
  else none

def isNanWord (s : String) : Bool := s ∈ [".nan", ".NaN", ".NAN"]

def ofInt? (i : Int) : Option Scalar :=
  if fitsSigned 64 i || fitsUnsigned 64 i then some (.int i)
  else if fitsSigned 128 i || fitsUnsigned 128 i then some (.wideInt i)
  else none

-- The number that a text is, unless it is a word. Integers beyond 128 bits are floating.
def number? (s : List Char) : Option Scalar :=
  ((int? s).bind ofInt?).or <|
    if hasLeadingZero s then none else (decimalOf? s).map .float

def ofPlain (s : String) : Scalar :=
  if s.isEmpty || isNullWord s then .null
  else match bool? s with
    | some b => .bool b
    | none =>
      match number? s.toList, infinity? s with
      | some n, _ => n
      | none, some negative => .infinity negative
      | none, none => if isNanWord s then .nan else .text s

end Scalar
end RollingUpgrade.Yaml
