import RollingUpgrade.Number.Binary64

namespace RollingUpgrade.Binary64

structure Decimal where
  digits : Nat
  exponent : Int
  deriving DecidableEq, Repr

def digitCount (n : Nat) : Nat := if n = 0 then 0 else (Nat.toDigits 10 n).length

-- The interval of numbers that round to the magnitude at a place, in units of 2^-1076.
structure Interval where
  low : Nat
  value : Nat
  high : Nat
  closed : Bool

def interval (place : Nat) : Interval :=
  let m := significand place
  let spacing := twoTo (doublings place)
  let below := if m == block && 0 < doublings place then 1 else 2
  { low := 4 * m * spacing - below * spacing
    value := 4 * m * spacing
    high := 4 * m * spacing + 2 * spacing
    closed := m % 2 == 0 }

namespace Interval

def one : Nat := twoTo 1076

def leading (i : Interval) : Int :=
  if one ≤ i.value then digitCount (i.value / one) - 1
  else -(digitCount ((one - 1) / i.value) : Int)

-- Whether `num / den` of a unit lies in the interval.
def contains (i : Interval) (num den : Nat) : Bool :=
  if i.closed then i.low * den ≤ num && num ≤ i.high * den
  else i.low * den < num && num < i.high * den

-- The decimal with `count` digits, at most, in the interval, that is nearest to the value.
def withDigits? (i : Interval) (count : Nat) : Option Decimal :=
  let exponent := i.leading - count + 1
  -- a step of the grid is `stepNum / den` units
  let stepNum := if 0 ≤ exponent then one * tenTo exponent.toNat else one
  let den := if 0 ≤ exponent then 1 else tenTo (-exponent).toNat
  let value := i.value * den
  let below := value / stepNum
  let above : Decimal :=
    if below + 1 = tenTo count then ⟨1, exponent + count⟩ else ⟨below + 1, exponent⟩
  let hitBelow := i.contains (below * stepNum) den
  let hitAbove := i.contains ((below + 1) * stepNum) den
  let toBelow := value - below * stepNum
  let toAbove := (below + 1) * stepNum - value
  match hitBelow, hitAbove with
  | false, false => none
  | true, false => some ⟨below, exponent⟩
  | false, true => some above
  | true, true =>
    if toBelow < toAbove || (toBelow == toAbove && below % 2 == 0) then some ⟨below, exponent⟩
    else some above

end Interval

-- Seventeen digits always suffice.
def shortest (place : Nat) : Decimal :=
  if place = 0 then ⟨0, 0⟩
  else ((List.range' 1 17).findSome? (interval place).withDigits?).getD ⟨0, 0⟩

end RollingUpgrade.Binary64
