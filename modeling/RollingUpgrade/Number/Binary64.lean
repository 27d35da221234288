import RollingUpgrade.Number.Bits

namespace RollingUpgrade

-- The number of magnitudes in a block.
def Binary64.block : Nat := 0x10000000000000

-- A finite binary64 number: its sign, and the place of its magnitude in ascending order. In the
-- first two blocks stand the multiples of 2^-1074; each later one has twice the spacing of the one
-- before it.
structure Binary64 where
  negative : Bool
  place : Nat
  finite : place < 2047 * Binary64.block
  deriving DecidableEq, Repr

namespace Binary64

-- How many times the spacing has doubled at a place.
def doublings (place : Nat) : Nat := place / block - 1

-- The magnitude at a place, in units of its spacing.
def significand (place : Nat) : Nat := place - doublings place * block

-- The magnitude at a place, in units of 2^-1074.
def units (place : Nat) : Nat := significand place * twoTo (doublings place)

def roundDiv (num den : Nat) : Nat :=
  let rest := 2 * (num % den)
  let below := num / den
  if den < rest || (rest == den && below % 2 == 1) then below + 1 else below

-- The place of the magnitude nearest to a quotient, the even one of two; from
-- `2047 * block` on there is none.
def nearestPlace (num den : Nat) : Nat :=
  let scaled := num * twoTo 1074
  let doublings := Nat.log2 (scaled / den) - 52
  doublings * block + roundDiv scaled (den * twoTo doublings)

def ofPlace? (negative : Bool) (place : Nat) : Option Binary64 :=
  if h : place < 2047 * block then some ⟨negative, place, h⟩ else none

def ofQuotient? (negative : Bool) (num den : Nat) : Option Binary64 :=
  ofPlace? negative (nearestPlace num den)

-- The number nearest to `digits * 10 ^ exponent`, unless that overflows.
def ofDecimal? (negative : Bool) (digits : Nat) (exponent : Int) : Option Binary64 :=
  let order := exponent + (Nat.toDigits 10 digits).length
  if digits == 0 || order < -400 then ofPlace? negative 0
  else if 400 < order then none
  else if 0 ≤ exponent then ofQuotient? negative (digits * tenTo exponent.toNat) 1
  else ofQuotient? negative digits (tenTo (-exponent).toNat)

def powerOfTen (exponent : Nat) : Nat := nearestPlace (tenTo exponent) 1

def mulPlace (a b : Nat) : Nat := nearestPlace (units a * units b) (twoTo 1074 * twoTo 1074)

def divPlace (a b : Nat) : Nat := nearestPlace (units a) (units b)

-- Scales a magnitude down by a power of ten, by factors of at most 1e308, rounding after each.
def scaleDown (place exponent : Nat) : Nat :=
  if exponent ≤ 308 then divPlace place (powerOfTen exponent)
  else if place = 0 then 0
  else scaleDown (divPlace place (powerOfTen 308)) (exponent - 308)
termination_by exponent
decreasing_by omega

-- The number `digits * 10 ^ exponent` as two roundings give it: the digits are rounded first,
-- then multiplied or divided by the rounded power of ten. May differ from `ofDecimal?` in the last
-- place.
def ofScaled? (negative : Bool) (digits : Nat) (exponent : Int) : Option Binary64 :=
  let place := nearestPlace digits 1
  if 308 < exponent then (if place = 0 then ofPlace? negative 0 else none)
  else if 0 ≤ exponent then ofPlace? negative (mulPlace place (powerOfTen exponent.toNat))
  -- three factors of 1e308 bring every 64-bit number to zero
  else ofPlace? negative (scaleDown place (min (-exponent).toNat 2000))

end Binary64
end RollingUpgrade
