import RollingUpgrade.Number.Shortest

namespace RollingUpgrade.Binary64

-- The choices a format makes: up to how many places before the point, and with how many zeros
-- after it, a number is written without an exponent, and whether a positive exponent has a sign.
structure Layout where
  placesBefore : Nat
  zerosAfter : Nat
  plusSign : Bool

def zeros (n : Nat) : String := .ofList (List.replicate n '0')

def Layout.exponent (l : Layout) (e : Int) : String :=
  (if l.plusSign && 0 ≤ e then "e+" else "e") ++ toString e

def Layout.decimal (l : Layout) (d : Decimal) : String :=
  let digits := toString d.digits
  let count := digits.length
  let point : Int := count + d.exponent
  if 0 ≤ d.exponent && point ≤ l.placesBefore then digits ++ zeros d.exponent.toNat ++ ".0"
  else if 0 < point && point ≤ l.placesBefore then
    String.ofList (digits.toList.take point.toNat) ++ "." ++
      String.ofList (digits.toList.drop point.toNat)
  else if -(l.zerosAfter : Int) ≤ point && point ≤ 0 then
    "0." ++ zeros (-point).toNat ++ digits
  else
    let fraction := digits.toList.drop 1
    String.ofList (digits.toList.take 1) ++
      (if fraction.isEmpty then "" else "." ++ String.ofList fraction) ++ l.exponent (point - 1)

-- Always with a point or an exponent, so that no whole number looks like an integer.
def render (l : Layout) (x : Binary64) : String :=
  (if x.negative then "-" else "") ++ l.decimal (shortest x.place)

end RollingUpgrade.Binary64
