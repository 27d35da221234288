namespace RollingUpgrade

def twoTo (n : Nat) : Nat := Nat.pow 2 n

def tenTo (n : Nat) : Nat := Nat.pow 10 n

def fitsUnsigned (bits : Nat) (i : Int) : Bool := 0 ≤ i && i < twoTo bits

-- Whether an integer with a sign fits, of which the sign takes one bit.
def fitsSigned (bits : Nat) (i : Int) : Bool :=
  -(twoTo (bits - 1) : Int) ≤ i && i < twoTo (bits - 1)

theorem fitsUnsigned_iff {bits : Nat} {i : Int} :
    fitsUnsigned bits i = true ↔ 0 ≤ i ∧ i < twoTo bits := by
  simp [fitsUnsigned]

end RollingUpgrade
