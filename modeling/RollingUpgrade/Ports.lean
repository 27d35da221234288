import RollingUpgrade.Log.Target
import RollingUpgrade.Model.PlacedUnit
import RollingUpgrade.Program

namespace RollingUpgrade

structure Dial where
  address : String
  port : Nat
  deriving DecidableEq, Repr

-- The network as programs see it: whether a connection is accepted in time.
def Network : Interface := ⟨Dial, fun _ => Bool⟩

namespace Ports

def timeoutSecs : Nat := 2

def isOpen (address : String) (port : Nat) : Program Network Bool :=
  Program.question (I := Network) ⟨address, port⟩

def knockUnit (port : Nat) (expected : Bool) (unit : PlacedUnit) : Program Network Unit := do
  let some address := unit.publicAddress
    | .fail (.portCheckFailed s!"{unit.id} has no public address")
  let isOpen ← isOpen address port
  Program.emit .info Log.Target.units "port knock"
    [("unit", .shown unit.id), ("address", .quoted address), ("port", .number port),
      ("open", .flag isOpen)]
  if isOpen != expected then
    .fail (.portCheckFailed
      s!"{unit.id} ({address}) port {port} open={isOpen} expected={expected}")

-- Checks a port of each unit in order; the first unit that is not as expected ends the check.
def knock (units : List PlacedUnit) (port : Nat) (expected : Bool) : Program Network Unit :=
  units.forM (knockUnit port expected)

end Ports
end RollingUpgrade
