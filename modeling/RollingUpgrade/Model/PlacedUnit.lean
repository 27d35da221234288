import RollingUpgrade.Model.Snapshot

namespace RollingUpgrade

structure PlacedUnit where
  id : String
  application : String
  machine : String
  publicAddress : Option String
  deriving DecidableEq, Repr

namespace PlacedUnit

def ownUnits (application : String) (a : Application) : List PlacedUnit :=
  a.units.toList.map fun (name, unit) => ⟨name, application, unit.machine, unit.publicAddress⟩

def ridingOn (application : String) (unit : Principal) : List PlacedUnit :=
  (unit.subordinates.keys.filter (unitApplication · == application)).map fun name =>
    ⟨name, application, unit.machine, unit.publicAddress⟩

-- The units that ride on units of the principals of `a`, in the order in which `a` names its
-- principals; principals that are not deployed carry none.
def ridingUnits (s : Snapshot) (application : String) (a : Application) : List PlacedUnit :=
  (a.subordinateTo.filterMap s.applications.find?).flatMap fun principal =>
    principal.units.values.flatMap (ridingOn application)

-- All units found under an application, in the order in which they are looked for. Several of them
-- may have one name.
def found (s : Snapshot) (application : String) (a : Application) : List PlacedUnit :=
  ownUnits application a ++ ridingUnits s application a

-- Units in ascending order. The sort keeps units of one name in their order, and of neighbours of
-- one name the first stays.
def arranged (units : List PlacedUnit) : List PlacedUnit :=
  (units.mergeSort (·.id ≤ ·.id)).eraseRepsBy (·.id == ·.id)

def ofApplication? (s : Snapshot) (application : String) : Option (List PlacedUnit) :=
  (s.applications.find? application).map fun a => arranged (found s application a)

end PlacedUnit
end RollingUpgrade
