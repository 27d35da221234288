import RollingUpgrade.Document
import RollingUpgrade.Text.Separator

namespace RollingUpgrade

structure Condition where
  current : String
  message : String
  deriving DecidableEq, Repr, Inhabited

-- A unit of a subordinate application. It shares the machine of the unit it rides on.
structure Subordinate where
  charm : String
  leader : Bool
  workload : Option Condition
  agent : Option Condition
  deriving DecidableEq, Inhabited

structure Principal where
  leader : Bool
  machine : String
  publicAddress : Option String
  workload : Option Condition
  agent : Option Condition
  subordinates : NameMap Subordinate
  deriving DecidableEq, Inhabited

structure Application where
  charm : String
  subordinateTo : List String
  series : Option String
  units : NameMap Principal
  deriving DecidableEq, Inhabited

structure Snapshot where
  applications : NameMap Application
  deriving DecidableEq, Inhabited

-- The application that a unit name belongs to: keystone for keystone/0.
def unitApplication (unit : String) : String := .ofList (Text.beforeFirst '/' unit.toList)

def Condition.currentOf (c : Option Condition) : String := c.elim "" Condition.current

namespace Application

def isSubordinate (a : Application) : Bool := !a.subordinateTo.isEmpty

-- The first unit, by name, that is flagged as leader.
def leader? (a : Application) : Option (String × Principal) :=
  a.units.toList.find? fun u => u.2.leader

end Application

structure UnitState where
  unit : String
  agent : String
  workload : String
  deriving DecidableEq, Repr

namespace Snapshot

def unitStatesOf (a : Application) : List UnitState :=
  a.units.toList.flatMap fun (name, unit) =>
    ⟨name, Condition.currentOf unit.agent, Condition.currentOf unit.workload⟩ ::
      unit.subordinates.toList.map fun (name, sub) =>
        ⟨name, Condition.currentOf sub.agent, Condition.currentOf sub.workload⟩

def unitStates (s : Snapshot) : List UnitState := s.applications.values.flatMap unitStatesOf

def isIdle (s : Snapshot) : Bool := s.unitStates.all (·.agent == "idle")

def workload? (s : Snapshot) (unit : String) : Option String :=
  (s.unitStates.find? (·.unit == unit)).map (·.workload)

end Snapshot
end RollingUpgrade
