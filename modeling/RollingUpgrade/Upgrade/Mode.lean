import RollingUpgrade.Text.Letter
import RollingUpgrade.Upgrade.Filter

namespace RollingUpgrade

inductive UpgradeMode
  | openstack
  | series
  | charm
  deriving DecidableEq, Repr

namespace UpgradeMode

def name : UpgradeMode → String
  | .openstack => "openstack"
  | .series => "series"
  | .charm => "charm"

-- The names of a mode in any case; a payload upgrade is an OpenStack upgrade.
def ofName (s : String) : Except Error UpgradeMode :=
  if Text.isWordInAnyCase "openstack" s || Text.isWordInAnyCase "payload" s then .ok .openstack
  else if Text.isWordInAnyCase "series" s then .ok .series
  else if Text.isWordInAnyCase "charm" s then .ok .charm
  else .error (.invalidArgument ("unknown upgrade mode: " ++ s))

def defaultFilters : UpgradeMode → FilterChain
  | .openstack => ⟨[.subordinates, .onExcludeList, .nonOpenstack]⟩
  | .series => ⟨[.subordinates]⟩
  | .charm => ⟨[]⟩

def filters (m : UpgradeMode) (extra : ExtraFilters) : Except Error FilterChain :=
  m.defaultFilters.extend extra

end UpgradeMode
end RollingUpgrade
