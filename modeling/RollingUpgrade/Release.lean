import RollingUpgrade.Error

namespace RollingUpgrade.Release

-- Oldest first, so that places in the table compare like dates.
def table : List (String × String) :=
  [("oneiric", "diablo"), ("precise", "essex"), ("quantal", "folsom"), ("raring", "grizzly"),
    ("saucy", "havana"), ("trusty", "icehouse"), ("utopic", "juno"), ("vivid", "kilo"),
    ("wily", "liberty"), ("xenial", "mitaka"), ("yakkety", "newton"), ("zesty", "ocata"),
    ("artful", "pike"), ("bionic", "queens"), ("cosmic", "rocky"), ("disco", "stein"),
    ("eoan", "train"), ("focal", "ussuri"), ("groovy", "victoria"), ("hirsute", "wallaby"),
    ("impish", "xena"), ("jammy", "yoga")]

def index (series : String) : Except Error Nat :=
  match table.findIdx? (·.1 == series) with
  | some i => .ok i
  | none => .error (.ubuntuReleaseNotFound series)

def openstack (series : String) : Except Error String :=
  match table.lookup series with
  | some release => .ok release
  | none => .error (.ubuntuReleaseNotFound series)

end RollingUpgrade.Release
