namespace RollingUpgrade.Log.Target

-- Every target starts with one of these.
def families : List String := ["sc_core", "sc_config"]

def logging : String := "sc_core::logging"

def client : String := "sc_core::model::juju"

def discovery : String := "sc_core::process::discovery"

def validation : String := "sc_core::process::validate"

def series : String := "sc_core::series"

def units : String := "sc_core::units"

def filters : String := "sc_core::upgrade::filter"

def phases : String := "sc_core::upgrade::groups"

def plan : String := "sc_core::upgrade"

end RollingUpgrade.Log.Target
