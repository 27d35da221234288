import RollingUpgrade.NameMap
import RollingUpgrade.Text.Separator

namespace RollingUpgrade.Undercloud

-- Settings with the variable for tests and the older one.
def variableNames : List (String × String × String) :=
  [("net_id", "TEST_NET_ID", "NET_ID"), ("external_dns", "TEST_NAME_SERVER", "NAME_SERVER"),
    ("default_gateway", "TEST_GATEWAY", "GATEWAY"),
    ("external_net_cidr", "TEST_CIDR_EXT", "CIDR_EXT")]

def directSettings : List String :=
  ["default_gateway", "start_floating_ip", "end_floating_ip", "external_dns", "external_net_cidr"]

section

variable (lookup : String → Option String)

-- The first of the variables that is set. An empty one counts as not set.
def firstSet? (names : List String) : Option String :=
  names.findSome? fun name => (lookup name).filter (!·.isEmpty)

def fromVariables : List (String × String) :=
  variableNames.filterMap fun (setting, forTests, older) =>
    (firstSet? lookup [forTests, older]).map (setting, ·)

-- The ends of the range of addresses, which a colon separates.
def fromRange : List (String × String) :=
  match (firstSet? lookup ["TEST_FIP_RANGE", "FIP_RANGE"]).bind
      fun range => Text.splitFirst? ':' range.toList with
  | some (first, last) =>
    [("start_floating_ip", .ofList first), ("end_floating_ip", .ofList last)]
  | none => []

def fromOwnNames : List (String × String) :=
  directSettings.filterMap fun setting => (firstSet? lookup [setting]).map (setting, ·)

def settings : NameMap String :=
  .ofList (fromVariables lookup ++ fromRange lookup ++ fromOwnNames lookup)

end

end RollingUpgrade.Undercloud
