import RollingUpgrade.Charm
import RollingUpgrade.Log.Target
import RollingUpgrade.Model.Snapshot
import RollingUpgrade.Program

namespace RollingUpgrade

namespace Phase

-- The named phases in order, each with the charms that it covers. No charm is in two.
def table : List (String × List String) :=
  [("Database Services", ["percona-cluster", "mysql-innodb-cluster"]),
    ("Stateful Services", ["rabbitmq-server", "ceph-mon"]),
    ("Core Identity", ["keystone"]),
    ("Control Plane",
      ["aodh", "barbican", "ceilometer", "ceph-fs", "ceph-radosgw", "cinder", "designate",
        "designate-bind", "glance", "gnocchi", "heat", "manila", "manila-generic", "neutron-api",
        "neutron-gateway", "placement", "nova-cloud-controller", "openstack-dashboard"]),
    ("Data Plane", ["nova-compute", "ceph-osd", "swift-proxy", "swift-storage"])]

-- The phase after the named ones, for all other charms.
def sweepUp : String := "sweep_up"

end Phase

structure ServiceGroup where
  name : String
  members : List String
  deriving DecidableEq, Repr

namespace ServiceGroup

def isEmpty (g : ServiceGroup) : Bool := g.members.isEmpty

-- Fills the phases of a table in order, those without an application included. A phase takes the
-- applications with a charm that it covers, unless they are placed already. What no phase takes is
-- left for the last one.
def fill (applications : NameMap Application) :
    List (String × List String) → List String → List ServiceGroup
  | [], placed => [⟨Phase.sweepUp, applications.keys.filter (· ∉ placed)⟩]
  | (phase, charms) :: rest, placed =>
    let members := (applications.filter fun app a =>
      app ∉ placed ∧ Charm.name a.charm ∈ charms).keys
    ⟨phase, members⟩ :: fill applications rest (placed ++ members)

def ofApplications (applications : NameMap Application) : List ServiceGroup :=
  fill applications Phase.table []

variable {I : Interface}

def announce (groups : List ServiceGroup) : Program I Unit :=
  (groups.filter (!·.isEmpty)).forM fun g =>
    Program.emit .info Log.Target.phases "upgrade phase"
      [("phase", .shown g.name), ("members", .names g.members)]

end ServiceGroup
end RollingUpgrade
