import RollingUpgrade.Config.Location
import RollingUpgrade.Config.Undercloud

namespace RollingUpgrade

abbrev Topology := NameMap Yaml.Value

namespace Topology

abbrev Parser := Yaml.Parser (NameMap Topology)

open Document in
def decodeAll? : Yaml.Node → Option (NameMap Topology) := mapOf? (mapOf? Yaml.Value.ofNode?)

def parseAll : Parser := Yaml.parser .all decodeAll?

-- The topology with texts put over its settings.
def withTexts (t : Topology) (texts : NameMap String) : Topology :=
  t.overlay (texts.map fun _ s => Yaml.Value.text s)

def pick (topologies : NameMap Topology) (path name : String) (overrides : NameMap String) :
    Except Error Topology :=
  match topologies.find? name with
  | some t => .ok (t.withTexts overrides)
  | none => .error (.topologyNotFound name path)

def load (h : Host) (path name : String) (overrides : NameMap String)
    (parse : Parser := parseAll) : Except Error Topology := do
  pick (← h.readParsed parse path) path name overrides

-- The path of the file with the topologies. One that is given has to exist.
def path (h : Host) : Option String → Except Error String
  | some path => if h.contains path then .ok path else .error (.networkConfigNotFound path)
  | none =>
    match Config.locate? h none Config.networkFile with
    | some c => .ok c.path
    | none => .error (.networkConfigNotFound Config.networkFile.name)

def overrides (h : Host) (ignoreVariables : Bool) : NameMap String :=
  if ignoreVariables then .empty else Undercloud.settings h.valueOf?

-- The topology of a name under the settings of the environment, unless these are ignored.
def ofHost (h : Host) (name : String) (ignoreVariables : Bool) (explicit : Option String)
    (parse : Parser := parseAll) : Except Error Topology := do
  load h (← path h explicit) name (overrides h ignoreVariables) parse

end Topology
end RollingUpgrade
