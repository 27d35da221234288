import RollingUpgrade.Charm
import RollingUpgrade.Client.Call
import RollingUpgrade.Log.Target

namespace RollingUpgrade

open Program

structure Filter where
  name : String
  excludes : String → Application → Program Client Bool

namespace Filter

def excludeList : List String := ["rabbitmq-server", "percona-cluster"]

def sourceOptions : List String := ["openstack-origin", "source"]

def warnExcluded (message : String) (fields : List (String × Log.Value)) : Program Client Unit :=
  emit .warn Log.Target.filters message fields

def subordinates : Filter where
  name := "subordinates"
  excludes app status := do
    if status.isSubordinate then
      warnExcluded "excluding from upgrade, it is a subordinate" [("app", .quoted app)]
    return status.isSubordinate

def onExcludeList : Filter where
  name := "upgrade-exclude-list"
  excludes app status := do
    let charm := Charm.name status.charm
    let listed := decide (app ∈ excludeList ∨ charm ∈ excludeList)
    if listed then
      warnExcluded "excluding from upgrade, on the exclude list"
        [("app", .quoted app), ("charm", .quoted charm)]
    return listed

def nonOpenstack : Filter where
  name := "non-openstack-services"
  excludes app _ := do
    let config ← (Call.config app).perform
    let foreign := !sourceOptions.any config.contains
    if foreign then
      warnExcluded "excluding from upgrade, no source option" [("app", .quoted app)]
    return foreign

def charmContains (name needle : String) : Filter where
  name := name
  excludes app status := do
    let charm := Charm.name status.charm
    let found := Text.occurs needle.toList charm.toList
    if found then
      warnExcluded s!"skipping upgrade of {needle} charm"
        [("app", .quoted app), ("charm", .quoted charm)]
    return found

def builtins : List Filter :=
  [subordinates, onExcludeList, nonOpenstack, charmContains "easyrsa" "easyrsa",
    charmContains "etcd" "etcd", charmContains "memcached" "memcached"]

def builtin? (name : String) : Option Filter := builtins.find? (·.name == name)

end Filter

-- Filters that a caller adds to those of a mode.
inductive ExtraFilters
  | none
  | one (filter : Filter)
  | many (filters : List Filter)
  | named (names : List String)

structure FilterChain where
  filters : List Filter

namespace FilterChain

def empty : FilterChain := ⟨[]⟩

def names (c : FilterChain) : List String := c.filters.map (·.name)

def size (c : FilterChain) : Nat := c.filters.length

def isEmpty (c : FilterChain) : Bool := c.filters.isEmpty

def push (c : FilterChain) (f : Filter) : FilterChain := ⟨c.filters ++ [f]⟩

-- The built-in filters of the given names; the first unknown name is an error.
def ofNames (names : List String) : Except Error FilterChain := do
  let filters ← names.mapM fun name =>
    match Filter.builtin? name with
    | some f => .ok f
    | none => .error (.invalidArgument ("unknown upgrade filter: " ++ name))
  return ⟨filters⟩

def extend (c : FilterChain) : ExtraFilters → Except Error FilterChain
  | .none => .ok c
  | .one f => .ok (c.push f)
  | .many fs => .ok ⟨c.filters ++ fs⟩
  | .named names => do return ⟨c.filters ++ (← ofNames names).filters⟩

def extendInPlace : ExtraFilters → EStateM Error FilterChain Unit
  | .none => return
  | .one f => modify (·.push f)
  | .many fs => modify fun c => ⟨c.filters ++ fs⟩
  | .named names => do
    let named ← MonadExcept.ofExcept (ofNames names)
    modify fun c => ⟨c.filters ++ named.filters⟩

-- Whether a filter of the list excludes an application; none after the first that does is
-- asked.
def anyExcludes (app : String) (status : Application) : List Filter → Program Client Bool
  | [] => return false
  | f :: rest => do
    if ← f.excludes app status then return true
    anyExcludes app status rest

def excludes (c : FilterChain) (app : String) (status : Application) : Program Client Bool :=
  anyExcludes app status c.filters

def describe (c : FilterChain) : String :=
  "FilterChain \x7b filters: " ++ Text.quoteList c.names ++ " \x7d"

end FilterChain

namespace ExtraFilters

def describe : ExtraFilters → String
  | .none => "None"
  | .one f => "One(" ++ Text.quote f.name ++ ")"
  | .many fs => "Many(" ++ Text.quoteList (fs.map (·.name)) ++ ")"
  | .named names => "Named(" ++ Text.quoteList names ++ ")"

end ExtraFilters
end RollingUpgrade
