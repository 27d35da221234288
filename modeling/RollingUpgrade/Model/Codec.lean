import RollingUpgrade.Model.PlacedUnit

namespace RollingUpgrade

open Document

def optionalEntry {α : Type} (name : String) (encode : α → Json) : Option α → List (String × Json)
  | some a => [(name, encode a)]
  | none => []

namespace Condition

def ofJson? (j : Json) : Option Condition := do
  match ← fields? [["current"], ["message"]] 0 j with
  | [current, message] =>
    return { current := ← orElse "" string? current, message := ← orElse "" string? message }
  | _ => none

def toJson (c : Condition) : Json :=
  .object <| ("current", .string c.current) ::
    if c.message.isEmpty then [] else [("message", .string c.message)]

end Condition

namespace Subordinate

def ofJson? (j : Json) : Option Subordinate := do
  match ← fields? [["charm"], ["leader"], ["workload-status"], ["juju-status"]] 0 j with
  | [charm, leader, workload, agent] =>
    return {
      charm := ← orElse "" string? charm
      leader := ← orElse false bool? leader
      workload := ← orElse none (optional? Condition.ofJson?) workload
      agent := ← orElse none (optional? Condition.ofJson?) agent }
  | _ => none

def toJson (s : Subordinate) : Json :=
  .object <|
    [("charm", .string s.charm), ("leader", .bool s.leader)] ++
      optionalEntry "workload-status" Condition.toJson s.workload ++
      optionalEntry "juju-status" Condition.toJson s.agent

end Subordinate

namespace Principal

def ofJson? (j : Json) : Option Principal := do
  match ← fields? [["leader"], ["machine"], ["public-address"], ["workload-status"],
      ["juju-status"], ["subordinates"]] 0 j with
  | [leader, machine, address, workload, agent, subordinates] =>
    return {
      leader := ← orElse false bool? leader
      machine := ← orElse "" string? machine
      publicAddress := ← orElse none (optional? string?) address
      workload := ← orElse none (optional? Condition.ofJson?) workload
      agent := ← orElse none (optional? Condition.ofJson?) agent
      subordinates := ← orElse .empty (mapOf? Subordinate.ofJson?) subordinates }
  | _ => none

def toJson (p : Principal) : Json :=
  .object <|
    [("leader", .bool p.leader), ("machine", .string p.machine)] ++
      optionalEntry "public-address" .string p.publicAddress ++
      optionalEntry "workload-status" Condition.toJson p.workload ++
      optionalEntry "juju-status" Condition.toJson p.agent ++
      [("subordinates", .ofMap Subordinate.toJson p.subordinates)]

end Principal

namespace Application

def ofJson? (j : Json) : Option Application := do
  match ← fields? [["charm"], ["subordinate-to"], ["series"], ["units"]] 0 j with
  | [charm, subordinateTo, series, units] =>
    return {
      charm := ← orElse "" string? charm
      subordinateTo := ← orElse [] (listOf? string?) subordinateTo
      series := ← orElse none (optional? string?) series
      units := ← orElse .empty (mapOf? Principal.ofJson?) units }
  | _ => none

def toJson (a : Application) : Json :=
  .object <|
    [("charm", .string a.charm), ("subordinate-to", .strings a.subordinateTo)] ++
      optionalEntry "series" .string a.series ++
      [("units", .ofMap Principal.toJson a.units)]

end Application

namespace Snapshot

def ofJson? (j : Json) : Option Snapshot := do
  match ← fields? [["applications"]] 0 j with
  | [applications] =>
    return { applications := ← orElse .empty (mapOf? Application.ofJson?) applications }
  | _ => none

def toJson (s : Snapshot) : Json :=
  .object [("applications", .ofMap Application.toJson s.applications)]

end Snapshot

namespace PlacedUnit

-- The address may be missing from an object, but a list has to reach it.
def ofJson? (j : Json) : Option PlacedUnit := do
  match ← fields? [["entity_id"], ["application"], ["machine"], ["public_address"]] 4 j with
  | [id, application, machine, address] =>
    return {
      id := ← required string? id
      application := ← required string? application
      machine := ← required string? machine
      publicAddress := ← orElse none (optional? string?) address }
  | _ => none

def toJson (u : PlacedUnit) : Json :=
  .object [("entity_id", .string u.id), ("application", .string u.application),
    ("machine", .string u.machine), ("public_address", u.publicAddress.elim .null .string)]

end PlacedUnit
end RollingUpgrade
