import RollingUpgrade.Config.Upgrade
import RollingUpgrade.Upgrade.Mode
import RollingUpgrade.Upgrade.Phase

namespace RollingUpgrade.Plan

open Program

def survivors (chain : FilterChain) :
    List (String × Application) → Program Client (List (String × Application))
  | [] => return []
  | (app, status) :: rest => do
    let excluded ← chain.excludes app status
    let others ← survivors chain rest
    return if excluded then others else (app, status) :: others

-- The applications that no filter excludes, asked in ascending order.
def select (chain : FilterChain) (applications : NameMap Application) :
    Program Client (NameMap Application) := do
  let kept ← survivors chain applications.toList
  emit .debug Log.Target.phases "selected upgrade candidates"
    [("candidates", .number kept.length), ("filters", .names chain.names)]
  return .ofList kept

def arrange (applications : NameMap Application) : Program Client (List ServiceGroup) := do
  let groups := ServiceGroup.ofApplications applications
  ServiceGroup.announce groups
  return groups

def groups (chain : FilterChain) (applications : NameMap Application) :
    Program Client (List ServiceGroup) := do
  arrange (← select chain applications)

-- The applications of a fresh snapshot that no filter excludes.
def candidates (chain : FilterChain) : Program Client (NameMap Application) := do
  let snapshot ← Call.status.perform
  select chain snapshot.applications

-- The plan of an upgrade. Filters are settled before the tool is asked anything.
def ofMode (mode : UpgradeMode) (extra : ExtraFilters) : Program Client (List ServiceGroup) := do
  let chain ← Program.ofExcept (mode.filters extra)
  emit .info Log.Target.plan "planning upgrade groups"
    [("mode", .shown mode.name), ("filters", .names chain.names)]
  arrange (← candidates chain)

def ofConfig (mode : UpgradeMode) (config : UpgradeConfig) : Program Client (List ServiceGroup) :=
  ofMode mode (.named config.extraFilters)

end RollingUpgrade.Plan
