import RollingUpgrade.Charm
import RollingUpgrade.Client.Call
import RollingUpgrade.Client.Checks
import RollingUpgrade.Client.Recorder
import RollingUpgrade.Client.Scripted
import RollingUpgrade.Config.FileTree
import RollingUpgrade.Config.Host
import RollingUpgrade.Config.Location
import RollingUpgrade.Config.Network
import RollingUpgrade.Config.Undercloud
import RollingUpgrade.Config.Upgrade
import RollingUpgrade.Document
import RollingUpgrade.Error
import RollingUpgrade.Error.Report
import RollingUpgrade.Json.Basic
import RollingUpgrade.Json.Reader
import RollingUpgrade.Json.Render
import RollingUpgrade.Json.Token
import RollingUpgrade.Juju.Client
import RollingUpgrade.Juju.Reply
import RollingUpgrade.Juju.Terminal
import RollingUpgrade.Log.Directive
import RollingUpgrade.Log.Event
import RollingUpgrade.Log.Line
import RollingUpgrade.Log.Name
import RollingUpgrade.Log.Settings
import RollingUpgrade.Log.Target
import RollingUpgrade.Model.Codec
import RollingUpgrade.Model.Outcome
import RollingUpgrade.Model.PlacedUnit
import RollingUpgrade.Model.Snapshot
import RollingUpgrade.NameMap
import RollingUpgrade.Number.Binary64
import RollingUpgrade.Number.Bits
import RollingUpgrade.Number.Layout
import RollingUpgrade.Number.Shortest
import RollingUpgrade.Path
import RollingUpgrade.Pids.Check
import RollingUpgrade.Pids.Discovery
import RollingUpgrade.Pids.Expectation
import RollingUpgrade.Pids.Validation
import RollingUpgrade.PollSettings
import RollingUpgrade.Ports
import RollingUpgrade.Program
import RollingUpgrade.Proofs.Charm
import RollingUpgrade.Proofs.Client.Query
import RollingUpgrade.Proofs.Config.Partial
import RollingUpgrade.Proofs.Error.Facts
import RollingUpgrade.Proofs.InTurn
import RollingUpgrade.Proofs.Inquiry
import RollingUpgrade.Proofs.Json.Settled
import RollingUpgrade.Proofs.Json.Without
import RollingUpgrade.Proofs.Json.Written
import RollingUpgrade.Proofs.Juju.Command
import RollingUpgrade.Proofs.Juju.Idleness
import RollingUpgrade.Proofs.Juju.Options
import RollingUpgrade.Proofs.Juju.RunReply
import RollingUpgrade.Proofs.Juju.Scripted
import RollingUpgrade.Proofs.Juju.Waiting
import RollingUpgrade.Proofs.Model.Arrangement
import RollingUpgrade.Proofs.Model.ExitCode
import RollingUpgrade.Proofs.Model.Placement
import RollingUpgrade.Proofs.Model.Records
import RollingUpgrade.Proofs.Model.RoundTrip
import RollingUpgrade.Proofs.Log.Directives
import RollingUpgrade.Proofs.Log.Settings
import RollingUpgrade.Proofs.NameMap
import RollingUpgrade.Proofs.Number.Decimal
import RollingUpgrade.Proofs.Pids.Expectations
import RollingUpgrade.Proofs.Pids.Faults
import RollingUpgrade.Proofs.Pids.Places
import RollingUpgrade.Proofs.Pids.Reports
import RollingUpgrade.Proofs.Rendition
import RollingUpgrade.Proofs.Run
import RollingUpgrade.Proofs.Series.Down
import RollingUpgrade.Proofs.Series.Idle
import RollingUpgrade.Proofs.Series.Once
import RollingUpgrade.Proofs.Series.Opening
import RollingUpgrade.Proofs.Series.Pausing
import RollingUpgrade.Proofs.Series.Procedure
import RollingUpgrade.Proofs.Series.Rolling
import RollingUpgrade.Proofs.Series.Turn
import RollingUpgrade.Proofs.Text.Trimmed
import RollingUpgrade.Proofs.Text.Words
import RollingUpgrade.Proofs.Upgrade.Course
import RollingUpgrade.Proofs.Upgrade.Lookups
import RollingUpgrade.Proofs.Upgrade.Partition
import RollingUpgrade.Proofs.Upgrade.Survivors
import RollingUpgrade.Proofs.Upgrade.Warnings
import RollingUpgrade.Proofs.Yaml.Written
import RollingUpgrade.Release
import RollingUpgrade.Series.Application
import RollingUpgrade.Series.Machine
import RollingUpgrade.Series.Settings
import RollingUpgrade.Series.Steps
import RollingUpgrade.Text.Alphanumeric
import RollingUpgrade.Text.Blank
import RollingUpgrade.Text.Hidden
import RollingUpgrade.Text.Letter
import RollingUpgrade.Text.Quoted
import RollingUpgrade.Text.Separator
import RollingUpgrade.Text.Utf8
import RollingUpgrade.Upgrade.Filter
import RollingUpgrade.Upgrade.Mode
import RollingUpgrade.Upgrade.Phase
import RollingUpgrade.Upgrade.Plan
import RollingUpgrade.Yaml.Block
import RollingUpgrade.Yaml.Character
import RollingUpgrade.Yaml.Gap
import RollingUpgrade.Yaml.Node
import RollingUpgrade.Yaml.Plain
import RollingUpgrade.Yaml.Quoted
import RollingUpgrade.Yaml.Render
import RollingUpgrade.Yaml.Scalar
import RollingUpgrade.Yaml.Token
import RollingUpgrade.Yaml.Tree
import RollingUpgrade.Yaml.Value
import RollingUpgrade.Proofs.Juju.Wrapping
import RollingUpgrade.Proofs.Config.Environment
import RollingUpgrade.Proofs.Upgrade.Chain
import RollingUpgrade.Proofs.Config.Overrides
import RollingUpgrade.Proofs.Config.Files
import RollingUpgrade.Proofs.Config.Candidates
import RollingUpgrade.Proofs.Config.Topologies
import RollingUpgrade.Proofs.Client.Versions
import RollingUpgrade.Proofs.Client.Checks
import RollingUpgrade.Proofs.Path
import RollingUpgrade.Proofs.Series.Copying
import RollingUpgrade.Proofs.Client.Script
