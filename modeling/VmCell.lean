import VmCell.Cli.Shell
import VmCell.Encoding.Base64
import VmCell.Encoding.Frames
import VmCell.Encoding.Lines
import VmCell.Encoding.OptionStrings
import VmCell.Encoding.Segments
import VmCell.Encoding.Utf8
import VmCell.Engine.ImageReports
import VmCell.Engine.PathWatch
import VmCell.Files.Tree
import VmCell.Guest.Commands
import VmCell.Guest.Path
import VmCell.Interaction.Reading
import VmCell.Interaction.Requests
import VmCell.Interaction.Session
import VmCell.Jobs.CopySources
import VmCell.Jobs.Plan
import VmCell.Jobs.Request
import VmCell.Jobs.Specification
import VmCell.Properties.Agreement
import VmCell.Properties.Arguments
import VmCell.Properties.Artifacts
import VmCell.Properties.Authority
import VmCell.Properties.Cells
import VmCell.Properties.Collection
import VmCell.Properties.Configuration
import VmCell.Properties.CopySources
import VmCell.Properties.Correlation
import VmCell.Properties.Destruction
import VmCell.Properties.Framing
import VmCell.Properties.GuestPaths
import VmCell.Properties.ImageUse
import VmCell.Properties.Images
import VmCell.Properties.Jobs
import VmCell.Properties.Launch
import VmCell.Properties.LaunchIdentity
import VmCell.Properties.Operations
import VmCell.Properties.Output
import VmCell.Properties.Ownership
import VmCell.Properties.PathWatches
import VmCell.Properties.Previews
import VmCell.Properties.Pruning
import VmCell.Properties.Qmp
import VmCell.Properties.Quoting
import VmCell.Properties.Readiness
import VmCell.Properties.Receipts
import VmCell.Properties.Relaunch
import VmCell.Properties.Selection
import VmCell.Properties.ShellLines
import VmCell.Properties.Storability
import VmCell.Properties.SyncId
import VmCell.Properties.Synchronisation
import VmCell.Properties.Transfer
import VmCell.Provider.ProcessMatches
import VmCell.Provider.Protocol
import VmCell.Provider.QemuHost
import VmCell.Provider.QemuSystem
import VmCell.Receipts.Documents
import VmCell.Receipts.Validation
