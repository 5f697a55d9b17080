import BackupRotation.Calendar.Civil
import BackupRotation.Calendar.Instant
import BackupRotation.Calendar.Span
import BackupRotation.Calendar.Zone
import BackupRotation.Calendar.Render
import BackupRotation.Calendar.Read
import BackupRotation.Text.Utf8
import BackupRotation.Text.Quote
import BackupRotation.Text.Decimal
import BackupRotation.Failure
import BackupRotation.Snapshot.Name
import BackupRotation.Snapshot.Entry
import BackupRotation.Snapshot.Take
import BackupRotation.Snapshot.Restore
import BackupRotation.Retention.Classify
import BackupRotation.Retention.Policy
import BackupRotation.Retention.Trim
import BackupRotation.Settings.Permission
import BackupRotation.Settings.Duration
import BackupRotation.Settings.Config
import BackupRotation.Settings.Template
import BackupRotation.Report.Console
import BackupRotation.Report.Status
import BackupRotation.Report.Usage
import BackupRotation.Report.Measure
import BackupRotation.Transfer.Arguments
import BackupRotation.Transfer.Run
import BackupRotation.Prune.Count
import BackupRotation.Prune.Purge
import BackupRotation.Prune.Oldest
import BackupRotation.Schedule
import BackupRotation.Files.PathName
import BackupRotation.Files.Tree
import BackupRotation.Files.Calls
import BackupRotation.World
import BackupRotation.Store.Target
import BackupRotation.Store.Split
import BackupRotation.Text.Float
import BackupRotation.Process.Output
import BackupRotation.Process.Shell.Syntax
import BackupRotation.Process.Shell.Pattern
import BackupRotation.Process.Shell.Arith
import BackupRotation.Process.Shell.State
import BackupRotation.Process.Shell.Expand
import BackupRotation.Process.Shell.Format
import BackupRotation.Process.Shell.Builtins
import BackupRotation.Process.Shell.Run
import BackupRotation.Process.Spawn
import BackupRotation.Process.Command
import BackupRotation.Tools.Usage
import BackupRotation.Tools.Transfer.Pattern
import BackupRotation.Tools.Transfer.Filter
import BackupRotation.Tools.Transfer.Modes
import BackupRotation.Tools.Transfer.Complaints
import BackupRotation.Tools.Transfer.Options
import BackupRotation.Tools.Transfer.Local
import BackupRotation.Tools.Transfer.Listing
import BackupRotation.Tools.Transfer.Report
import BackupRotation.Tools.Transfer
import BackupRotation.Scenes.Machine
import BackupRotation.Scenes.Step
import BackupRotation.Cli.Similarity
import BackupRotation.Cli.Grammar
import BackupRotation.Cli.Help
import BackupRotation.Cli.Complaint
import BackupRotation.Cli.Parse
import BackupRotation.Cli.Invocation
import BackupRotation.Cli.Run
import BackupRotation.Main
import BackupRotation.Proofs.Civil
import BackupRotation.Proofs.Classify
import BackupRotation.Proofs.Cutoffs
import BackupRotation.Proofs.TrimSchedule
import BackupRotation.Proofs.Task
import BackupRotation.Proofs.Store
import BackupRotation.Proofs.Unparsable
import BackupRotation.Proofs.Resolve
import BackupRotation.Proofs.Tree
import BackupRotation.Proofs.SnapshotNames
import BackupRotation.Proofs.TargetView
import BackupRotation.Proofs.Purging
import BackupRotation.Proofs.TakeSnapshot
import BackupRotation.Proofs.LatestLink
import BackupRotation.Proofs.PurgeAccounting
import BackupRotation.Proofs.SweepCursor
import BackupRotation.Proofs.CivilOrder
import BackupRotation.Proofs.NameCodec
import BackupRotation.Proofs.NameOrder
import BackupRotation.Proofs.PurgeView
import BackupRotation.Proofs.Idempotence
import BackupRotation.Proofs.PruneCount
import BackupRotation.Proofs.SnapshotOutcome
import BackupRotation.Proofs.PathComponents
import BackupRotation.Proofs.RestorePaths
import BackupRotation.Proofs.Utf8Cuts
import BackupRotation.Proofs.NameSearch
import BackupRotation.Proofs.SettingsLine
import BackupRotation.Proofs.SettingsRead
import BackupRotation.Proofs.CutoffRange
import BackupRotation.Proofs.Utf8RoundTrip
import BackupRotation.Proofs.AbsolutePaths
import BackupRotation.Proofs.TextEdits
import BackupRotation.Proofs.DefaultSettings
import BackupRotation.Proofs.Pause
import BackupRotation.Proofs.Permissions
import BackupRotation.Proofs.ByteTotals
import BackupRotation.Proofs.RetentionLength
import BackupRotation.Proofs.DigitGroups
