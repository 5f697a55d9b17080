import BackupRotation.Prune.Purge
import BackupRotation.Retention.Classify
import BackupRotation.Retention.Policy
/-!
# Trimming a target

A trim applies the retention policy to the snapshots of a target: every
name is read as a time first, so one unreadable name stops the trim before
anything is touched; the cutoffs are taken back from `now`; the classifier
marks the snapshots to remove; and the purge carries the marks out, oldest
first.

Taking the cutoffs back from a `now` at the very start of the calendar
overflows it. The program treats that as a broken invariant and stops.
-/

namespace BackupRotation.Retention

open Files Store Snapshot Calendar

/-- The message of a run stopped by a cutoff before the first day. -/
def cutoffOverflow : String := "`DateTime - TimeDelta` overflowed"

/-- Apply the retention policy to a target; the number of snapshots deleted. -/
def trimSnapshots (target : Target) (policy : Policy) (now : Stamp) (dryRun : Bool) : Task Nat := do
  let dirs ← Prune.existingSnapshots target
  let zone ← Task.zone
  let entries ← Task.ofOutcome (entriesOfPaths zone dirs)
  let (hourly, daily) ← match policy.cutoffs zone now with
    | some cutoffs => pure cutoffs
    | none => throw (.panic cutoffOverflow)
  let remove := classify (entries.map (·.time)) hourly daily
  Prune.purge entries remove dryRun

end BackupRotation.Retention
