import BackupRotation.Prune.Purge
import BackupRotation.Prune.Count
/-!
# Pruning by count

Unlike a trim, a prune involves no policy: the user asks for the `n` oldest
snapshots to go. The newest snapshot is taken out of the candidates before
anything else, so it survives however large `n` is.
-/

namespace BackupRotation.Prune

open Files Store Snapshot

/-- The snapshots a prune may delete, oldest first, the newest left out. -/
def loadCandidates (target : Target) : Task (List PathName) := do
  let dirs ← existingSnapshots target
  pure dirs.dropLast

/-- Delete the oldest snapshots of a target; the number deleted. -/
def pruneOldest (target : Target) (count : DeleteCount) (dryRun : Bool) : Task Nat := do
  let candidates ← loadCandidates target
  let entries ← Task.ofOutcome (entriesOfPaths (← Task.zone) candidates)
  let chosen := count.resolve entries.length
  purge entries (decisions entries.length chosen) dryRun

end BackupRotation.Prune
