import BackupRotation.Settings.Config
import BackupRotation.Transfer.Run
import BackupRotation.Retention.Trim
/-!
# Taking a snapshot

A snapshot is a fresh directory of the target, named after the time it is
taken and filled by one synchronizer run from the source. Files unchanged
since the latest snapshot are linked against it rather than copied, so every
snapshot looks complete while only changed files take new space.

The new directory stays owner-only while it is filled and receives the
configured permission once the copy is complete; only then does `latest`
move to it. A failed copy leaves the directory as it was, owner-only and
without a link, and the next snapshot refuses to start until it is dealt
with. A dry run removes the directory again. A trim, when asked for, runs
after the snapshot against the wall clock.
-/

namespace BackupRotation.Snapshot

open Files Settings Store Calendar

/-- Mode of a snapshot directory while it is filled. -/
def initialMode : Nat := 0o700

/-- Switches for one snapshot. -/
structure SnapshotOptions where
  dryRun : Bool := false
  trim : Bool := false
deriving Repr

/-- The result of one snapshot. -/
structure SnapshotOutcome where
  /-- The new directory, already removed after a dry run. -/
  path : PathName
  /-- Snapshots deleted by the trim, when one ran. -/
  purged : Option Nat
deriving Repr

/-- The wall clock, as a time in the local zone. -/
def clockStamp : Task Stamp := do
  let world ← get
  pure (world.zone.stamp world.clock)

/-- Take one snapshot of the configured source, named after `now`, with
`transfer` as the synchronizer: it runs once with the arguments of the copy. -/
def takeSnapshotWith (transfer : List Text.Bytes → Task Unit) (config : Config) (now : Stamp)
    (options : SnapshotOptions) : Task SnapshotOutcome := do
  let target ← Task.ofOutcome config.requireTarget
  let dir ← target.create now initialMode
  let linkDest ← target.latest
  let plan : Transfer.Plan :=
    { delete := true, dryRun := options.dryRun, linkDest := linkDest.map (·.bytes),
      options := config.options, extraOptions := config.snapshotOptions,
      source := config.source.bytes, destination := dir.bytes }
  transfer (plan.arguments (← Task.verbosity))
  if options.dryRun then
    Task.alter (·.removeDirAll dir)
  else
    Task.alter (·.chmod dir config.permission)
    target.setLatest dir
  let purged ← if options.trim then
      some <$> Retention.trimSnapshots target config.retention (← clockStamp) options.dryRun
    else pure none
  pure { path := dir, purged := purged }

/-- Take one snapshot of the configured source, named after `now`. -/
def takeSnapshot (config : Config) (now : Stamp) (options : SnapshotOptions) :
    Task SnapshotOutcome :=
  takeSnapshotWith Transfer.runPlanned config now options

end BackupRotation.Snapshot
