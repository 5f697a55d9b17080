import BackupRotation.Prune.Oldest
import BackupRotation.Proofs.Task
/-!
# Listing a target

A trim and a prune start the same way: they list the snapshot directories of
the target and refuse to go on with fewer than two. This module computes
those first steps as runs. Listing only reads the file system, so every run
below ends in the world it started from.
-/

namespace BackupRotation.Files

open Text

/-- Listing a directory reached by a path gives its children. -/
theorem FileSystem.readDir_of_resolve {fs : FileSystem} {path : PathName} {key : Key} {mode : Nat}
    (resolved : fs.resolve path true = .ok (.found key (.directory mode))) :
    fs.readDir path = .ok (fs.children key) := by
  simp [FileSystem.readDir, resolved, bind, Except.bind, pure, Except.pure]

end BackupRotation.Files

namespace BackupRotation.Store

open Files

/-- The snapshot directories among the entries of a target's root. -/
def Target.snapshotsOf (target : Target) (entries : List (Text.Bytes × Node)) : List PathName :=
  entries.filterMap fun (name, node) =>
    if isSnapshotName name && node.isDirectory then some (target.root.join ⟨name⟩) else none

/-- Listing the snapshots of a target reads its root and changes nothing. -/
theorem Target.run_snapshots_of_readDir {target : Target} {world : World}
    {entries : List (Text.Bytes × Node)} (listing : world.files.readDir target.root = .ok entries) :
    target.snapshots.run world = (.ok (target.snapshotsOf entries), world) := by
  unfold Target.snapshots
  rw [Task.run_bind, Task.run_ask, listing]
  rfl

/-- Listing the snapshots of a target only reads the file system. -/
theorem Target.snapshots_keeps_world (target : Target) (world : World) :
    ∃ outcome, target.snapshots.run world = (outcome, world) := by
  unfold Target.snapshots
  rw [Task.run_bind, Task.run_ask]
  cases world.files.readDir target.root with
  | ok entries => exact ⟨_, rfl⟩
  | error e => exact ⟨_, rfl⟩

/-- A listing that succeeded, as a run. -/
theorem Target.run_snapshots {target : Target} {world : World} {dirs : List PathName}
    (listed : (target.snapshots.run world).1 = .ok dirs) :
    target.snapshots.run world = (.ok dirs, world) := by
  obtain ⟨outcome, ran⟩ := Target.snapshots_keeps_world target world
  rw [ran] at listed ⊢
  rw [show outcome = .ok dirs from listed]

theorem ensureDirectory_readOnly (path : PathName) : Task.ReadOnly (ensureDirectory path) := by
  unfold ensureDirectory
  refine Task.readOnly_bind Task.readOnly_get fun world => ?_
  split
  · split
    · exact Task.readOnly_pure _
    · exact Task.readOnly_throw _
  · exact Task.readOnly_throw _
  · exact Task.readOnly_throw _

theorem Target.hasLatest_readOnly (target : Target) : Task.ReadOnly target.hasLatest := by
  unfold Target.hasLatest
  refine Task.readOnly_bind Task.readOnly_get fun world => ?_
  split
  · exact Task.readOnly_pure _
  · exact Task.readOnly_throw _
  · exact Task.readOnly_pure _
  · exact Task.readOnly_throw _

theorem Target.validate_readOnly (target : Target) : Task.ReadOnly target.validate := by
  unfold Target.validate
  refine Task.readOnly_bind (ensureDirectory_readOnly _) fun _ => ?_
  refine Task.readOnly_bind (Target.hasLatest_readOnly _) fun present => ?_
  split
  · refine Task.readOnly_bind (Task.readOnly_bind (Task.readOnly_ask _) fun _ => Task.readOnly_pure _) fun empty => ?_
    split
    · exact Task.readOnly_throw _
    · exact Task.readOnly_pure _
  · exact Task.readOnly_pure _

end BackupRotation.Store

namespace BackupRotation.Prune

open Files Store

/-- With two snapshots or more, the snapshots a trim or prune may consider are
all of them, and nothing changes. -/
theorem run_existingSnapshots {target : Target} {world : World} {dirs : List PathName}
    (listed : (target.snapshots.run world).1 = .ok dirs) (several : 2 ≤ dirs.length) :
    (existingSnapshots target).run world = (.ok dirs, world) := by
  unfold existingSnapshots
  rw [Task.run_bind_ok (Target.run_snapshots listed)]
  match dirs, several with
  | _ :: _ :: _, _ => rfl

/-- The candidates of a prune are the snapshots but the newest. -/
theorem run_loadCandidates {target : Target} {world : World} {dirs : List PathName}
    (listed : (target.snapshots.run world).1 = .ok dirs) (several : 2 ≤ dirs.length) :
    (loadCandidates target).run world = (.ok dirs.dropLast, world) := by
  unfold loadCandidates
  rw [Task.run_bind_ok (run_existingSnapshots listed several)]
  rfl

end BackupRotation.Prune
