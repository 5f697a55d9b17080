import BackupRotation.Store.Target
import BackupRotation.Snapshot.Entry
/-!
# Deleting snapshots

Snapshots are often read-only, since the configured permission is applied
after each copy, so every directory of a doomed snapshot is first made
owner-writable and only then removed. A snapshot that is a symbolic link is
removed as a link and never entered.

A purge walks the snapshots oldest first with one decision each. Deletions
are never rolled back: when one fails the purge stops, and the failure
reports how many deletions succeeded before it. Every snapshot handled
without error is reported as an event, kept or purged, also in a dry run,
where nothing is touched.
-/

namespace BackupRotation.Prune

open Files Store Snapshot Report

/-- Mode given to every directory of a snapshot before it is deleted. -/
def modeToDelete : Nat := 0o700

/-- The snapshots a prune or trim may consider: at least two, since the
newest is never deleted. -/
def existingSnapshots (target : Target) : Task (List PathName) := do
  let dirs ← target.snapshots
  match dirs with
  | [] => throw (.noBackups target.root.bytes)
  | [_] => throw (.onlyLatest target.root.bytes)
  | _ => pure dirs

/-- Give a tree's root and every directory in it a mode; a root that is a
link is left alone. -/
def makeTreeWritable (root : PathName) (mode : Nat) : Task Unit := do
  let node ← Task.ask (·.linkMetadata root)
  if node.isLink then return
  Task.alter (·.chmod root mode)
  let top ← Task.ask (·.locate root true)
  modify fun world => { world with files := world.files.chmodDirectoriesBelow top mode }

/-- Delete one snapshot directory whatever its permissions. -/
def deleteSnapshot (path : PathName) : Task Unit := do
  makeTreeWritable path modeToDelete
  Task.alter (·.removeDirAll path)

/-- Visit snapshots with their decisions, after `purged` deletions. -/
def purgeEach (dryRun : Bool) : Nat → List (Entry × Bool) → Task Nat
  | purged, [] => pure purged
  | purged, (entry, marked) :: rest => do
      let deleted ← if marked && !dryRun then
          tryCatch (do deleteSnapshot entry.path; pure 1) fun cause =>
            match cause with
            | .panic _ => throw cause
            | _ => throw (.purgeFailed purged entry.path.bytes cause)
        else pure 0
      Task.report
        { path := entry.path.bytes, time := entry.time,
          action := if marked then .purged else .kept, dryRun := dryRun }
      purgeEach dryRun (purged + deleted) rest

/-- Apply removal decisions, oldest first; the number of snapshots deleted. -/
def purge (entries : List Entry) (remove : List Bool) (dryRun : Bool) : Task Nat := do
  if entries.length != remove.length then
    throw (.internal (toString remove.length ++ " removal decisions for " ++
      toString entries.length ++ " snapshots"))
  purgeEach dryRun 0 (entries.zip remove)

end BackupRotation.Prune
