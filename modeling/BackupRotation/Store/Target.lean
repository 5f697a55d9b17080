import BackupRotation.World
import BackupRotation.Snapshot.Name
/-!
# The snapshot store

A target is the directory that holds every snapshot of one source, next to
a symbolic link `latest` naming the newest complete one. A target is valid
when it is a directory and either carries that link or is still empty, so
that a directory full of unrelated files is never adopted, and so that a
snapshot left without a link by a failed copy blocks the next one until
someone looks.

The link holds only the base name of the snapshot, so it resolves inside
the target wherever the target is mounted.

Snapshots are the real directories of the target whose names end in
`.szb`, in name order; links are never snapshots, whatever they lead to.
Names are not parsed here, so a stray `holiday.szb` is listed and only
fails where a time is needed.
-/

namespace BackupRotation.Store

open Files Calendar Text

/-- Fail unless a path leads to a directory: a missing path and a path that
is something else are told apart. -/
def ensureDirectory (path : PathName) : Task Unit := do
  match (← get).files.metadata path with
  | .ok node => if node.isDirectory then pure () else throw (.notADirectory path.bytes)
  | .error .notFound => throw (.directoryNotFound path.bytes)
  | .error e => throw (.io (.os e))

/-- Whether a directory has no entries. -/
def isEmptyDirectory (path : PathName) : Task Bool := do
  let entries ← Task.ask (·.readDir path)
  pure entries.isEmpty

/-- Whether a directory name is a snapshot name, which is any name with the
snapshot extension at its end. -/
def isSnapshotName (name : Bytes) : Bool :=
  (encode Snapshot.extension).isSuffixOf name

/-- A directory holding a series of snapshots. -/
structure Target where
  root : PathName
deriving DecidableEq, Repr

namespace Target

/-- Where the `latest` link lives, whether or not it exists. -/
def latestLink (target : Target) : PathName := target.root.joinText Snapshot.latestLinkName

/-- Whether the `latest` link is present; anything else under that name is
an invalid target. -/
def hasLatest (target : Target) : Task Bool := do
  let link := target.latestLink
  match (← get).files.linkMetadata link with
  | .ok (.link _) => pure true
  | .ok _ => throw (.invalidLatest link.bytes)
  | .error .notFound => pure false
  | .error e => throw (.io (.os e))

/-- Check that the target is usable. -/
def validate (target : Target) : Task Unit := do
  ensureDirectory target.root
  if !(← target.hasLatest) then
    if !(← isEmptyDirectory target.root) then throw (.targetNotEmpty target.root.bytes)

/-- Open a target, checking it. -/
def openAt (root : PathName) : Task Target := do
  let target : Target := ⟨root⟩
  target.validate
  pure target

/-- The snapshot `latest` names, joined to the root without checking it. -/
def latest (target : Target) : Task (Option PathName) := do
  if !(← target.hasLatest) then return none
  let contents ← Task.ask (·.readLink target.latestLink)
  pure (some (target.root.join ⟨contents⟩))

/-- Create the directory of a new snapshot, and any missing parent, with
`mode` less the umask. -/
def create (target : Target) (time : Stamp) (mode : Nat) : Task PathName := do
  target.validate
  let dir := target.root.joinText (Snapshot.formatName time)
  match (← get).files.metadata dir with
  | .ok _ => throw (.snapshotExists dir.bytes)
  | .error .notFound => pure ()
  | .error e => throw (.io (.os e))
  Task.label ("create snapshot " ++ dir.display) (Task.alter (·.createDirAll dir mode))
  pure dir

/-- Point `latest` at a snapshot directory, replacing any old link. -/
def setLatest (target : Target) (path : PathName) : Task Unit := do
  ensureDirectory path
  let base ← match path.fileName with
    | some base => pure base
    | none => throw (.notADirectory path.bytes)
  let link := target.latestLink
  match (← get).files.unlink link with
  | .ok files => modify fun world => { world with files := files }
  | .error .notFound => pure ()
  | .error e => throw (.context ("remove " ++ link.display) (.io (.os e)))
  Task.label ("link " ++ link.display ++ " to " ++ path.display) (Task.alter (·.symlink base link))

/-- The snapshot directories of the target, in name order. -/
def snapshots (target : Target) : Task (List PathName) := do
  let entries ← Task.ask (·.readDir target.root)
  pure (entries.filterMap fun (name, node) =>
    if isSnapshotName name && node.isDirectory then some (target.root.join ⟨name⟩) else none)

end Target

end BackupRotation.Store
