import BackupRotation.Snapshot.Name
import BackupRotation.Files.PathName
import BackupRotation.Failure
/-!
# Snapshot entries

An entry is a snapshot directory together with the time its name encodes.
Building entries from paths is all or nothing: the first path whose last
component is not a snapshot name stops the whole list, so that no decision
is ever taken on a partial view of a target.
-/

namespace BackupRotation.Snapshot

open Calendar Files Text

/-- A snapshot directory and the time in its name. -/
structure Entry where
  path : PathName
  time : Stamp
deriving DecidableEq, Repr

/-- The entry of a path whose last component is a UTF-8 snapshot name. -/
def Entry.ofPath (zone : Zone) (path : PathName) : Outcome Entry :=
  match path.fileName with
  | some name =>
      if isUtf8 name then
        match parseName? zone name with
        | some time => .ok { path := path, time := time }
        | none => .error (.invalidSnapshotName path.bytes)
      else .error (.invalidSnapshotName path.bytes)
  | none => .error (.invalidSnapshotName path.bytes)

/-- Entries of all paths, or the failure of the first that is no snapshot. -/
def entriesOfPaths (zone : Zone) : List PathName → Outcome (List Entry)
  | [] => .ok []
  | path :: rest => do
      let entry ← Entry.ofPath zone path
      let others ← entriesOfPaths zone rest
      pure (entry :: others)

end BackupRotation.Snapshot
