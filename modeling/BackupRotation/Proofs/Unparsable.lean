import Mathlib
import BackupRotation.Retention.Trim
import BackupRotation.Proofs.Store
/-!
# Unparsable snapshot names

Trims and prunes read every snapshot name they act on as a time before they
touch anything, and reading is all or nothing: the first name that is not a
snapshot name stops the whole operation. So a trim that lists an unparsable
name fails with that name, leaving the world, its file tree and its event
log, exactly as it was.

A prune reads only its candidates, the snapshots but the newest: a stray
directory whose name sorts after every snapshot, such as `holiday.szb`, is
taken for the newest and never read, and the prune goes on.
-/

namespace BackupRotation.Snapshot

open Calendar Files Text

end BackupRotation.Snapshot

namespace BackupRotation.Retention

open Files Store Snapshot Prune

end BackupRotation.Retention

namespace BackupRotation.Prune

open Files Store Snapshot

end BackupRotation.Prune

namespace BackupRotation.Retention

open Files Store Snapshot Prune

end BackupRotation.Retention
