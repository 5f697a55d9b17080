import BackupRotation.Report.Usage
import BackupRotation.Report.Status
/-!
# Measuring a target

The status report counts the snapshots of a target and measures the whole
target once and every snapshot on its own, oldest first. A target without
snapshots has nothing to report, and says so before any helper runs.
-/

namespace BackupRotation.Report

open Files Store Text

/-- Measure a target without labelling failures. -/
def measure (target : Target) : Task StatusReport := do
  let dirs ← target.snapshots
  if dirs.isEmpty then throw (.noBackups target.root.bytes)
  let total ← diskUsage target.root
  let sizes ← dirs.mapM fun dir => do
    let bytes ← diskUsage dir
    pure ({ name := lossy (dir.fileName.getD []), bytes := bytes } : SnapshotSize)
  pure { target := target.root.display, backupSets := sizes.length, totalBytes := total,
         snapshots := sizes }

/-- The status report of a target. -/
def buildStatus (target : Target) : Task StatusReport :=
  Task.label "status error" (measure target)

end BackupRotation.Report
