import BackupRotation.Text.Quote
import BackupRotation.Text.Decimal
/-!
# The status report

How many snapshots a target holds and how many bytes they take, in total
and one by one. The report is written as text for people and as JSON for
programs; the text passes every count through the thousands-separator
rendering of a signed 64-bit value, the JSON writes the counts as they are.
-/

namespace BackupRotation.Report

open Text

/-- Bytes taken by one snapshot. -/
structure SnapshotSize where
  name : String
  bytes : Nat
deriving Repr

/-- The usage report of a target. -/
structure StatusReport where
  target : String
  backupSets : Nat
  totalBytes : Nat
  snapshots : List SnapshotSize
deriving Repr

namespace StatusReport

/-- The text form: two count lines, a blank line, one line per snapshot. -/
def text (report : StatusReport) : String :=
  "Backup Sets: " ++ formatCount (wrapToInt64 report.backupSets) ++ "\n" ++
    "Total Bytes: " ++ formatCount (wrapToInt64 report.totalBytes) ++ "\n\n" ++
    String.join (report.snapshots.map fun size =>
      size.name ++ ": " ++ formatCount (wrapToInt64 size.bytes) ++ "\n")

/-- The JSON form. -/
def json (report : StatusReport) : JsonValue :=
  .object [("target", .str report.target),
    ("backupSets", .int report.backupSets),
    ("totalBytes", .int report.totalBytes),
    ("snapshots", .array (report.snapshots.map fun size =>
      .object [("name", .str size.name), ("bytes", .int size.bytes)]))]

end StatusReport

end BackupRotation.Report
