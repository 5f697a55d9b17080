import BackupRotation.Store.Target
import BackupRotation.Process.Command
/-!
# Measuring disk usage

The bytes under a directory are counted by the disk-usage helper, run as
`du -s -b DIR`. Its answer is the text before the first tab, surrounding
whitespace removed, read as an unsigned 64-bit number; anything else is an
unexpected output. Files shared between snapshots through hard links are
counted once per run, so a whole target measures less than the sum of its
snapshots measured one by one.
-/

namespace BackupRotation.Report

open Files Process Store Text

/-- The name of the disk-usage helper. -/
def usageTool : String := "du"

/-- The byte count in the helper's answer. -/
def parseTotal (output : String) : Option Nat :=
  let field := output.toList.takeWhile (· != '\t')
  readUInt64? (String.ofList (trimChars field))

/-- Bytes used by the tree under a directory. -/
def diskUsage (dir : PathName) : Task Nat := do
  ensureDirectory dir
  let args := [encode "-s", encode "-b", dir.bytes]
  let output ← captureStdout usageTool args
  match parseTotal output with
  | some total => pure total
  | none => throw (.unexpectedOutput (describeCommand usageTool args) output)

end BackupRotation.Report
