import BackupRotation.Transfer.Arguments
import BackupRotation.Process.Command
/-!
# Running a transfer

A transfer is announced on the console with its full command line, then
run with its output passed through.
-/

namespace BackupRotation.Transfer

open Process Text

/-- Announce and run the synchronizer with prepared arguments. -/
def runPlanned (args : List Bytes) : Task Unit := do
  Task.say ("Running command: " ++ describeCommand toolName args)
  runForwarding toolName args

end BackupRotation.Transfer
