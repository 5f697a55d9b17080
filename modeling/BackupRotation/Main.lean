import BackupRotation.Cli.Run
import BackupRotation.Scenes.Machine
import Std.Time.DateTime.Timestamp
/-!
# The command line

`szbck` runs one command line of the backup program on the machine model
that scenes start from: an empty working directory, the standard helper
programs, coordinated universal time and the wall clock. What the program
writes goes to the two standard streams and its status is the exit code.
Everything the command does is decided by `Cli.invoke`; this layer only
gathers the arguments and the clock and hands back the result.
-/

open BackupRotation

/-- Run the program once. -/
def main (args : List String) : IO UInt32 := do
  let now ← Std.Time.Timestamp.now
  let world := Scenes.initialWorld Calendar.Zone.utc ⟨now.toSecondsSinceUnixEpoch.val, 0⟩
  let (exit, _) := Cli.invoke args world
  IO.print exit.stdout
  IO.eprint exit.stderr
  pure exit.code.toUInt32
