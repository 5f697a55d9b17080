import BackupRotation.Process.Spawn
/-!
# Running helper programs

The program leaves copying and measuring to helper programs, run to
completion one at a time. A helper either has its output passed through, or
has its standard output captured as text. Either way, a helper that cannot
be started, or that ends other than with status zero, is a failure naming
the whole command line; captured output that is not UTF-8 is a failure
too, carrying the output with its invalid bytes replaced.
-/

namespace BackupRotation.Process

open Text

/-- A command line as shown to the user: program and arguments separated by
spaces, bytes that are not UTF-8 replaced. -/
def describeCommand (program : String) (arguments : List Bytes) : String :=
  String.join ([program] ++ arguments.map fun argument => " " ++ lossy argument)

/-- Run a program to completion; its output is what a finished run left.
What it wrote on the streams it shares with the run is passed through
before its status is judged, as a failing helper has usually said why:
standard error always, standard output when `forwarded`. -/
def runProgram (program : String) (args : List Bytes) (forwarded : Bool) : Task Output := do
  let command := describeCommand program args
  match spawn (← get) (encode program) args with
  | .error e => throw (.commandIo command (.os e))
  | .ok (output, world) =>
      set world
      Task.passThrough (if forwarded then lossy output.stdout else "") (lossy output.stderr)
      if !output.status.success then throw (.commandFailed command output.status)
      pure output

/-- Run a program, its output passed through. -/
def runForwarding (program : String) (args : List Bytes) : Task Unit := do
  let _ ← runProgram program args true

/-- Run a program and return its standard output as text. -/
def captureStdout (program : String) (args : List Bytes) : Task String := do
  let output ← runProgram program args false
  match utf8? output.stdout with
  | some text => pure text
  | none => throw (.unexpectedOutput (describeCommand program args) (lossy output.stdout))

end BackupRotation.Process
