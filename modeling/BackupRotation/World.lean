import BackupRotation.Files.Calls
import BackupRotation.Calendar.Zone
import BackupRotation.Report.Console
/-!
# The world a run acts on

Besides its arguments, a run of the program depends on the file system, on
the directories searched for helper programs, on the local time zone and on
the wall clock, and it leaves behind what it printed and the purge events it
reported. A `World` holds all of these, and a `Task` is a computation that
reads and changes a world and may fail.

A failed task keeps the world as it was at the failure: a purge that
deleted two snapshots before the third refused still deleted two, and a
snapshot directory created before the copy failed stays. This is why a task
is a failure over a state rather than a state over a failure.
-/

namespace BackupRotation

open Files Calendar Report Text

/-- The helper programs the machine has installed. -/
inductive Tool where
  /-- The file-tree synchronizer. -/
  | transfer
  /-- The disk-usage counter. -/
  | usage
  /-- The command interpreter that runs scripts. -/
  | shell
  /-- The program that looks a command up on the search path and runs it,
  named on the first line of scripts that do not name their interpreter's
  place. -/
  | environment
deriving DecidableEq, Repr

/-- Everything outside the program's arguments that a run reads or changes. -/
structure World where
  files : FileSystem
  /-- Directories searched, in order, for a program named without a slash. -/
  searchPath : List PathName
  /-- Installed helper programs, by the place of their executable. -/
  tools : List (Key × Tool)
  zone : Zone
  /-- The wall clock. -/
  clock : Instant
  console : Console
  /-- Purge events reported so far, oldest first. -/
  events : List PruneEvent := []
  /-- What helper programs wrote on the standard error stream they share
  with the run. -/
  errors : String := ""
deriving Repr

/-- A computation over the world that may fail, keeping the world it reached. -/
abbrev Task := ExceptT Failure (StateM World)

namespace Task

/-- Run a task from a world. -/
def run {α : Type} (task : Task α) (world : World) : Outcome α × World :=
  (ExceptT.run task).run world

/-- Ask the file system a question; its error becomes an I/O failure. -/
def ask {α : Type} (query : FileSystem → Except OsError α) : Task α := do
  match query (← get).files with
  | .ok value => pure value
  | .error e => throw (.io (.os e))

/-- Change the file system; its error becomes an I/O failure. -/
def alter (change : FileSystem → Change) : Task Unit := do
  let world ← get
  match change world.files with
  | .ok files => set { world with files := files }
  | .error e => throw (.io (.os e))

/-- The local time zone. -/
def zone : Task Zone := do pure (← get).zone

/-- Write a line on the console. -/
def say (text : String) : Task Unit :=
  modify fun world => { world with console := world.console.line text }

/-- Write text on the console whatever its verbosity. -/
def print (text : String) : Task Unit :=
  modify fun world => { world with console := world.console.print text }

/-- Pass a helper program's standard output and standard error through to
the streams the run shares with it. -/
def passThrough (stdout stderr : String) : Task Unit :=
  modify fun world =>
    { world with console := world.console.passThrough stdout, errors := world.errors ++ stderr }

/-- Write a success line on the console. -/
def succeed (text : String) : Task Unit :=
  modify fun world => { world with console := world.console.success text }

/-- Report a purge event, on the console and to the event log. -/
def report (event : PruneEvent) : Task Unit :=
  modify fun world =>
    { world with console := world.console.record event, events := world.events ++ [event] }

/-- The console verbosity. -/
def verbosity : Task Verbosity := do pure (← get).console.verbosity

/-- Label the failure of a task; a panic passes unlabelled. -/
def label {α : Type} (text : String) (task : Task α) : Task α :=
  tryCatch task fun failure =>
    match failure with
    | .panic _ => throw failure
    | _ => throw (.context text failure)

/-- Lift an outcome into a task. -/
def ofOutcome {α : Type} (outcome : Outcome α) : Task α :=
  match outcome with
  | .ok value => pure value
  | .error failure => throw failure

end Task

end BackupRotation
