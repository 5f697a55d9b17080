import BackupRotation.Calendar.Render
import BackupRotation.Text.Decimal
import BackupRotation.Text.Utf8
/-!
# The console

What the program tells its user goes through a `Console`: plain lines,
success lines marked with a check mark, byte totals before and after an
operation, and one line per snapshot kept or purged. A quiet console drops
everything; errors are reported elsewhere.

The console is a value that collects what it is given, so that what a
command prints is part of its result. Results themselves, such as a report
asked for, are printed whatever the verbosity.
-/

namespace BackupRotation.Report

open Calendar Text

/-- How much the user wants to hear. -/
inductive Verbosity where
  | quiet
  | normal
  | verbose
  | debug
deriving DecidableEq, Repr, Inhabited

namespace Verbosity

/-- Verbosity from the count of `-v` flags and the `-q` flag, which wins. -/
def ofFlags (verbose : Nat) (quiet : Bool) : Verbosity :=
  if quiet then .quiet
  else match verbose with
    | 0 => .normal
    | 1 => .verbose
    | _ => .debug

/-- The lowest level of diagnostics shown at this verbosity. -/
def filter : Verbosity → String
  | .quiet => "error"
  | .normal => "warn"
  | .verbose => "info"
  | .debug => "debug"

/-- Name of the verbosity. -/
def name : Verbosity → String
  | .quiet => "Quiet"
  | .normal => "Normal"
  | .verbose => "Verbose"
  | .debug => "Debug"

/-- The verbosity of a name. -/
def ofName? : String → Option Verbosity
  | "Quiet" => some .quiet
  | "Normal" => some .normal
  | "Verbose" => some .verbose
  | "Debug" => some .debug
  | _ => none

end Verbosity

/-- What happened to a snapshot during a purge. -/
inductive PruneAction where
  | kept
  | purged
deriving DecidableEq, Repr

/-- Lower-case name of an action. -/
def PruneAction.name : PruneAction → String
  | .kept => "kept"
  | .purged => "purged"

/-- The record of one snapshot visited by a purge. -/
structure PruneEvent where
  path : Bytes
  time : Stamp
  action : PruneAction
  dryRun : Bool
deriving DecidableEq, Repr

/-- Marker appended to reports of a dry run. -/
def dryRunMarker (dryRun : Bool) : String := if dryRun then " (DRY RUN)" else ""

/-- What has been written so far, at a verbosity. A console on the
terminal shares its stream with the helper programs the run starts, so
their output lands between its lines; a console that is a buffer sees none
of it. -/
structure Console where
  verbosity : Verbosity
  onTerminal : Bool := false
  written : String := ""
deriving Repr

namespace Console

/-- A console with nothing written. -/
def empty (verbosity : Verbosity) : Console := { verbosity := verbosity }

/-- Write one line, unless the console is quiet. -/
def line (console : Console) (text : String) : Console :=
  if console.verbosity == .quiet then console
  else { console with written := console.written ++ text ++ "\n" }

/-- Write text whatever the verbosity, as results are written. -/
def print (console : Console) (text : String) : Console :=
  { console with written := console.written ++ text }

/-- Output of a helper program, which reaches a console on the terminal
whatever its verbosity and a buffer not at all. -/
def passThrough (console : Console) (text : String) : Console :=
  if console.onTerminal then console.print text else console

/-- Write a success line. -/
def success (console : Console) (text : String) : Console := console.line ("✓ " ++ text)

/-- Write a byte-total line. -/
def byteTotals (console : Console) (before after : Nat) (label : String) (difference : Int) :
    Console :=
  console.line ("  Before: " ++ formatCount (wrapToInt64 before) ++ " After: " ++
    formatCount (wrapToInt64 after) ++ " " ++ label ++ ": " ++ formatCount difference ++ " bytes")

/-- Report the bytes a deletion recovered. -/
def recovered (console : Console) (before after : Nat) : Console :=
  console.byteTotals before after "Total Recovered"
    (wrapDifference (wrapToInt64 before) (wrapToInt64 after))

/-- Report the bytes a snapshot used. -/
def used (console : Console) (before after : Nat) : Console :=
  console.byteTotals before after "Used" (wrapDifference (wrapToInt64 after) (wrapToInt64 before))

/-- The line of a purge event. -/
def eventLine (event : PruneEvent) : String :=
  (match event.action with
    | .purged => "Purging snapshot"
    | .kept => "Keeping snapshot") ++
    dryRunMarker event.dryRun ++ ": " ++ lossy event.path ++ ": " ++ event.time.renderLong

/-- Record a purge event. -/
def record (console : Console) (event : PruneEvent) : Console := console.line (eventLine event)

/-- Everything written. -/
def text (console : Console) : String := console.written

end Console

end BackupRotation.Report
