import BackupRotation.Cli.Parse
import BackupRotation.Report.Console
import BackupRotation.Files.PathName
/-!
# What the command line asks for

A command line that was read to the end names one command with its
arguments, and a verbosity. The program-wide options may be given before
the command or after it: given after it they win, and otherwise the ones
before it count. `-q` makes the run quiet whatever `-v` says.
-/

namespace BackupRotation.Cli

open Files Report

/-- A command with its arguments. -/
inductive Invocation where
  /-- Print, or write to `output`, the default settings for `source`. -/
  | create (source : PathName) (output target : Option PathName)
  /-- Take a snapshot of the configured source. -/
  | snapshot (config : PathName) (dryRun trim daemon : Bool) (target : Option PathName)
  /-- Restore the source from the snapshot path `snapshot` below the target. -/
  | restore (config : PathName) (snapshot : Option PathName) (dryRun keep : Bool)
      (target : Option PathName)
  /-- Delete the oldest snapshots. -/
  | prune (config : PathName) (count : String) (dryRun : Bool) (target : Option PathName)
  /-- Apply the retention policy. -/
  | trim (config : PathName) (dryRun : Bool) (target : Option PathName)
  /-- Report the snapshots and their sizes. -/
  | status (config : PathName) (json : Bool) (target : Option PathName)
  /-- Check a settings file. -/
  | vet (config : PathName) (json : Bool)
deriving Repr

/-- A command to run and how much to say while running it. -/
structure Request where
  verbosity : Verbosity
  invocation : Invocation
deriving Repr

namespace Parsed

/-- How many times `-v` counts: after the command if it appears there. -/
def verboseCount (parsed : Parsed) : Nat :=
  if parsed.own.has "verbose" then parsed.own.times "verbose" else parsed.top.times "verbose"

/-- The verbosity asked for. -/
def verbosity (parsed : Parsed) : Verbosity :=
  Verbosity.ofFlags parsed.verboseCount (parsed.own.flag "quiet" || parsed.top.flag "quiet")

/-- The path given for an option. -/
def path? (parsed : Parsed) (id : String) : Option PathName :=
  (parsed.own.value? id).map PathName.ofString

/-- The path given as a positional argument, which the reading made sure of. -/
def path (parsed : Parsed) (id : String) : PathName := PathName.ofString ((parsed.own.value? id).getD "")

/-- The invocation, for every command but `help`. -/
def invocation? (parsed : Parsed) : Option Invocation :=
  let own := parsed.own
  match parsed.command.name with
  | "create" => some (.create (parsed.path "source") (parsed.path? "output") (parsed.path? "target"))
  | "snapshot" =>
      some (.snapshot (parsed.path "config") (own.flag "dry_run") (own.flag "trim")
        (own.flag "daemon") (parsed.path? "target"))
  | "restore" =>
      some (.restore (parsed.path "config") (parsed.path? "snapshot") (own.flag "dry_run")
        (own.flag "keep") (parsed.path? "target"))
  | "prune" =>
      some (.prune (parsed.path "config") ((own.value? "count").getD "1") (own.flag "dry_run")
        (parsed.path? "target"))
  | "trim" => some (.trim (parsed.path "config") (own.flag "dry_run") (parsed.path? "target"))
  | "status" => some (.status (parsed.path "config") (own.flag "json") (parsed.path? "target"))
  | "vet" => some (.vet (parsed.path "config") (own.flag "json"))
  | _ => none

/-- The request a command line makes. -/
def request? (parsed : Parsed) : Option Request :=
  parsed.invocation?.map fun invocation => { verbosity := parsed.verbosity, invocation := invocation }

end Parsed

end BackupRotation.Cli
