import BackupRotation.Report.Console
/-!
# Copy-tool arguments

Snapshots and restores are both a call to the copy tool `rsync` from one
directory to another. The arguments come in a fixed order: verbosity flags,
the configured options, `--delete`, `--dry-run`, `--link-dest=<dir>`, the
options of the particular operation, and finally source and destination.

Verbosity flags follow the console's verbosity, none when quiet, one
`--verbose` normally and two when more is wanted, unless the configured
options already decide how chatty the tool is.
-/

namespace BackupRotation.Transfer

open Report Text

/-- Name of the copy tool. -/
def toolName : String := "rsync"

/-- One copy: what to copy where, and how. -/
structure Plan where
  delete : Bool
  dryRun : Bool
  linkDest : Option Bytes
  options : List String
  extraOptions : List String
  source : Bytes
  destination : Bytes
deriving Repr

/-- Whether an option already decides the tool's verbosity. -/
def controlsOutput (option : String) : Bool :=
  option == "-v" || option == "--verbose" || option == "-q" || option == "--quiet" ||
    startsWith option "--info=" || startsWith option "--debug=" || startsWith option "--stderr="

/-- The `--verbose` flags a verbosity asks for. -/
def verbosityFlags : Verbosity → List String
  | .quiet => []
  | .normal => ["--verbose"]
  | .verbose => ["--verbose", "--verbose"]
  | .debug => ["--verbose", "--verbose"]

/-- The argument list of a copy. -/
def Plan.arguments (plan : Plan) (verbosity : Verbosity) : List Bytes :=
  let configured := (plan.options ++ plan.extraOptions).any controlsOutput
  let flags := if configured then [] else verbosityFlags verbosity
  (flags ++ plan.options).map encode ++
    (if plan.delete then [encode "--delete"] else []) ++
    (if plan.dryRun then [encode "--dry-run"] else []) ++
    (match plan.linkDest with
      | some dir => [encode "--link-dest=" ++ dir]
      | none => []) ++
    plan.extraOptions.map encode ++ [plan.source, plan.destination]

end BackupRotation.Transfer
