import BackupRotation.Cli.Invocation
import BackupRotation.Snapshot.Take
import BackupRotation.Snapshot.Restore
import BackupRotation.Settings.Template
import BackupRotation.Prune.Oldest
import BackupRotation.Report.Measure
/-!
# Running the program

A run reads its command line and either stops there, printing help, the
version or a complaint, or runs one command. Progress goes to standard
output through a console on the terminal, which helper programs share; the
reports a command was asked for are printed whatever the verbosity. A
command that fails prints `Error: ` and the failure on standard error and
ends with status 1; a complaint about the command line ends with status 2.

The commands that delete snapshots measure the target before and after, and
a failure while deleting says how many snapshots were already gone.
-/

namespace BackupRotation.Cli

open Files Store Settings Snapshot Report Prune Text

/-- The end of a run: its exit status and what it wrote on its two
streams. -/
structure Exit where
  code : Nat
  stdout : String
  stderr : String
deriving Repr

/-- What a command line leads to: an early end, or a request to run. -/
inductive Plan where
  | halt (exit : Exit)
  | run (request : Request)
deriving Repr

/-- Read a command line, the program name left out. -/
def plan (words : List String) : Plan :=
  match readLine program words with
  | .error (.printed text) => .halt { code := 0, stdout := text, stderr := "" }
  | .error (.refused text) => .halt { code := 2, stdout := "", stderr := text }
  | .ok parsed =>
      match parsed.request? with
      | some request => .run request
      | none => .halt { code := 2, stdout := "", stderr := (program.top).helpText }

/-- The line announcing a prune. -/
def pruneHeading : DeleteCount → String
  | .all => "Purging all but the latest backup"
  | .oldest 1 => "Purging oldest backup"
  | .oldest n => "Purging " ++ toString n ++ " oldest backups"

/-- Label the failure of a deleting task with the operation and the number
of snapshots deleted before it failed. -/
def withPurged {α : Type} (operation : String) (task : Task α) : Task α :=
  tryCatch task fun failure =>
    match failure with
    | .panic _ => throw failure
    | _ =>
        throw (.context (operation ++ " (Purged: " ++ formatCount (failure.purgedCount.getD 0) ++ ")")
          failure)

/-- Report the bytes a deletion recovered. -/
def reportRecovered (before after : Nat) : Task Unit :=
  modify fun world => { world with console := world.console.recovered before after }

/-- Report the bytes a snapshot used. -/
def reportUsed (before after : Nat) : Task Unit :=
  modify fun world => { world with console := world.console.used before after }

/-- The target of loaded settings, which the loading made sure of. -/
def targetOf (config : Config) : Task Target := Task.ofOutcome config.requireTarget

/-- Write a file by writing a sibling with the extension `tmp` and renaming
it into place, so that the file appears whole or not at all. -/
def writeWhole (path : PathName) (content : Bytes) : Task Unit := do
  let temporary := path.withExtension "tmp"
  Task.alter (·.writeFile temporary content)
  Task.alter (·.rename temporary path)

/-- Whether anything, even a dangling link, is at a path. -/
def occupied (path : PathName) : Task Bool := do
  match (← get).files.linkMetadata path with
  | .ok _ => pure true
  | .error _ => pure false

/-- Write the default settings, to standard output or to a new file. -/
def createSettings (source : PathName) (output target : Option PathName) : Task Unit := do
  let text ← Settings.create source target
  match output with
  | none => Task.print text
  | some path =>
      if ← occupied path then throw (.outputExists path.bytes)
      writeWhole path (encode text)
      Task.print ("✓ successfully created: " ++ path.display ++ "\n")

/-- One snapshot with its report; `purgedBefore` counts the snapshots an
earlier round of a repeating run deleted, which a failure reports too. -/
def snapshotRound (config : Config) (options : SnapshotOptions) (purgedBefore : Nat) :
    Task Nat :=
  tryCatch (do
    let target ← targetOf config
    let before ← diskUsage target.root
    let taken ← takeSnapshot config (← clockStamp) options
    let after ← diskUsage target.root
    let purged := match taken.purged with
      | some count => " (Purged: " ++ formatCount count ++ ")"
      | none => ""
    Task.succeed ("snapshot successful" ++ purged ++ dryRunMarker options.dryRun)
    reportUsed before after
    pure (purgedBefore + taken.purged.getD 0)) fun failure =>
      match failure with
      | .panic _ => throw failure
      | _ =>
          if options.trim then
            let total := purgedBefore + failure.purgedCount.getD 0
            throw (.context ("snapshot error (Total Purged: " ++ formatCount total ++ ")") failure)
          else throw (.context "snapshot error" failure)

/-- Delete the oldest snapshots, reporting the space recovered. -/
def pruneCommand (config : PathName) (count : String) (dryRun : Bool)
    (target : Option PathName) : Task Unit := do
  let count ← Task.ofOutcome (DeleteCount.parse count)
  let settings ← loadWithOverride config target
  let target ← targetOf settings
  let before ← diskUsage target.root
  Task.say (pruneHeading count ++ dryRunMarker dryRun)
  let purged ← withPurged "prune error" (pruneOldest target count dryRun)
  let after ← diskUsage target.root
  Task.succeed ("prune successful (Purged: " ++ formatCount purged ++ ")" ++ dryRunMarker dryRun)
  reportRecovered before after

/-- Apply the retention policy at the wall clock, reporting the space
recovered. -/
def trimCommand (config : PathName) (dryRun : Bool) (target : Option PathName) : Task Unit := do
  let settings ← loadWithOverride config target
  let target ← targetOf settings
  let before ← diskUsage target.root
  let purged ← withPurged "trim error"
    (Retention.trimSnapshots target settings.retention (← clockStamp) dryRun)
  let after ← diskUsage target.root
  Task.succeed ("trim successful (Purged: " ++ formatCount purged ++ ")" ++ dryRunMarker dryRun)
  reportRecovered before after

/-- Run one command. -/
def execute : Invocation → Task Unit
  | .create source output target => createSettings source output target
  | .snapshot config dryRun trim _ target => do
      let settings ← loadWithOverride config target
      let _ ← snapshotRound settings { dryRun := dryRun, trim := trim } 0
  | .restore config snapshot dryRun keep target => do
      let settings ← loadWithOverride config target
      Snapshot.restore settings { snapshot := snapshot, dryRun := dryRun, keep := keep }
      Task.print ("✓ restore successful" ++ dryRunMarker dryRun ++ "\n")
  | .prune config count dryRun target => pruneCommand config count dryRun target
  | .trim config dryRun target => trimCommand config dryRun target
  | .status config json target => do
      let settings ← loadWithOverride config target
      let report ← buildStatus (← targetOf settings)
      if json then Task.print (report.json.pretty 0 ++ "\n")
      else Task.print ("✓ status successful\n\n" ++ report.text)
  | .vet config json => do
      let settings ← Task.label "vet error" (Settings.load config)
      if json then Task.print (settings.json.pretty 0 ++ "\n")
      else Task.print "✓ vet successful (no problems found)\n"

/-- What an aborted run writes on standard error. -/
def abortReport (message : String) : String := "thread 'main' panicked:\n" ++ message ++ "\n"

/-- Run a request on a world, with the console on the terminal. -/
def runRequest (request : Request) (world : World) : Exit × World :=
  let start := { world with console := { verbosity := request.verbosity, onTerminal := true },
                            events := [], errors := "" }
  let (outcome, after) := (execute request.invocation).run start
  let exit : Exit := match outcome with
    | .ok _ => { code := 0, stdout := after.console.text, stderr := after.errors }
    | .error (.panic message) =>
        { code := 101, stdout := after.console.text, stderr := after.errors ++ abortReport message }
    | .error failure =>
        { code := 1, stdout := after.console.text,
          stderr := after.errors ++ "Error: " ++ failure.render ++ "\n" }
  (exit, after)

/-- Run the program with a command line on a world. -/
def invoke (words : List String) (world : World) : Exit × World :=
  match plan words with
  | .halt exit => (exit, world)
  | .run request => runRequest request world

end BackupRotation.Cli
