import BackupRotation.Scenes.Machine
import BackupRotation.Snapshot.Take
import BackupRotation.Snapshot.Restore
import BackupRotation.Settings.Template
import BackupRotation.Prune.Oldest
import BackupRotation.Report.Measure
import BackupRotation.Cli.Run
/-!
# Scenes

A scene is a sequence of steps run against one machine: steps that set up
files, and steps that call one operation of the program each. Between steps
the scene remembers the target opened last, the settings read last and the
snapshot created last, so that later steps can act on them. A step that
fails leaves the machine as the failure left it, and the scene goes on.

Steps that need a target use the one opened last, or else the target of
the settings read last.
-/

namespace BackupRotation.Scenes

open Files Store Settings Snapshot Report Calendar Text

/-- One step of a scene. Paths are relative to the scratch directory unless
said otherwise. -/
inductive Step where
  | makeDirectory (path : Bytes)
  | writeFile (path : Bytes) (content : Bytes) (mode : Option Nat)
  | makeLink (target : Bytes) (link : Bytes)
  | remove (path : Bytes)
  | list
  | openTarget (path : Bytes)
  | validate
  | hasLatest
  | latest
  | create (time : Stamp) (mode : Nat)
  | setLatest (path : Option Bytes)
  | snapshots
  | existing
  | candidates
  /-- `spans` are the hourly and daily spans; without them the settings read
last give the policy. -/
  | trim (spans : Option (Span × Span)) (now : Stamp) (dryRun : Bool)
  | prune (count : String) (dryRun : Bool)
  | purge (paths : List Bytes) (remove : List Bool) (dryRun : Bool)
  | split (path : Bytes) (literal : Option Bytes)
  /-- `home` is used as given. -/
  | makeDirs (src : Bytes) (home : Bytes)
  | parseConfig (text : String)
  /-- `override` is absent, or present and possibly empty. -/
  | load (path : Bytes) (override : Option (Option Bytes))
  | configTarget
  | createConfig (source : Bytes) (target : Option Bytes)
  | snapshot (time : Stamp) (dryRun trim : Bool) (verbosity : Verbosity)
      (searchPath : Option (List Bytes))
  /-- `snapshot` is relative to the target. -/
  | restore (snapshot : Option Bytes) (dryRun keep : Bool) (verbosity : Verbosity)
      (searchPath : Option (List Bytes))
  | status (searchPath : Option (List Bytes))
  /-- The whole program with a command line, run in the scratch directory. -/
  | cli (args : List String) (searchPath : Option (List Bytes))

/-- What a step answers. -/
inductive Reply where
  | done
  | tree (entries : List (Bytes × String))
  | opened (root latestLink : Bytes)
  | flag (value : Bool)
  | latest (path : Option Bytes)
  | created (path : Bytes)
  | listing (paths : List Bytes)
  | purged (count : Nat) (events : List PruneEvent)
  | halves (root rest : Bytes)
  | restorePlan (source destination : Bytes)
  | settings (json : JsonValue)
  | configRoot (root : Bytes)
  | text (text : String)
  | snapshotTaken (path : Bytes) (purged : Option Nat) (output : String)
  | restored (output : String)
  | status (text json : String)
  | ran (code : Option Int) (stdout stderr : String)
  | failed (failure : Failure)
  | failedWithEvents (failure : Failure) (events : List PruneEvent)
  | failedWithOutput (failure : Failure) (output : String)
  | refused (message : String)

/-- The state a scene carries between steps. -/
structure Scene where
  world : World
  target : Option Target := none
  config : Option Config := none
  created : Option PathName := none

/-- A path of a step, joined to the scratch directory. -/
def inScratch (path : Bytes) : PathName := scratchRoot.join ⟨path⟩

/-- The search path of a step: directories given relative to the scratch
directory, or the machine's default. -/
def searchPathOf (given : Option (List Bytes)) : List PathName :=
  match given with
  | some dirs => dirs.map inScratch
  | none => defaultSearchPath

/-- Names of the snapshot command. A scene never runs that command, since
it names each snapshot after the wall clock: a command line whose first word
that is not an option is one of these, or that holds `--daemon` anywhere,
is refused. -/
def snapshotWords : List String := ["snapshot", "snap", "s"]

/-- Names of the status command, whose sizes come from the installed
disk-usage counter unless the scene supplies its own. -/
def statusWords : List String := ["status", "stat"]

/-- The description of one entry in a listing; a file its owner may not read
shows no content. -/
def describeNode : Node → String
  | .directory mode => "dir " ++ String.ofList (Nat.toDigits 8 mode)
  | .file mode content =>
      "file " ++ String.ofList (Nat.toDigits 8 mode) ++ " " ++
        (if mode &&& 0o400 = 0 then "" else lossy content)
  | .link target => "link -> " ++ lossy target

/-- Everything under the scratch directory, links not followed. -/
def listScratch (fs : FileSystem) : List (Bytes × String) :=
  (fs.below scratchKey).map fun (key, node) =>
    (((key.drop scratchKey.length).intersperse [slash]).flatten, describeNode node)

/-- A byte-total line with its numbers hidden, keeping its label:
`  Before: # After: # Total Recovered: # bytes`. -/
def maskTotalsLine (line : String) : String :=
  if startsWith line "  Before: " then
    let afterWord := (line.splitOn " After: ").drop 1
    let tail := " After: ".intercalate afterWord
    let labelled := String.ofList ((tail.toList.dropWhile (· != ' ')).drop 1)
    let pieces := labelled.splitOn ": "
    let label := ": ".intercalate (pieces.take (pieces.length - 1))
    "  Before: # After: # " ++ label ++ ": # bytes"
  else line

/-- Output with the numbers of every byte-total line hidden, as the sizes
the installed disk-usage counter reports are not fixed. -/
def maskTotals (text : String) : String :=
  "\n".intercalate ((text.splitOn "\n").map maskTotalsLine)

namespace Scene

/-- A fresh scene. -/
def start (zone : Zone) (clock : Instant) : Scene := { world := initialWorld zone clock }

/-- Run a task on the scene's machine with a fresh console at a verbosity,
no events and a search path; the machine keeps what the task did. -/
def perform {α : Type} (scene : Scene) (verbosity : Verbosity) (searchPath : List PathName)
    (task : Task α) : Outcome α × World × Scene :=
  let world := { scene.world with console := Console.empty verbosity, events := [],
                                  searchPath := searchPath }
  let (outcome, after) := task.run world
  (outcome, after, { scene with world := { after with searchPath := defaultSearchPath } })

/-- Run a quiet task and reply with its value or its failure. -/
def answer {α : Type} (scene : Scene) (task : Task α) (reply : α → Reply) : Scene × Reply :=
  let (outcome, _, next) := scene.perform .normal defaultSearchPath task
  match outcome with
  | .ok value => (next, reply value)
  | .error failure => (next, .failed failure)

/-- The target steps act on. -/
def currentTarget (scene : Scene) : Outcome Target :=
  match scene.target, scene.config with
  | some target, _ => .ok target
  | none, some config => config.requireTarget
  | none, none => .error .noTarget

/-- Run a purge-like task and reply with its count and events. -/
def purging (scene : Scene) (task : Task Nat) : Scene × Reply :=
  let (outcome, after, next) := scene.perform .normal defaultSearchPath task
  match outcome with
  | .ok count => (next, .purged count after.events)
  | .error failure => (next, .failedWithEvents failure after.events)

/-- Remove whatever a path names: a directory with its contents, anything
else by itself. -/
def removeAny (path : PathName) : Task Unit := do
  let node ← Task.ask (·.linkMetadata path)
  if node.isDirectory then Task.alter (·.removeDirAll path) else Task.alter (·.unlink path)

/-- Write a file, making its parents first. -/
def writeAny (path : PathName) (content : Bytes) (mode : Option Nat) : Task Unit := do
  if let some up := path.parent then Task.alter (·.createDirAll up 0o777)
  Task.alter (·.writeFile path content)
  if let some bits := mode then Task.alter (·.chmod path bits)

/-- Run one step. -/
def step (scene : Scene) : Step → Scene × Reply
  | .makeDirectory path => scene.answer (Task.alter (·.createDirAll (inScratch path) 0o777)) fun _ => .done
  | .writeFile path content mode => scene.answer (writeAny (inScratch path) content mode) fun _ => .done
  | .makeLink target link => scene.answer (Task.alter (·.symlink target (inScratch link))) fun _ => .done
  | .remove path => scene.answer (removeAny (inScratch path)) fun _ => .done
  | .list => (scene, .tree (listScratch scene.world.files))
  | .openTarget path =>
      let (outcome, _, next) := scene.perform .normal defaultSearchPath (Target.openAt (inScratch path))
      match outcome with
      | .ok target =>
          ({ next with target := some target }, .opened target.root.bytes target.latestLink.bytes)
      | .error failure => (next, .failed failure)
  | .validate =>
      match scene.currentTarget with
      | .ok target => scene.answer target.validate fun _ => .done
      | .error failure => (scene, .failed failure)
  | .hasLatest =>
      match scene.currentTarget with
      | .ok target => scene.answer target.hasLatest .flag
      | .error failure => (scene, .failed failure)
  | .latest =>
      match scene.currentTarget with
      | .ok target => scene.answer target.latest fun path => .latest (path.map (·.bytes))
      | .error failure => (scene, .failed failure)
  | .create time mode =>
      match scene.currentTarget with
      | .ok target =>
          let (outcome, _, next) := scene.perform .normal defaultSearchPath (target.create time mode)
          match outcome with
          | .ok path => ({ next with created := some path }, .created path.bytes)
          | .error failure => (next, .failed failure)
      | .error failure => (scene, .failed failure)
  | .setLatest path =>
      match scene.currentTarget, (path.map inScratch).orElse fun _ => scene.created with
      | .ok target, some chosen => scene.answer (target.setLatest chosen) fun _ => .done
      | .ok _, none => (scene, .refused "nothing created yet")
      | .error failure, _ => (scene, .failed failure)
  | .snapshots =>
      match scene.currentTarget with
      | .ok target => scene.answer target.snapshots fun paths => .listing (paths.map (·.bytes))
      | .error failure => (scene, .failed failure)
  | .existing =>
      match scene.currentTarget with
      | .ok target =>
          scene.answer (Prune.existingSnapshots target) fun paths => .listing (paths.map (·.bytes))
      | .error failure => (scene, .failed failure)
  | .candidates =>
      match scene.currentTarget with
      | .ok target =>
          scene.answer (Prune.loadCandidates target) fun paths => .listing (paths.map (·.bytes))
      | .error failure => (scene, .failed failure)
  | .trim spans now dryRun =>
      let policy : Option (Outcome Retention.Policy) :=
        match spans, scene.config with
        | some (hourly, daily), _ => some (Retention.Policy.make hourly daily)
        | none, some config => some (.ok config.retention)
        | none, none => none
      match policy, scene.currentTarget with
      | none, _ => (scene, .refused "no config loaded")
      | some (.error failure), _ => (scene, .failed failure)
      | some (.ok _), .error failure => (scene, .failed failure)
      | some (.ok policy), .ok target =>
          scene.purging (Retention.trimSnapshots target policy now dryRun)
  | .prune count dryRun =>
      match Prune.DeleteCount.parse count, scene.currentTarget with
      | .error failure, _ => (scene, .failed failure)
      | _, .error failure => (scene, .failed failure)
      | .ok count, .ok target => scene.purging (Prune.pruneOldest target count dryRun)
  | .purge paths remove dryRun =>
      match entriesOfPaths scene.world.zone (paths.map inScratch) with
      | .error failure => (scene, .failed failure)
      | .ok entries => scene.purging (Prune.purge entries remove dryRun)
  | .split path literal =>
      let marker := match literal with
        | some text => Marker.literal text
        | none => Marker.grammar
      scene.answer (Store.split (inScratch path) marker) fun (root, rest) => .halves root.bytes rest.bytes
  | .makeDirs src home =>
      scene.answer (makeDirs (inScratch src) ⟨home⟩) fun (source, destination) =>
        .restorePlan source.bytes destination.bytes
  | .parseConfig text =>
      let (outcome, _, next) := scene.perform .normal defaultSearchPath (Settings.parse text)
      match outcome with
      | .ok config => ({ next with config := some config }, .settings config.json)
      | .error failure => (next, .failed failure)
  | .load path override =>
      let task := match override with
        | none => Settings.load (inScratch path)
        | some given => Settings.loadWithOverride (inScratch path) (given.map inScratch)
      let (outcome, _, next) := scene.perform .normal defaultSearchPath task
      match outcome with
      | .ok config => ({ next with config := some config }, .settings config.json)
      | .error failure => (next, .failed failure)
  | .configTarget =>
      match scene.config with
      | some config =>
          match config.requireTarget with
          | .ok target => (scene, .configRoot target.root.bytes)
          | .error failure => (scene, .failed failure)
      | none => (scene, .failed .noTarget)
  | .createConfig source target =>
      scene.answer (Settings.create (inScratch source) (target.map inScratch)) .text
  | .snapshot time dryRun trim verbosity searchPath =>
      match scene.config with
      | none => (scene, .refused "no config loaded")
      | some config =>
          let task := takeSnapshot config time { dryRun := dryRun, trim := trim }
          let (outcome, after, next) := scene.perform verbosity (searchPathOf searchPath) task
          match outcome with
          | .ok taken => (next, .snapshotTaken taken.path.bytes taken.purged after.console.text)
          | .error failure => (next, .failedWithOutput failure after.console.text)
  | .restore snapshot dryRun keep verbosity searchPath =>
      match scene.config with
      | none => (scene, .refused "no config loaded")
      | some config =>
          let options : RestoreOptions :=
            { snapshot := snapshot.map fun path => ⟨path⟩, dryRun := dryRun, keep := keep }
          let (outcome, after, next) :=
            scene.perform verbosity (searchPathOf searchPath) (Snapshot.restore config options)
          match outcome with
          | .ok _ => (next, .restored after.console.text)
          | .error failure => (next, .failedWithOutput failure after.console.text)
  | .status searchPath =>
      match scene.currentTarget with
      | .error failure => (scene, .failed failure)
      | .ok target =>
          let (outcome, _, next) := scene.perform .normal (searchPathOf searchPath) (buildStatus target)
          match outcome with
          | .ok report => (next, .status report.text report.json.compact)
          | .error failure => (next, .failed failure)
  | .cli args searchPath =>
      let named := args.find? fun word => !word.startsWith "-"
      if named.any snapshotWords.contains || args.contains "--daemon" then
        (scene, .refused "cli snapshot is not driven (names come from the clock)")
      else if searchPath.isNone && named.any statusWords.contains then
        (scene, .refused "cli status needs path_env (real du sizes depend on the filesystem)")
      else
      match Cli.plan args with
      | .halt exit => (scene, .ran (some exit.code) exit.stdout exit.stderr)
      | .run request =>
          let world := { scene.world with searchPath := searchPathOf searchPath }
          let (exit, after) := Cli.runRequest request world
          let stdout := if searchPath.isNone then maskTotals exit.stdout else exit.stdout
          ({ scene with world := { after with searchPath := defaultSearchPath } },
            .ran (some exit.code) stdout exit.stderr)

end Scene

end BackupRotation.Scenes
