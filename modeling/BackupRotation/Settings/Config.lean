import BackupRotation.Store.Target
import BackupRotation.Retention.Policy
import BackupRotation.Settings.Duration
import BackupRotation.Settings.Permission
/-!
# Backup settings

A settings file describes one backup: what to copy, where the snapshots
live, how they are protected and how long they are kept. It has one
`key: value` pair per line; everything from a `#` on is a comment, and a
line left empty once the comment and surrounding whitespace are gone is
skipped. The key is what comes before the first colon.

`source`, `target`, `permission`, `keepHourly` and `keepDaily` may appear
once each. The option keys repeat, but one key may not carry a value twice,
except `-v` and `--verbose`, which the copier counts. Without any `option`
line there must be at least one `snapshotOption` and one `restoreOption`.

Reading stops at the first bad line, whose failure carries its number and
its raw text. The relation between the two retention lengths is checked only
once every line has been read, since either may come first.

Relative `source` and `target` paths are checked and made absolute against
the working directory; both must be directories, and the target must be a
valid snapshot store.
-/

namespace BackupRotation.Settings

open Files Store Calendar Retention Text

/-- Validated settings. -/
structure Config where
  source : PathName
  target : Option Target
  permission : Nat
  options : List String
  snapshotOptions : List String
  restoreOptions : List String
  retention : Policy

/-- The configured target, which a command that touches snapshots needs. -/
def Config.requireTarget (config : Config) : Outcome Target :=
  match config.target with
  | some target => .ok target
  | none => .error .noTarget

/-- The settings as a JSON document, keys in declaration order. -/
def Config.json (config : Config) : JsonValue :=
  let strings := fun (items : List String) => JsonValue.array (items.map .str)
  .object [("source", .str config.source.display),
    ("target", match config.target with
      | some target => .str target.root.display
      | none => .null),
    ("permission", .str (renderMode config.permission)),
    ("options", strings config.options),
    ("snapshotOptions", strings config.snapshotOptions),
    ("restoreOptions", strings config.restoreOptions),
    ("retention", .object [("keepHourly", .str config.retention.keepHourly.render),
      ("keepDaily", .str config.retention.keepDaily.render)])]

/-- Settings read so far, before the mandatory ones are checked. -/
structure Draft where
  source : Option PathName := none
  target : Option Target := none
  permission : Option Nat := none
  options : List String := []
  snapshotOptions : List String := []
  restoreOptions : List String := []
  keepHourly : Option Span := none
  keepDaily : Option Span := none

/-- The message of a run stopped by a minimum that does not fit a span. -/
def minimumOverflow : String := "TimeDelta::hours out of bounds"

/-- Refuse a key that was already set. -/
def once {α : Type} (current : Option α) (key : String) : Task Unit :=
  if current.isSome then throw (.duplicateKey key) else pure ()

/-- Refuse an empty value. -/
def requireValue (key value : String) : Task Unit :=
  if value.isEmpty then throw (.missingValue key) else pure ()

/-- Whether a copier option asks for more output, which may repeat. -/
def isVerbose (flag : String) : Bool := flag == "-v" || flag == "--verbose"

/-- Add an option value to a list, refusing repeats and empty values. -/
def pushOption (list : List String) (key value : String) : Task (List String) := do
  if list.contains value && !isVerbose value then throw (.duplicateOption key value)
  requireValue key value
  pure (list ++ [value])

/-- The absolute form of a path against the working directory. -/
def absolutePath (path : PathName) : Task PathName := do
  if path.bytes.isEmpty then throw (.io .emptyPath)
  pure (PathName.absoluteFrom (← get).files.cwd.path path)

/-- Check a source directory and make it absolute. -/
def validateSource (value : String) : Task PathName := do
  let path := PathName.ofString value
  ensureDirectory path
  absolutePath path

/-- Check a target directory and open it at its absolute path. -/
def validateTarget (value : String) : Task Target := do
  let path := PathName.ofString value
  ensureDirectory path
  Target.openAt (← absolutePath path)

/-- Read a retention length for a key with a minimum in hours. -/
def retentionOf (key value : String) (minHours : Int) : Task Span :=
  match parseRetention key value minHours with
  | none => throw (.panic minimumOverflow)
  | some outcome => Task.ofOutcome outcome

/-- Apply one `key: value` pair. -/
def Draft.apply (draft : Draft) (key value : String) : Task Draft :=
  match key with
  | "source" => do
      once draft.source key
      pure { draft with source := some (← Task.label "invalid source" (validateSource value)) }
  | "target" => do
      once draft.target key
      pure { draft with target := some (← Task.label "invalid target" (validateTarget value)) }
  | "permission" => do
      once draft.permission key
      requireValue key value
      pure { draft with permission := some (← Task.ofOutcome (parsePermission value)) }
  | "option" => do pure { draft with options := ← pushOption draft.options key value }
  | "snapshotOption" => do
      pure { draft with snapshotOptions := ← pushOption draft.snapshotOptions key value }
  | "restoreOption" => do
      pure { draft with restoreOptions := ← pushOption draft.restoreOptions key value }
  | "keepHourly" => do
      once draft.keepHourly key
      requireValue key value
      pure { draft with keepHourly := some (← retentionOf key value minKeepHourlyHours) }
  | "keepDaily" => do
      once draft.keepDaily key
      requireValue key value
      pure { draft with keepDaily := some (← retentionOf key value minKeepDailyHours) }
  | other => throw (.unknownKey other)

/-- The mandatory settings a draft lacks, in a fixed order. -/
def Draft.missing (draft : Draft) : List String :=
  (if draft.source.isNone then ["source"] else []) ++
  (if draft.permission.isNone then ["permission"] else []) ++
  (if draft.keepHourly.isNone then ["keepHourly"] else []) ++
  (if draft.keepDaily.isNone then ["keepDaily"] else []) ++
  (if draft.options.isEmpty then
    (if draft.snapshotOptions.isEmpty then ["snapshotOption"] else []) ++
    (if draft.restoreOptions.isEmpty then ["restoreOption"] else [])
  else [])

/-- Check the mandatory settings and the retention policy. -/
def Draft.finish (draft : Draft) : Outcome Config :=
  match draft.source, draft.permission, draft.keepHourly, draft.keepDaily, draft.missing with
  | some source, some permission, some keepHourly, some keepDaily, [] => do
      let retention ← Policy.make keepHourly keepDaily
      let config : Config :=
        { source := source
          target := draft.target
          permission := permission
          options := draft.options
          snapshotOptions := draft.snapshotOptions
          restoreOptions := draft.restoreOptions
          retention := retention }
      pure config
  | _, _, _, _, missing => .error (.missingSettings missing)

/-- A line without its comment and surrounding whitespace. -/
def stripComment (line : String) : String :=
  trimText (String.ofList (line.toList.takeWhile (· != '#')))

/-- Read lines into a draft; `index` counts the lines already read. -/
def readLines (index : Nat) (draft : Draft) : List String → Task Draft
  | [] => pure draft
  | raw :: rest => do
      let line := stripComment raw
      if line.isEmpty then readLines (index + 1) draft rest
      else
        let applied : Task Draft := match splitAtFirst ':' line.toList with
          | some (key, value) => draft.apply (trimText (String.ofList key)) (trimText (String.ofList value))
          | none => throw .invalidSyntax
        let next ← tryCatch applied fun cause =>
          match cause with
          | .panic _ => throw cause
          | _ => throw (.context "invalid config file" (.config (index + 1) raw cause))
        readLines (index + 1) next rest

/-- Read settings text. -/
def parse (text : String) : Task Config := do
  let draft ← readLines 0 {} (textLines text)
  Task.label "invalid config file" (Task.ofOutcome draft.finish)

/-- Read and parse a settings file. -/
def load (path : PathName) : Task Config := do
  let label := "load " ++ path.display
  let bytes ← Task.label label (Task.ask (·.readFile path))
  match utf8? bytes with
  | none => throw (.context label (.io .invalidUtf8))
  | some text => Task.label label (parse text)

/-- Read a settings file and let an override replace its target; without
either there is no target to work on. -/
def loadWithOverride (path : PathName) (override : Option PathName) : Task Config := do
  let config ← load path
  match override with
  | some given =>
      let target ← Task.label "invalid target" (match utf8? given.bytes with
        | none => throw (.pathConversion given.bytes)
        | some text => validateTarget text)
      pure { config with target := some target }
  | none => if config.target.isNone then throw .noTarget else pure config

end BackupRotation.Settings
