import BackupRotation.Settings.Config
/-!
# The default settings

`create` renders a starting settings file for a source directory: the
default text below with the source, and optionally the target, written in as
absolute paths. Both are checked first, and the rendered text is read back
once, so that what `create` prints is a file `load` accepts.
-/

namespace BackupRotation.Settings

open Files Store Text

/-- The line of the default text that names the source. -/
def sourcePlaceholder : String := "source: /home/user"

/-- The line of the default text that stands for the target. -/
def targetPlaceholder : String := "#target: /mnt/backupDir"

/-- The starting point of a new settings file. -/
def defaultConfig : String :=
  "# szbck backup configuration\n" ++
  "#\n" ++
  "# One 'key: value' pair per line.  Everything after a '#' is ignored.\n" ++
  "\n" ++
  "# Directory to back up.\n" ++
  "source: /home/user\n" ++
  "\n" ++
  "# Directory holding the snapshots.  Leave it commented out to supply it\n" ++
  "# with -t on every command instead.\n" ++
  "#target: /mnt/backupDir\n" ++
  "\n" ++
  "# Permission given to the root of each finished snapshot, either octal\n" ++
  "# (0o0500) or symbolic (u:rx;g:-;o:-).\n" ++
  "permission: u:rx;g:-;o:-\n" ++
  "\n" ++
  "# Every snapshot younger than keepHourly is kept.  After that one per day is\n" ++
  "# kept until keepDaily, then one per ISO week.  Units are hours or days.\n" ++
  "keepHourly: 48 hours\n" ++
  "keepDaily: 30 days\n" ++
  "\n" ++
  "# rsync options for both snapshots and restores.\n" ++
  "option: --archive\n" ++
  "option: --hard-links\n" ++
  "option: --acls\n" ++
  "option: --xattrs\n" ++
  "option: --one-file-system\n" ++
  "#option: --verbose\n" ++
  "\n" ++
  "# rsync options for snapshots only.\n" ++
  "snapshotOption: --delete-excluded\n" ++
  "#snapshotOption: --exclude=/.cache\n" ++
  "\n" ++
  "# rsync options for restores only.\n" ++
  "#restoreOption: --exclude=/.cache\n"

/-- Render the default settings for a source and an optional target. -/
def renderDefault (source : PathName) (target : Option PathName) : Task String := do
  let source ← absolutePath source
  ensureDirectory source
  let text := replaceFirst defaultConfig sourcePlaceholder ("source: " ++ source.display)
  let text ← match target with
    | some path => do
        let target ← Target.openAt (← absolutePath path)
        pure (replaceFirst text targetPlaceholder ("target: " ++ target.root.display))
    | none => pure text
  let _ ← parse text
  pure text

/-- The default settings for a source and an optional target. -/
def create (source : PathName) (target : Option PathName) : Task String :=
  Task.label "create settings error" (renderDefault source target)

end BackupRotation.Settings
