import BackupRotation.Settings.Config
import BackupRotation.Store.Split
import BackupRotation.Transfer.Run
/-!
# Restoring from a snapshot

A snapshot holds the source under the source's own base name, so a snapshot
of `/home/user` contains `<snapshot>/user/...`. Restoring a path inside a
snapshot copies it back to the same place below the source's parent:

```text
<snapshot>                    -> copy <snapshot>/user               to /home
<snapshot>/user/docs          -> copy <snapshot>/user/docs          to /home/user
<snapshot>/user/docs/letters  -> copy <snapshot>/user/docs/letters  to /home/user/docs
```

The path inside the snapshot must therefore start with the source's base
name; anything else would land outside the source.
-/

namespace BackupRotation.Snapshot

open Files Settings Store Text

/-- Switches for a restore. -/
structure RestoreOptions where
  /-- Path below the target to restore from; the target itself when unset. -/
  snapshot : Option PathName := none
  dryRun : Bool := false
  /-- Keep files the snapshot lacks. -/
  keep : Bool := false
deriving Repr

/-- Split a path at its snapshot, trying `latest` below it when the path
itself names none. -/
def splitOrLatest (src : PathName) : Task (PathName × PathName) :=
  tryCatch (split src .grammar) fun failure =>
    match failure with
    | .splitNotFound _ => split (src.joinText latestLinkName) .grammar
    | other => throw other

/-- The copy source and destination that restore `src` into the source
directory `home`. -/
def makeDirs (src home : PathName) : Task (PathName × PathName) := do
  let homeBase ← match home.fileName with
    | some base => pure base
    | none => throw (.notADirectory home.bytes)
  let homeParent := home.parent.getD ⟨[]⟩
  let (root, sub) ← splitOrLatest src
  let invalid : Failure := .invalidRestorePath sub.display (lossy homeBase)
  let source ←
    if sub.bytes.isEmpty || sub.bytes == homeBase then pure (root.join ⟨homeBase⟩)
    else match sub.components.head? with
      | some (.normal first) => if first == homeBase then pure (root.join sub) else throw invalid
      | _ => throw invalid
  let destination := match sub.parent with
    | some dir => if dir.bytes.isEmpty then homeParent else homeParent.join dir
    | none => homeParent
  pure (source, destination)

/-- Restore the configured source from a snapshot. -/
def restore (config : Config) (options : RestoreOptions) : Task Unit :=
  Task.label "restore error" do
    let target ← Task.ofOutcome config.requireTarget
    let src := match options.snapshot with
      | some path => target.root.join path
      | none => target.root
    let (source, destination) ← makeDirs src config.source
    let plan : Transfer.Plan :=
      { delete := !options.keep, dryRun := options.dryRun, linkDest := none,
        options := config.options, extraOptions := config.restoreOptions,
        source := source.bytes, destination := destination.bytes }
    Transfer.runPlanned (plan.arguments (← Task.verbosity))

end BackupRotation.Snapshot
