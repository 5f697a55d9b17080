import BackupRotation.Proofs.Purging
import BackupRotation.Snapshot.Take
/-!
# Taking a snapshot keeps the target in shape

A snapshot creates its directory, copies the source into it, and then either
removes it again (a dry run) or opens its permissions and points `latest` at
it; it may end with a trim. Every step either fails before it changes the
tree or makes one known edit right below the root of the target.

So, when the copy writes only below the new directory and the new name sorts
after every snapshot there, a snapshot keeps the invariant of a run,
`KeptWithin`: whatever it does and wherever it fails, the snapshots are
directories and `latest` links the newest one.

The copy is a parameter, `WritesInside` is all that is assumed of it.
`CopiesInside` is the same assumption without the copy's success, for a copy
that may fail.
-/

namespace BackupRotation.Store

open Files Text

variable {start : FileSystem} {top : Key} {target : Target}

theorem joinText_eq (root : PathName) (text : String) : root.joinText text = root.join ⟨encode text⟩ := rfl

/-- A snapshot name right below the root never holds a link. -/
theorem unlinked_of_snapshot {fs : FileSystem} (shaped : ShapeOk (level fs top)) {name : Bytes}
    (snapshot : isSnapshotName name = true) : ∀ target, level fs top name ≠ some (.link target) := by
  intro target linked
  rcases shaped name _ linked with ⟨isLatest, _⟩ | ⟨_, _, _, isDirectory⟩
  · exact not_snapshot_of_latest snapshot isLatest
  · cases isDirectory

/-- Whatever stands at `latest` in a well-shaped target is a link. -/
theorem linkOrAbsent_of_shape {view : Bytes → Option Node} (shaped : ShapeOk view) :
    ∀ node, view latestName = some node → ∃ link, node = .link link := by
  intro node present
  rcases shaped latestName node present with ⟨_, linked⟩ | ⟨_, snapshot, _⟩
  · exact linked
  · rw [latestName_not_snapshot] at snapshot
    cases snapshot

/-- Creating the directory of a snapshot either fails before it touches
anything, or puts a new directory under a name that was free and whose path
fits. -/
theorem create_effect (empty : EmptyTarget target.root top start) {world : World}
    (kept : Kept start top world.files) (time : Calendar.Stamp) (mode : Nat) :
    (∃ failure, (target.create time mode).run world = (.error failure, world)) ∨
      (level world.files top (encode (Snapshot.formatName time)) = none ∧
        JoinFits target.root (encode (Snapshot.formatName time)) ∧
        (target.create time mode).run world =
          (.ok (target.root.join ⟨encode (Snapshot.formatName time)⟩),
            { world with
              files := (world.files.put (top ++ [encode (Snapshot.formatName time)])
                (.directory (maskedDirectory mode))) })) := by
  obtain ⟨_, rooted⟩ := kept.rooted empty
  have plain := Snapshot.plainName_formatName time
  have unlinked := unlinked_of_snapshot kept.shape (Snapshot.isSnapshotName_formatName time)
  unfold Target.create
  rcases Task.readOnly_cases (Target.validate_readOnly target) world with ⟨_, failed⟩ | ⟨_, valid⟩
  · exact .inl ⟨_, Task.run_bind_error failed⟩
  rw [Task.run_bind_ok valid, Task.run_bind_ok (Task.run_get world)]
  simp only [joinText_eq]
  by_cases fits : JoinFits target.root (encode (Snapshot.formatName time))
  · rw [metadata_child rooted plain fits unlinked]
    cases present : level world.files top (encode (Snapshot.formatName time)) with
    | some node => exact .inl ⟨_, Task.run_bind_error (Task.run_throw _ world)⟩
    | none =>
        right
        refine ⟨rfl, fits, ?_⟩
        dsimp only
        rw [Task.run_bind_ok (Task.run_label_ok (Task.run_alter_ok
            (createDirAll_child rooted plain fits present mode)))]
        rfl
  · rw [metadata_child_unfit rooted plain unlinked fits]
    exact .inl ⟨_, Task.run_bind_error (Task.run_throw _ world)⟩

/-- Whether `latest` is there, read without following it; a node there that
is not a link is refused. -/
theorem run_hasLatest_view {world : World} {mode : Nat}
    (rooted : world.files.resolve target.root true = .ok (.found top (.directory mode)))
    (fits : JoinFits target.root latestName) :
    target.hasLatest.run world =
      (match level world.files top latestName with
        | some (.link _) => .ok true
        | some _ => .error (.invalidLatest target.latestLink.bytes)
        | none => .ok false,
        world) := by
  have read := linkMetadata_child rooted plainName_latestName fits
  unfold Target.hasLatest
  rw [Task.run_bind_ok (Task.run_get world)]
  simp only [Target.latestLink, joinText_eq]
  rw [show encode Snapshot.latestLinkName = latestName from rfl, read]
  rcases level world.files top latestName with _ | ⟨_ | _ | _⟩ <;> rfl

/-- Whether `latest` is there, read without following it, where it can only
be a link. -/
theorem run_hasLatest {world : World} {mode : Nat}
    (rooted : world.files.resolve target.root true = .ok (.found top (.directory mode)))
    (fits : JoinFits target.root latestName)
    (linkOrAbsent : ∀ node, level world.files top latestName = some node → ∃ link, node = .link link) :
    target.hasLatest.run world = (.ok (level world.files top latestName).isSome, world) := by
  rw [run_hasLatest_view rooted fits]
  cases present : level world.files top latestName with
  | none => rfl
  | some node =>
      obtain ⟨link, rfl⟩ := linkOrAbsent node present
      rfl

/-- Reading `latest` succeeds where its path fits and it is a link or
absent, and changes nothing. -/
theorem latest_succeeds {world : World} {mode : Nat}
    (rooted : world.files.resolve target.root true = .ok (.found top (.directory mode)))
    (fits : JoinFits target.root latestName)
    (linkOrAbsent : ∀ node, level world.files top latestName = some node → ∃ link, node = .link link) :
    ∃ found, target.latest.run world = (.ok found, world) := by
  unfold Target.latest
  rw [Task.run_bind_ok (run_hasLatest rooted fits linkOrAbsent)]
  cases present : level world.files top latestName with
  | none => exact ⟨_, rfl⟩
  | some node =>
      obtain ⟨link, rfl⟩ := linkOrAbsent _ present
      have read := readLink_child rooted plainName_latestName fits present
      simp only [Option.isSome_some, Bool.not_true, Bool.false_eq_true, ↓reduceIte]
      rw [Task.run_bind_ok (Task.run_ask_ok read)]
      exact ⟨_, rfl⟩

/-- Pointing `latest` at a snapshot directory right below the root replaces
whatever link was there by one holding the directory's name. -/
theorem setLatest_effect (empty : EmptyTarget target.root top start) {world : World}
    (framed : Framed start top world.files) {name : Bytes} (plain : PlainName name)
    (fits : JoinFits target.root name) {mode : Nat}
    (present : level world.files top name = some (.directory mode))
    (linkOrAbsent : ∀ node, level world.files top latestName = some node → ∃ link, node = .link link) :
    ∃ files, (target.setLatest (target.root.join ⟨name⟩)).run world = (.ok (), { world with files := files }) ∧
      Framed start top files ∧
      level files top = Function.update (level world.files top) latestName (some (.link name)) := by
  obtain ⟨_, rooted⟩ := framed.rooted empty
  have fitsLatest := empty.fitsLatest
  have ensured : (ensureDirectory (target.root.join ⟨name⟩)).run world = (.ok (), world) := by
    unfold ensureDirectory
    rw [Task.run_bind_ok (Task.run_get world), metadata_child rooted plain fits (unlinked_of_directory present),
      present]
    rfl
  unfold Target.setLatest
  rw [Task.run_bind_ok ensured]
  simp only [PathName.fileName_join _ plain]
  rw [Task.run_bind_ok (Task.run_pure _ world), Task.run_bind_ok (Task.run_get world)]
  cases previous : level world.files top latestName with
  | none =>
      have unlinked : world.files.unlink target.latestLink = .error .notFound :=
        unlink_child_absent rooted plainName_latestName fitsLatest previous
      rw [unlinked]
      refine ⟨world.files.put (top ++ [latestName]) (.link name), ?_, framed.put _ _, level_put_child _ _ _ _⟩
      dsimp only
      rw [Task.run_label_ok (Task.run_alter_ok
        (symlink_child rooted plainName_latestName fitsLatest previous name))]
  | some node =>
      obtain ⟨link, rfl⟩ := linkOrAbsent _ previous
      have unlinked : world.files.unlink target.latestLink =
          .ok (world.files.eraseWithin (top ++ [latestName])) :=
        unlink_child rooted plainName_latestName fitsLatest previous
      rw [unlinked]
      have clearedFramed := framed.eraseWithin latestName
      obtain ⟨_, clearedRooted⟩ := clearedFramed.rooted empty
      have cleared : level (world.files.eraseWithin (top ++ [latestName])) top latestName = none := by
        simp [level_eraseWithin_child]
      refine ⟨(world.files.eraseWithin (top ++ [latestName])).put (top ++ [latestName]) (.link name), ?_,
        clearedFramed.put _ _, ?_⟩
      · dsimp only
        rw [Task.run_bind_ok (Task.run_modify _ world), Task.run_label_ok (Task.run_alter_ok
          (symlink_child clearedRooted plainName_latestName fitsLatest cleared name))]
      · rw [level_put_child, level_eraseWithin_child, Function.update_idem]

end BackupRotation.Store

namespace BackupRotation.Transfer

/-- The destination is the last argument of a copy. -/
theorem Plan.arguments_getLast (plan : Plan) (verbosity : Report.Verbosity) :
    (plan.arguments verbosity).getLast? = some plan.destination := by
  simp [Plan.arguments]

end BackupRotation.Transfer

namespace BackupRotation.Prune

open Files Store Text

variable {start : FileSystem} {top : Key}

/-- A world whose tree is framed and has the same view keeps the invariant. -/
theorem KeptWithin.of_level {allowed : Bytes → Prop} {world other : World}
    (held : KeptWithin start top allowed world) (framed : Framed start top other.files)
    (same : level other.files top = level world.files top) :
    KeptWithin start top allowed other where
  toFramed := framed
  shape := by
    rw [same]
    exact held.shape
  linked := by
    rw [same]
    exact held.linked
  within := by
    rw [same]
    exact held.within

/-- Adding a snapshot directory that sorts after every snapshot there, and
linking `latest` to it, keeps the invariant. -/
theorem KeptWithin.add {allowed allowed' : Bytes → Prop} {world other : World}
    (held : KeptWithin start top allowed world) (framed : Framed start top other.files)
    {name : Bytes} (plain : PlainName name) (snapshot : isSnapshotName name = true) (mode : Nat)
    (after : ∀ old, allowed old → bytesLe old name = true) (admitted : allowed' name)
    (weaken : ∀ old, allowed old → allowed' old)
    (added : level other.files top = Function.update (Function.update (level world.files top) name
      (some (.directory mode))) latestName (some (.link name))) :
    KeptWithin start top allowed' other where
  toFramed := framed
  shape := by
    rw [added]
    exact shapeOk_add held.shape plain snapshot mode
  linked := by
    rw [added]
    exact newestLinked_add snapshot (fun old present => after old (held.within old present)) mode
  within name' present := by
    rw [added] at present
    rcases snapshotIn_add present with rfl | old
    · exact admitted
    · exact weaken name' (held.within name' old)

end BackupRotation.Prune

namespace BackupRotation.Snapshot

open Files Store Text Prune

variable {start : FileSystem} {top : Key}

theorem clockStamp_readOnly : Task.ReadOnly clockStamp :=
  Task.readOnly_bind Task.readOnly_get fun _ => Task.readOnly_pure _

/-- The end of a snapshot, an optional trim, keeps the invariant. -/
theorem trimTail_keeps {target : Target} (empty : EmptyTarget target.root top start)
    {allowed : Bytes → Prop} (policy : Retention.Policy) (trim dryRun : Bool)
    (finish : Option Nat → SnapshotOutcome) {world : World} (held : KeptWithin start top allowed world) :
    KeptWithin start top allowed ((if trim = true then
        clockStamp >>= fun stamp =>
          (some <$> Retention.trimSnapshots target policy stamp dryRun) >>= fun purged => pure (finish purged)
      else pure none >>= fun purged => pure (finish purged) : Task SnapshotOutcome).run world).2 := by
  split
  · refine Task.keeps_bind ?_ fun stamp reached _ heldReached => ?_
    · rw [clockStamp_readOnly]
      exact held
    · refine Task.keeps_bind ?_ fun _ _ _ kept => kept
      rw [Task.run_map_world]
      exact Retention.trimSnapshots_keeps empty policy stamp dryRun heldReached
  · exact held

/-- A synchronizer that may fail, and that whatever it returns keeps keys
unique and the working directory, and writes only strictly below the
directory its last argument leads to. -/
def CopiesInside (transfer : List Bytes → Task Unit) : Prop :=
  ∀ {args : List Bytes} {world after : World} {outcome : Outcome Unit},
    (transfer args).run world = (outcome, after) →
    (world.files.KeysNodup → after.files.KeysNodup) ∧ after.files.cwd = world.files.cwd ∧
      ∀ dest key mode, args.getLast? = some dest →
        world.files.resolve ⟨dest⟩ true = .ok (.found key (.directory mode)) →
        ∀ other, ¬ Below key other → after.files.find? other = world.files.find? other

/-- Copying into a snapshot directory right below the root, whatever the copy
returns, keeps the frame and leaves the view as it was. -/
theorem CopiesInside.keeps_view {transfer : List Bytes → Task Unit} (copies : CopiesInside transfer)
    {args : List Bytes} {world copied : World} {outcome : Outcome Unit}
    (ran : (transfer args).run world = (outcome, copied)) (framed : Framed start top world.files)
    {root : PathName} {rootMode : Nat} (rooted : world.files.resolve root true = .ok (.found top (.directory rootMode)))
    {name : Bytes} (plain : PlainName name) (fits : JoinFits root name) {mode : Nat}
    (present : level world.files top name = some (.directory mode))
    (last : args.getLast? = some (root.join ⟨name⟩).bytes) :
    Framed start top copied.files ∧ level copied.files top = level world.files top := by
  obtain ⟨nodup, cwd, confined⟩ := copies ran
  have agree := confined _ _ _ last (resolve_child_directory rooted plain fits present)
  refine ⟨framed.step (nodup framed.nodup) cwd fun key notBelow => ?_, level_of_agree_below agree⟩
  exact agree key fun below => notBelow (below_of_below_child below)

/-- A synchronizer that always succeeds, keeps keys unique and the working
directory, and writes only strictly below the directory its last argument
leads to. -/
def WritesInside (transfer : List Bytes → Task Unit) : Prop :=
  ∀ {args : List Bytes} {world after : World} {outcome : Outcome Unit},
    (transfer args).run world = (outcome, after) →
    outcome = .ok () ∧ (world.files.KeysNodup → after.files.KeysNodup) ∧
      after.files.cwd = world.files.cwd ∧
      ∀ dest key mode, args.getLast? = some dest →
        world.files.resolve ⟨dest⟩ true = .ok (.found key (.directory mode)) →
        ∀ other, ¬ Below key other → after.files.find? other = world.files.find? other

theorem WritesInside.copiesInside {transfer : List Bytes → Task Unit} (writes : WritesInside transfer) :
    CopiesInside transfer :=
  fun ran => (writes ran).2

/-- Copying into a snapshot directory right below the root succeeds, keeps
the frame and leaves the view as it was. -/
theorem WritesInside.keeps_view {transfer : List Bytes → Task Unit} (writes : WritesInside transfer)
    {args : List Bytes} {world copied : World} {outcome : Outcome Unit}
    (ran : (transfer args).run world = (outcome, copied)) (framed : Framed start top world.files)
    {root : PathName} {rootMode : Nat} (rooted : world.files.resolve root true = .ok (.found top (.directory rootMode)))
    {name : Bytes} (plain : PlainName name) (fits : JoinFits root name) {mode : Nat}
    (present : level world.files top name = some (.directory mode))
    (last : args.getLast? = some (root.join ⟨name⟩).bytes) :
    outcome = .ok () ∧ Framed start top copied.files ∧ level copied.files top = level world.files top :=
  ⟨(writes ran).1, CopiesInside.keeps_view writes.copiesInside ran framed rooted plain fits present last⟩

/-- After a new directory is added to a well-shaped view, what stands at
`latest` is still a link. -/
theorem linkOrAbsent_of_added {view : Bytes → Option Node} (shaped : ShapeOk view) {name : Bytes}
    (snapshot : isSnapshotName name = true) {fs : FileSystem} {node' : Option Node}
    (added : level fs top = Function.update view name node') :
    ∀ node, level fs top latestName = some node → ∃ link, node = .link link := by
  rw [added, Function.update_of_ne (not_snapshot_of_latest snapshot).symm]
  exact linkOrAbsent_of_shape shaped

variable {target : Target}

/-- A dry run removes the filled directory again, which gives back the view
it started from. -/
theorem withdraw_keeps (empty : EmptyTarget target.root top start) {allowed : Bytes → Prop}
    {world copied : World} (held : KeptWithin start top allowed world) {name : Bytes}
    (plain : PlainName name) (fits : JoinFits target.root name) (absent : level world.files top name = none)
    {mode : Nat} (framed : Framed start top copied.files)
    (filled : level copied.files top = Function.update (level world.files top) name (some (.directory mode))) :
    ∃ removed, (Task.alter (·.removeDirAll (target.root.join ⟨name⟩))).run copied = (.ok (), removed) ∧
      KeptWithin start top allowed removed := by
  obtain ⟨_, rooted⟩ := framed.rooted empty
  have present : level copied.files top name = some (.directory mode) := by
    rw [filled, Function.update_self]
  refine ⟨_, Task.run_alter_ok (removeDirAll_child rooted plain fits present),
    held.of_level (framed.eraseWithin name) ?_⟩
  rw [level_eraseWithin_child, filled, Function.update_idem, ← absent, Function.update_eq_self]

/-- Otherwise the filled directory gets its permissions and `latest` is
pointed at it, which keeps the invariant when its name sorts after every
snapshot there. -/
theorem publish_keeps (empty : EmptyTarget target.root top start) {allowed allowed' : Bytes → Prop}
    {world copied : World} (held : KeptWithin start top allowed world) {name : Bytes}
    (plain : PlainName name) (snapshot : isSnapshotName name = true) (fits : JoinFits target.root name)
    (after : ∀ old, allowed old → bytesLe old name = true) (admitted : allowed' name)
    (weaken : ∀ old, allowed old → allowed' old) {mode : Nat} (framed : Framed start top copied.files)
    (filled : level copied.files top = Function.update (level world.files top) name (some (.directory mode)))
    (permission : Nat) :
    ∃ moded published,
      (Task.alter (·.chmod (target.root.join ⟨name⟩) permission)).run copied = (.ok (), moded) ∧
      (target.setLatest (target.root.join ⟨name⟩)).run moded = (.ok (), published) ∧
      KeptWithin start top allowed' published := by
  obtain ⟨_, rooted⟩ := framed.rooted empty
  have present : level copied.files top name = some (.directory mode) := by
    rw [filled, Function.update_self]
  set moded : World := { copied with
    files := copied.files.put (top ++ [name]) (.directory (permission % 0o10000)) }
  have opened : level moded.files top =
      Function.update (level world.files top) name (some (.directory (permission % 0o10000))) := by
    rw [level_put_child, filled, Function.update_idem]
  have presentModed : level moded.files top name = some (.directory (permission % 0o10000)) := by
    rw [opened, Function.update_self]
  obtain ⟨files, setRan, framedSet, linked⟩ := setLatest_effect empty (framed.put name _) plain fits
    presentModed (linkOrAbsent_of_added held.shape snapshot opened)
  refine ⟨moded, _, Task.run_alter_ok (chmod_child rooted plain fits present permission), setRan,
    held.add framedSet plain snapshot (permission % 0o10000) after admitted weaken ?_⟩
  rw [linked, opened]

/-- A snapshot whose name sorts after every snapshot there keeps the
invariant, and leaves only names `allowed'` admits, whether it succeeds or
fails, copies or only pretends to. -/
theorem takeSnapshotWith_keeps {transfer : List Bytes → Task Unit} (writes : WritesInside transfer)
    {config : Settings.Config} (configured : config.target = some target)
    (empty : EmptyTarget target.root top start) {allowed allowed' : Bytes → Prop}
    (now : Calendar.Stamp) (options : SnapshotOptions) {world : World}
    (held : KeptWithin start top allowed world)
    (before : ∀ name, allowed name → bytesLe name (encode (formatName now)) = true)
    (admitted : allowed' (encode (formatName now))) (weaken : ∀ name, allowed name → allowed' name) :
    KeptWithin start top allowed' ((takeSnapshotWith transfer config now options).run world).2 := by
  have heldWeak : KeptWithin start top allowed' world :=
    { held with within := fun name present => weaken name (held.within name present) }
  have snapshot := isSnapshotName_formatName now
  have plain := plainName_formatName now
  unfold takeSnapshotWith
  rw [Task.run_bind_ok (show (Task.ofOutcome config.requireTarget).run world = (.ok target, world) by
    rw [Task.run_ofOutcome, Settings.Config.requireTarget, configured])]
  rcases create_effect empty held.toKept now initialMode with ⟨_, failed⟩ | ⟨absent, fits, created⟩
  · rw [Task.run_bind_error failed]
    exact heldWeak
  rw [Task.run_bind_ok created]
  -- the world with the new directory: framed, with the name now taken
  set made : World := { world with
    files := world.files.put (top ++ [encode (formatName now)]) (.directory (maskedDirectory initialMode)) }
  have framedMade : Framed start top made.files := held.toFramed.put _ _
  obtain ⟨_, rootedMade⟩ := framedMade.rooted empty
  have levelMade : level made.files top = Function.update (level world.files top)
      (encode (formatName now)) (some (.directory (maskedDirectory initialMode))) :=
    level_put_child _ _ _ _
  have presentMade : level made.files top (encode (formatName now)) =
      some (.directory (maskedDirectory initialMode)) := by
    rw [levelMade, Function.update_self]
  obtain ⟨_, latestRan⟩ := latest_succeeds rootedMade empty.fitsLatest
    (linkOrAbsent_of_added held.shape snapshot levelMade)
  rw [Task.run_bind_ok latestRan]
  dsimp only
  rw [Task.run_bind_ok (Task.run_verbosity _), Task.run_bind]
  split
  · rename_i copied ran
    obtain ⟨_, framedCopied, levelCopied⟩ := writes.keeps_view ran framedMade rootedMade plain fits
      presentMade (Transfer.Plan.arguments_getLast _ _)
    have filled := levelCopied.trans levelMade
    by_cases dry : options.dryRun = true
    · rw [if_pos dry]
      obtain ⟨_, removed, keptRemoved⟩ := withdraw_keeps empty heldWeak plain fits absent framedCopied filled
      rw [Task.run_bind_ok removed]
      exact trimTail_keeps empty _ _ _ _ keptRemoved
    · rw [if_neg dry]
      obtain ⟨_, _, opened, published, keptPublished⟩ := publish_keeps empty held plain snapshot fits before
        admitted weaken framedCopied filled config.permission
      rw [Task.run_bind_ok opened, Task.run_bind_ok published]
      exact trimTail_keeps empty _ _ _ _ keptPublished
  · -- the copy never fails
    rename_i failure copied ran
    cases (writes ran).1

end BackupRotation.Snapshot
