import BackupRotation.Proofs.TargetView
import BackupRotation.Retention.Trim
/-!
# Trims and prunes keep the newest snapshot

A trim and a prune both end in a purge: a walk over the listed snapshots,
oldest first, deleting the marked ones. Neither marks the last one listed,
which is the greatest name and the one `latest` links to, so every deletion
removes some other name from the view of the target and `latest` stays as
it is. A deletion that fails stops the purge wherever it is; since each
single deletion either fails before touching anything or completes, every
state a purge can stop in keeps the invariant.
-/

namespace BackupRotation.Prune

open Files Store Text

variable {start : FileSystem} {top : Key} {root : PathName}

/-- Making a directory tree writable: the directory itself, then every
directory below the place it resolves to. -/
theorem run_makeTreeWritable {path : PathName} {mode : Nat} {world : World} {before : Nat}
    {opened : FileSystem} {key : Key}
    (found : world.files.linkMetadata path = .ok (.directory before))
    (chmodded : world.files.chmod path mode = .ok opened) (located : opened.locate path true = .ok key) :
    (makeTreeWritable path mode).run world =
      (.ok (), { world with files := opened.chmodDirectoriesBelow key mode }) := by
  unfold makeTreeWritable
  rw [Task.run_bind_ok (Task.run_ask_ok found)]
  simp only [Node.isLink, Bool.false_eq_true, ↓reduceIte]
  rw [Task.run_bind_ok (Task.run_alter_ok chmodded), Task.run_bind_ok (Task.run_ask_ok located),
    Task.run_modify]

/-- Deleting a snapshot directory right below the root of a framed target
either fails before it touches anything, or removes exactly that name from
the view. -/
theorem deleteSnapshot_directory_effect (empty : EmptyTarget root top start) {world : World}
    (framed : Framed start top world.files) {name : Bytes} (plain : PlainName name) {mode : Nat}
    (present : level world.files top name = some (.directory mode)) :
    (∃ failure, (deleteSnapshot (root.join ⟨name⟩)).run world = (.error failure, world)) ∨
      ∃ files, (deleteSnapshot (root.join ⟨name⟩)).run world = (.ok (), { world with files := files }) ∧
        Framed start top files ∧ level files top = Function.update (level world.files top) name none := by
  obtain ⟨rootMode, rooted⟩ := framed.rooted empty
  unfold deleteSnapshot
  by_cases fits : JoinFits root name
  · have found : world.files.linkMetadata (root.join ⟨name⟩) = .ok (.directory mode) := by
      rw [linkMetadata_child rooted plain fits, present]
    -- the tree after each of the three edits, each framed, so the root still resolves
    let opened := world.files.put (top ++ [name]) (.directory (modeToDelete % 0o10000))
    let inner := opened.chmodDirectoriesBelow (top ++ [name]) modeToDelete
    have openedFramed : Framed start top opened := framed.put name _
    have innerFramed : Framed start top inner := openedFramed.chmodDirectoriesBelow name _
    obtain ⟨_, openedRooted⟩ := openedFramed.rooted empty
    obtain ⟨_, innerRooted⟩ := innerFramed.rooted empty
    have openedLevel : level opened top name = some (.directory (modeToDelete % 0o10000)) := by
      simp [opened, level_put_child]
    have innerLevel : level inner top name = some (.directory (modeToDelete % 0o10000)) := by
      rw [level_chmodDirectoriesBelow_child]
      exact openedLevel
    right
    refine ⟨inner.eraseWithin (top ++ [name]), ?_, innerFramed.eraseWithin name, ?_⟩
    · rw [Task.run_bind_ok (run_makeTreeWritable found (chmod_child rooted plain fits present _)
          (locate_child openedRooted plain fits openedLevel)),
        Task.run_alter_ok (removeDirAll_child innerRooted plain fits innerLevel)]
    · rw [level_eraseWithin_child, level_chmodDirectoriesBelow_child, level_put_child,
        Function.update_idem]
  · have tooLong := linkMetadata_child_unfit rooted plain fits
    unfold makeTreeWritable
    rw [Task.run_bind_error (Task.run_bind_error (Task.run_ask_error tooLong))]
    exact .inl ⟨_, rfl⟩

/-- Deleting a snapshot name right below the root either fails before it
touches anything, or removes exactly that name from the view. -/
theorem deleteSnapshot_effect (empty : EmptyTarget root top start) {world : World}
    (kept : Kept start top world.files) {name : Bytes} (snapshot : isSnapshotName name = true)
    (plain : PlainName name) :
    (∃ failure, (deleteSnapshot (root.join ⟨name⟩)).run world = (.error failure, world)) ∨
      ∃ files, (deleteSnapshot (root.join ⟨name⟩)).run world = (.ok (), { world with files := files }) ∧
        Framed start top files ∧ level files top = Function.update (level world.files top) name none := by
  obtain ⟨rootMode, rooted⟩ := kept.toFramed.rooted empty
  cases present : level world.files top name with
  | none =>
      -- nothing stands there, so the first look at it fails
      left
      unfold deleteSnapshot makeTreeWritable
      by_cases fits : JoinFits root name
      · have absent : world.files.linkMetadata (root.join ⟨name⟩) = .error .notFound := by
          rw [linkMetadata_child rooted plain fits, present]
        rw [Task.run_bind_error (Task.run_bind_error (Task.run_ask_error absent))]
        exact ⟨_, rfl⟩
      · have tooLong := linkMetadata_child_unfit rooted plain fits
        rw [Task.run_bind_error (Task.run_bind_error (Task.run_ask_error tooLong))]
        exact ⟨_, rfl⟩
  | some node =>
      -- right below the root, a snapshot name can only hold a directory
      obtain ⟨mode, rfl⟩ : ∃ mode, node = .directory mode := by
        rcases kept.shape name node present with ⟨isLatest, _⟩ | ⟨_, _, mode, isDirectory⟩
        · exact absurd isLatest (not_snapshot_of_latest snapshot)
        · exact ⟨mode, isDirectory⟩
      exact deleteSnapshot_directory_effect empty kept.toFramed plain present

/-- The invariant of a run, with every snapshot name allowed by `allowed`. -/
structure KeptWithin (start : FileSystem) (top : Key) (allowed : Bytes → Prop) (world : World) : Prop
    extends Kept start top world.files where
  within : ∀ name, SnapshotIn (level world.files top) name → allowed name

/-- The invariant of a purge: the invariant of the run with `latest` linking
one fixed snapshot. -/
structure Purging (start : FileSystem) (top : Key) (allowed : Bytes → Prop) (newest : Bytes)
    (world : World) : Prop extends KeptWithin start top allowed world where
  latest : level world.files top latestName = some (.link newest)

/-- A path a purge may delete: a snapshot right below the root, not the one
`latest` links to. -/
def Doomed (root : PathName) (newest : Bytes) (path : PathName) : Prop :=
  ∃ name, path = root.join ⟨name⟩ ∧ isSnapshotName name = true ∧ PlainName name ∧ name ≠ newest

theorem Purging.of_files {allowed : Bytes → Prop} {newest : Bytes} {world world' : World}
    (purging : Purging start top allowed newest world) (same : world'.files = world.files) :
    Purging start top allowed newest world' where
  toKept := same ▸ purging.toKept
  within := same ▸ purging.within
  latest := same ▸ purging.latest

/-- Removing a name other than the newest from the view keeps the purge
invariant. -/
theorem Purging.erase {allowed : Bytes → Prop} {newest : Bytes} {world : World}
    (purging : Purging start top allowed newest world) {files : FileSystem}
    (framed : Framed start top files) {name : Bytes}
    (snapshot : isSnapshotName name = true) (kept : name ≠ newest)
    (erased : level files top = Function.update (level world.files top) name none) :
    Purging start top allowed newest { world with files := files } where
  toFramed := framed
  shape := by
    rw [erased]
    exact shapeOk_erase purging.shape name
  linked := by
    rw [erased]
    exact newestLinked_erase purging.linked purging.latest kept (not_snapshot_of_latest snapshot)
  within other present := by
    rw [erased] at present
    have differ : other ≠ name := by
      rintro rfl
      simp [SnapshotIn] at present
    exact purging.within other ((snapshotIn_update_ne differ none).mp present)
  latest := by
    rw [erased, Function.update_of_ne (not_snapshot_of_latest snapshot).symm]
    exact purging.latest

/-- Deleting a doomed snapshot keeps the purge invariant, whether or not it
succeeds. -/
theorem deleteSnapshot_keeps (empty : EmptyTarget root top start) {allowed : Bytes → Prop}
    {newest : Bytes} {path : PathName} (doomed : Doomed root newest path) {world : World}
    (purging : Purging start top allowed newest world) :
    Purging start top allowed newest ((deleteSnapshot path).run world).2 := by
  obtain ⟨name, rfl, snapshot, plain, kept⟩ := doomed
  rcases deleteSnapshot_effect empty purging.toKept snapshot plain with ⟨failure, failed⟩ |
    ⟨files, deleted, framed, erased⟩
  · rw [failed]
    exact purging
  · rw [deleted]
    exact purging.erase framed snapshot kept erased

/-- A purge keeps any property of worlds that reporting an event keeps and
each deletion it makes keeps, whatever the deletions return: a failed
deletion is reported by a handler that only throws. -/
theorem purgeEach_keeps_of {P : World → Prop} (dryRun : Bool)
    (reported : ∀ event world, P world → P ((Task.report event).run world).2) :
    ∀ (decided : List (Snapshot.Entry × Bool)) (purged : Nat) (world : World),
      (∀ entry, (entry, true) ∈ decided → dryRun = false →
        ∀ world, P world → P ((deleteSnapshot entry.path).run world).2) →
      P world → P ((purgeEach dryRun purged decided).run world).2 := by
  intro decided
  induction decided with
  | nil =>
      intro purged world _ held
      exact held
  | cons head rest ih =>
      obtain ⟨entry, marked⟩ := head
      intro purged world each held
      have later : ∀ entry, (entry, true) ∈ rest → dryRun = false →
          ∀ world, P world → P ((deleteSnapshot entry.path).run world).2 :=
        fun other inside => each other (List.mem_cons_of_mem _ inside)
      unfold purgeEach
      dsimp only
      split
      · rename_i deleting
        simp only [Bool.and_eq_true, Bool.not_eq_true'] at deleting
        have deletion := each entry (by rw [deleting.1]; exact List.mem_cons_self) deleting.2
        refine Task.keeps_bind ?_ fun _ reached _ reachedHeld => ?_
        · refine Task.keeps_tryCatch ?_ fun failure _ _ failedHeld => ?_
          · exact Task.keeps_bind (deletion world held) fun _ _ _ deletedHeld => deletedHeld
          · cases failure <;> exact failedHeld
        exact Task.keeps_bind (reported _ reached reachedHeld) fun _ reported' _ reportedHeld =>
          ih _ reported' later reportedHeld
      · rw [Task.run_bind_ok (Task.run_pure 0 world)]
        exact Task.keeps_bind (reported _ world held) fun _ reported' _ reportedHeld =>
          ih _ reported' later reportedHeld

theorem purge_keeps_of {P : World → Prop} (entries : List Snapshot.Entry) (remove : List Bool) (dryRun : Bool)
    (reported : ∀ event world, P world → P ((Task.report event).run world).2)
    (each : ∀ entry, (entry, true) ∈ entries.zip remove → dryRun = false →
      ∀ world, P world → P ((deleteSnapshot entry.path).run world).2)
    {world : World} (held : P world) : P ((purge entries remove dryRun).run world).2 := by
  unfold purge
  split
  · exact held
  · exact purgeEach_keeps_of dryRun reported _ 0 world each held

/-- A purge whose marked entries are all doomed keeps its invariant at every
step, also when a deletion fails and stops it. -/
theorem purge_keeps (empty : EmptyTarget root top start) {allowed : Bytes → Prop} {newest : Bytes}
    (entries : List Snapshot.Entry) (remove : List Bool) (dryRun : Bool)
    (doomed : ∀ entry, (entry, true) ∈ entries.zip remove → Doomed root newest entry.path)
    {world : World} (purging : Purging start top allowed newest world) :
    Purging start top allowed newest ((purge entries remove dryRun).run world).2 :=
  purge_keeps_of entries remove dryRun (fun _ _ held => held.of_files (Task.run_report_files _ _))
    (fun entry marked _ _ held => deleteSnapshot_keeps empty (doomed entry marked) held) purging

/-! ### What a trim and a prune may delete -/

/-- Entries read from paths keep the paths, in order. -/
theorem entriesOfPaths_paths {zone : Calendar.Zone} :
    ∀ {paths : List PathName} {entries : List Snapshot.Entry},
      Snapshot.entriesOfPaths zone paths = .ok entries → entries.map (·.path) = paths
  | [], entries, read => by
      simp only [Snapshot.entriesOfPaths, Except.ok.injEq] at read
      rw [← read]
      rfl
  | path :: rest, entries, read => by
      simp only [Snapshot.entriesOfPaths] at read
      cases first : Snapshot.Entry.ofPath zone path with
      | error failure => simp [first, bind, Except.bind] at read
      | ok entry =>
          cases others : Snapshot.entriesOfPaths zone rest with
          | error failure => simp [first, others, bind, Except.bind] at read
          | ok tail =>
              simp only [first, others, bind, Except.bind, pure, Except.pure, Except.ok.injEq] at read
              rw [← read, List.map_cons, entriesOfPaths_paths others]
              have named : entry.path = path := by
                unfold Snapshot.Entry.ofPath at first
                split at first
                · split at first
                  · split at first
                    · cases first
                      rfl
                    · cases first
                  · cases first
                · cases first
              rw [named]

/-- The paths a purge may delete: the snapshots but the last listed, the one
`latest` links to. -/
theorem doomed_of_mem_dropLast (root : PathName) {fs : FileSystem} (kept : Kept start top fs)
    {last : Bytes} (listedLast : (snapshotNames fs top).getLast? = some last) {path : PathName}
    (early : path ∈ ((snapshotNames fs top).map fun name => root.join ⟨name⟩).dropLast) :
    Doomed root last path := by
  rw [← List.map_dropLast, List.mem_map] at early
  obtain ⟨name, earlyName, rfl⟩ := early
  obtain ⟨front, split⟩ := List.getLast?_eq_some_iff.mp listedLast
  have listed : name ∈ snapshotNames fs top :=
    List.dropLast_subset _ earlyName
  obtain ⟨snapshot, mode, present⟩ := (mem_snapshotNames kept.nodup top name).mp listed
  have plain : PlainName name := by
    rcases kept.shape name _ present with ⟨isLatest, _⟩ | ⟨plain, _⟩
    · exact absurd isLatest (not_snapshot_of_latest snapshot)
    · exact plain
  have sorted := snapshotNames_sorted kept.nodup top
  rw [split] at sorted earlyName
  rw [List.dropLast_concat] at earlyName
  have below := (List.pairwise_append.mp sorted).2.2 name earlyName last (List.mem_singleton.mpr rfl)
  exact ⟨name, rfl, snapshot, plain, below.2⟩

end BackupRotation.Prune

namespace BackupRotation.Retention

theorem length_sweep (hourly daily : Calendar.Stamp) :
    ∀ (cursor : Calendar.Stamp) (older : List Calendar.Stamp), (sweep hourly daily cursor older).length = older.length
  | _, [] => rfl
  | cursor, candidate :: older => by
      simp [sweep, length_sweep hourly daily _ older]

/-- The classifier never marks the last entry: every marked entry is one of
the others. -/
theorem mem_dropLast_of_marked {α : Type} {entries : List α} {time : α → Calendar.Stamp}
    {hourly daily : Calendar.Stamp} {entry : α}
    (marked : (entry, true) ∈ entries.zip (classify (entries.map time) hourly daily)) :
    entry ∈ entries.dropLast := by
  rcases List.eq_nil_or_concat entries with rfl | ⟨front, last, rfl⟩
  · simp at marked
  · rw [List.concat_eq_append] at marked ⊢
    have flags : classify ((front ++ [last]).map time) hourly daily =
        (sweep hourly daily (time last) (front.map time).reverse).reverse ++ [false] := by
      simp [classify]
    have sameLength : front.length = (sweep hourly daily (time last) (front.map time).reverse).reverse.length := by
      simp [length_sweep]
    rw [flags, List.zip_append sameLength, List.mem_append] at marked
    rw [List.dropLast_concat]
    rcases marked with early | final
    · exact (List.of_mem_zip early).1
    · simp at final

end BackupRotation.Retention

namespace BackupRotation.Retention

open Files Store Text Prune

variable {start : FileSystem} {top : Key}

/-- Listing the snapshots of a target in a tree that keeps the invariant. -/
theorem run_snapshots_listing {target : Target} (empty : EmptyTarget target.root top start)
    {world : World} (kept : Kept start top world.files) :
    target.snapshots.run world =
      (.ok ((snapshotNames world.files top).map fun name => target.root.join ⟨name⟩), world) := by
  obtain ⟨_, rooted⟩ := kept.rooted empty
  rw [Store.Target.run_snapshots_of_readDir (FileSystem.readDir_of_resolve rooted), snapshotsOf_children]

/-- With fewer than two snapshots a trim or prune stops before it reads
anything else. -/
theorem run_existingSnapshots_few {target : Target} {world : World} {dirs : List PathName}
    (listed : target.snapshots.run world = (.ok dirs, world)) (few : dirs.length < 2) :
    ∃ failure, (existingSnapshots target).run world = (.error failure, world) := by
  unfold existingSnapshots
  rw [Task.run_bind_ok listed]
  match dirs, few with
  | [], _ => exact ⟨_, rfl⟩
  | [_], _ => exact ⟨_, rfl⟩

theorem trimSnapshots_keeps {target : Target} (empty : EmptyTarget target.root top start)
    {allowed : Bytes → Prop} (policy : Policy) (now : Calendar.Stamp) (dryRun : Bool) {world : World}
    (held : KeptWithin start top allowed world) :
    KeptWithin start top allowed ((trimSnapshots target policy now dryRun).run world).2 := by
  have listed := run_snapshots_listing empty held.toKept
  unfold trimSnapshots
  by_cases several : 2 ≤ ((snapshotNames world.files top).map fun name => target.root.join ⟨name⟩).length
  · rw [Task.run_bind_ok (run_existingSnapshots (by rw [listed]) several), Task.run_bind_ok (Task.run_zone world)]
    cases parsed : Snapshot.entriesOfPaths world.zone
        ((snapshotNames world.files top).map fun name => target.root.join ⟨name⟩) with
    | error failure =>
        rw [Task.run_bind_error (Task.run_ofOutcome _ world)]
        exact held
    | ok entries =>
        rw [Task.run_bind_ok (Task.run_ofOutcome _ world)]
        cases cut : policy.cutoffs world.zone now with
        | none =>
            dsimp only
            rw [Task.run_bind_error (Task.run_throw _ world)]
            exact held
        | some cutoffs =>
            dsimp only
            rw [Task.run_bind_ok (Task.run_pure _ world)]
            obtain ⟨last, listedLast⟩ : ∃ last, (snapshotNames world.files top).getLast? = some last := by
              rw [List.length_map] at several
              exact List.getLast?_isSome.mpr (List.ne_nil_of_length_pos (by omega)) |> Option.isSome_iff_exists.mp
            have purging : Purging start top allowed last world :=
              { held with latest := snapshotNames_getLast held.nodup held.linked listedLast }
            refine (purge_keeps empty entries _ dryRun (fun entry marked => ?_) purging).toKeptWithin
            apply doomed_of_mem_dropLast target.root held.toKept listedLast
            rw [← entriesOfPaths_paths parsed, ← List.map_dropLast]
            exact List.mem_map_of_mem (mem_dropLast_of_marked marked)
  · obtain ⟨failure, failed⟩ := run_existingSnapshots_few listed (Nat.lt_of_not_le several)
    rw [Task.run_bind_error failed]
    exact held

end BackupRotation.Retention

namespace BackupRotation.Prune

open Files Store Text

variable {start : FileSystem} {top : Key}

theorem pruneOldest_keeps {target : Target} (empty : EmptyTarget target.root top start)
    {allowed : Bytes → Prop} (count : DeleteCount) (dryRun : Bool) {world : World}
    (held : KeptWithin start top allowed world) :
    KeptWithin start top allowed ((pruneOldest target count dryRun).run world).2 := by
  have listed := Retention.run_snapshots_listing empty held.toKept
  unfold pruneOldest
  by_cases several : 2 ≤ ((snapshotNames world.files top).map fun name => target.root.join ⟨name⟩).length
  · rw [Task.run_bind_ok (run_loadCandidates (by rw [listed]) several), Task.run_bind_ok (Task.run_zone world)]
    cases parsed : Snapshot.entriesOfPaths world.zone
        ((snapshotNames world.files top).map fun name => target.root.join ⟨name⟩).dropLast with
    | error failure =>
        rw [Task.run_bind_error (Task.run_ofOutcome _ world)]
        exact held
    | ok entries =>
        rw [Task.run_bind_ok (Task.run_ofOutcome _ world)]
        obtain ⟨last, listedLast⟩ : ∃ last, (snapshotNames world.files top).getLast? = some last := by
          rw [List.length_map] at several
          exact Option.isSome_iff_exists.mp (List.getLast?_isSome.mpr (List.ne_nil_of_length_pos (by omega)))
        have purging : Purging start top allowed last world :=
          { held with latest := snapshotNames_getLast held.nodup held.linked listedLast }
        refine (purge_keeps empty entries _ dryRun (fun entry marked => ?_) purging).toKeptWithin
        apply doomed_of_mem_dropLast target.root held.toKept listedLast
        rw [← entriesOfPaths_paths parsed]
        exact List.mem_map_of_mem (List.of_mem_zip marked).1
  · obtain ⟨failure, failed⟩ := Retention.run_existingSnapshots_few listed (Nat.lt_of_not_le several)
    unfold loadCandidates
    rw [Task.run_bind_error (Task.run_bind_error failed)]
    exact held

end BackupRotation.Prune
