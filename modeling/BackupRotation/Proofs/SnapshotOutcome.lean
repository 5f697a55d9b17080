import Mathlib
import BackupRotation.Proofs.PurgeView
import BackupRotation.Proofs.SweepCursor
import BackupRotation.Proofs.LatestLink
/-!
# What a snapshot leaves behind

A snapshot validates the target, creates the new directory owner-only, runs
the copy into it, and then either removes it again (a dry run) or gives it
the configured permission and points `latest` at it. A trim, when asked
for, follows against the wall clock. This module says what each of these
outcomes leaves in a target that validates, for a copy that writes only
inside the new directory and may fail.

Whether a target validates is a property of the view right below its root
(`run_validate`): `latest` is a link, or nothing is there. A snapshot whose
copy succeeds without a dry run ends, before the trim, with the new
directory under the configured permission and `latest` naming it
(`takeSnapshotWith_stages`). The trim only ever removes snapshots that sort
before the greatest name, and never touches `latest`, whatever it returns
(`trimSnapshots_frame`); so the new directory survives it when its name is
the greatest, and a target with `latest` still validates afterwards.

Three behaviours are by design and do not fit a simpler account. The trim
sees every snapshot, the new one included, and refuses with fewer than two,
so the first snapshot taken with a trim fails. A dry run deletes nothing and
counts nothing. A failed copy leaves the partly filled directory in place,
so a target that had no `latest` no longer validates.
-/

namespace BackupRotation.Store

open Files Text

variable {start : FileSystem} {top : Key} {target : Target}

/-! ### Validation reads the view -/

theorem run_ensureDirectory_root {world : World} {mode : Nat}
    (rooted : world.files.resolve target.root true = .ok (.found top (.directory mode))) :
    (ensureDirectory target.root).run world = (.ok (), world) := by
  unfold ensureDirectory
  rw [Task.run_bind_ok (Task.run_get world)]
  simp [FileSystem.metadata, rooted, bind, Except.bind, pure, Except.pure, Node.isDirectory]
  rfl

/-- Validating a target reads `latest` without following it: a link lets
the target pass, another node is refused, and without one the root must be
empty. -/
theorem run_validate {world : World} {mode : Nat}
    (rooted : world.files.resolve target.root true = .ok (.found top (.directory mode)))
    (fits : JoinFits target.root latestName) :
    target.validate.run world =
      (match level world.files top latestName with
        | some (.link _) => .ok ()
        | some _ => .error (.invalidLatest target.latestLink.bytes)
        | none => if world.files.children top = [] then .ok () else .error (.targetNotEmpty target.root.bytes),
        world) := by
  unfold Target.validate
  rw [Task.run_bind_ok (run_ensureDirectory_root rooted), Task.run_bind, run_hasLatest_view rooted fits]
  rcases level world.files top latestName with _ | ⟨_ | _ | _⟩
  · have listed : (isEmptyDirectory target.root).run world = (.ok (world.files.children top).isEmpty, world) := by
      unfold isEmptyDirectory
      rw [Task.run_bind_ok (Task.run_ask_ok (FileSystem.readDir_of_resolve rooted))]
      rfl
    dsimp only
    rw [Bool.not_false, if_pos rfl, Task.run_bind_ok listed]
    cases world.files.children top <;> rfl
  all_goals rfl

theorem children_eq_nil_iff {fs : FileSystem} (nodup : fs.KeysNodup) (top : Key) :
    fs.children top = [] ↔ ∀ name, level fs top name = none := by
  constructor
  · intro empty name
    cases found : level fs top name with
    | none => rfl
    | some node =>
        have listed := (FileSystem.mem_children nodup).mpr found
        rw [empty] at listed
        cases listed
  · intro nothing
    cases listed : fs.children top with
    | nil => rfl
    | cons entry rest =>
        have found := (FileSystem.mem_children nodup).mp (listed ▸ List.mem_cons_self : entry ∈ fs.children top)
        rw [show fs.find? (top ++ [entry.1]) = level fs top entry.1 from rfl, nothing] at found
        cases found

section Framed

variable (empty : EmptyTarget target.root top start)
include empty

/-- In framed trees, whether the target validates depends on the view right
below its root alone. -/
theorem Framed.validate_of_level {world other : World} (framed : Framed start top world.files)
    (framed' : Framed start top other.files) (same : level other.files top = level world.files top) :
    (target.validate.run other).1 = (target.validate.run world).1 := by
  obtain ⟨_, rooted⟩ := framed.rooted empty
  obtain ⟨_, rooted'⟩ := framed'.rooted empty
  have emptyRoot : other.files.children top = [] ↔ world.files.children top = [] := by
    rw [children_eq_nil_iff framed'.nodup, children_eq_nil_iff framed.nodup, same]
  rw [run_validate rooted empty.fitsLatest, run_validate rooted' empty.fitsLatest, same]
  by_cases nothing : world.files.children top = []
  · rw [if_pos nothing, if_pos (emptyRoot.mpr nothing)]
  · rw [if_neg nothing, if_neg (mt emptyRoot.mp nothing)]

/-- A target whose `latest` is a link validates. -/
theorem Framed.validate_of_latest {world : World} (framed : Framed start top world.files) {link : Bytes}
    (linked : level world.files top latestName = some (.link link)) :
    target.validate.run world = (.ok (), world) := by
  obtain ⟨_, rooted⟩ := framed.rooted empty
  rw [run_validate rooted empty.fitsLatest, linked]

/-- A target without `latest` that holds anything is refused as not empty. -/
theorem Framed.validate_not_empty {world : World} (framed : Framed start top world.files)
    (unlinked : level world.files top latestName = none) {name : Bytes} {node : Node}
    (present : level world.files top name = some node) :
    target.validate.run world = (.error (.targetNotEmpty target.root.bytes), world) := by
  obtain ⟨_, rooted⟩ := framed.rooted empty
  have occupied : world.files.children top ≠ [] := fun nothing => by
    rw [(children_eq_nil_iff framed.nodup top).mp nothing name] at present
    cases present
  rw [run_validate rooted empty.fitsLatest, unlinked]
  dsimp only
  rw [if_neg occupied]

/-- In a target that validates, whatever stands at `latest` is a link. -/
theorem Framed.linkOrAbsent_of_validate {world : World} (framed : Framed start top world.files)
    (validated : (target.validate.run world).1 = .ok ()) :
    ∀ node, level world.files top latestName = some node → ∃ link, node = .link link := by
  obtain ⟨_, rooted⟩ := framed.rooted empty
  intro node present
  rw [run_validate rooted empty.fitsLatest, present] at validated
  cases node with
  | link link => exact ⟨link, rfl⟩
  | directory _ => cases validated
  | file _ _ => cases validated

end Framed

/-- A framed tree whose snapshots were already snapshots of a framed target,
or have plain names, is a framed target. -/
theorem FramedTarget.of_snapshots {root : PathName} {fs fs' : FileSystem}
    (framedTarget : FramedTarget root top start fs) (framed : Framed start top fs')
    (only : ∀ name, SnapshotIn (level fs' top) name → SnapshotIn (level fs top) name ∨ PlainName name) :
    FramedTarget root top start fs' := by
  refine ⟨framedTarget.empty, framed, fun name listed => ?_⟩
  rcases only name ((mem_snapshotNames framed.nodup top name).mp listed) with old | plain
  · exact framedTarget.plain name ((mem_snapshotNames framedTarget.framed.nodup top name).mpr old)
  · exact plain

/-- A name no listed snapshot sorts after is none of those before the
greatest. -/
theorem not_mem_dropLast_of_greatest {names : List Bytes}
    (sorted : names.Pairwise fun first second => bytesLe first second = true ∧ first ≠ second) {name : Bytes}
    (greatest : ∀ other ∈ names, bytesLe other name = true) : name ∉ names.dropLast := by
  intro early
  cases lastIs : names.getLast? with
  | none =>
      rw [List.getLast?_eq_none_iff] at lastIs
      rw [lastIs] at early
      cases early
  | some last =>
      have whole : names = names.dropLast ++ [last] := (List.dropLast_append_getLast? last lastIs).symm
      have lastIn : last ∈ names := List.mem_of_getLast? lastIs
      rw [whole, List.pairwise_append] at sorted
      have before := sorted.2.2 name early last (List.mem_singleton_self last)
      exact before.2 (bytesLe_antisymm before.1 (greatest last lastIn))

/-- Creating the directory of a snapshot under a free name whose path fits,
in a target that validates, puts the new directory right below the root. -/
theorem run_create_free (empty : EmptyTarget target.root top start) {world : World}
    (framed : Framed start top world.files) (validated : (target.validate.run world).1 = .ok ())
    {time : Calendar.Stamp} (free : level world.files top (encode (Snapshot.formatName time)) = none)
    (fits : JoinFits target.root (encode (Snapshot.formatName time))) (mode : Nat) :
    (target.create time mode).run world =
      (.ok (target.root.join ⟨encode (Snapshot.formatName time)⟩),
        { world with files := (world.files.put (top ++ [encode (Snapshot.formatName time)])
          (.directory (maskedDirectory mode))) }) := by
  obtain ⟨_, rooted⟩ := framed.rooted empty
  have plain := Snapshot.plainName_formatName time
  have unlinked : ∀ link, level world.files top (encode (Snapshot.formatName time)) ≠ some (.link link) := by
    simp [free]
  unfold Target.create
  rcases Task.readOnly_cases (Target.validate_readOnly target) world with ⟨_, failed⟩ | ⟨_, valid⟩
  · rw [failed] at validated
    cases validated
  rw [Task.run_bind_ok valid, Task.run_bind_ok (Task.run_get world)]
  simp only [joinText_eq]
  rw [metadata_child rooted plain fits unlinked, free]
  dsimp only
  rw [Task.run_bind_ok (Task.run_label_ok (Task.run_alter_ok (createDirAll_child rooted plain fits free mode)))]
  rfl

/-- Under a name whose path does not fit, creating the directory fails and
changes nothing. -/
theorem run_create_unfit (empty : EmptyTarget target.root top start) {world : World}
    (framed : Framed start top world.files) {time : Calendar.Stamp}
    (free : level world.files top (encode (Snapshot.formatName time)) = none)
    (unfit : ¬ JoinFits target.root (encode (Snapshot.formatName time))) (mode : Nat) :
    ∃ failure, (target.create time mode).run world = (.error failure, world) := by
  obtain ⟨_, rooted⟩ := framed.rooted empty
  have plain := Snapshot.plainName_formatName time
  have unlinked : ∀ link, level world.files top (encode (Snapshot.formatName time)) ≠ some (.link link) := by
    simp [free]
  unfold Target.create
  rcases Task.readOnly_cases (Target.validate_readOnly target) world with ⟨_, failed⟩ | ⟨_, valid⟩
  · exact ⟨_, Task.run_bind_error failed⟩
  rw [Task.run_bind_ok valid, Task.run_bind_ok (Task.run_get world)]
  simp only [joinText_eq]
  rw [metadata_child_unfit rooted plain unlinked unfit]
  exact ⟨_, Task.run_bind_error (Task.run_throw _ world)⟩

end BackupRotation.Store

namespace BackupRotation.Snapshot

open Files Store Text

variable {start : FileSystem} {top : Key}

/-- The end of a snapshot, once its directory is published or withdrawn: the
trim when asked for, against the wall clock, and the outcome naming the
directory. -/
def snapshotTail (target : Target) (policy : Retention.Policy) (dir : PathName) (trim dryRun : Bool) :
    Task SnapshotOutcome := do
  let purged ← if trim then some <$> Retention.trimSnapshots target policy (← clockStamp) dryRun
    else pure none
  pure { path := dir, purged := purged }

theorem run_requireTarget {config : Settings.Config} {target : Target} (configured : config.target = some target)
    (world : World) : (Task.ofOutcome config.requireTarget).run world = (.ok target, world) := by
  rw [Task.run_ofOutcome, Settings.Config.requireTarget, configured]

theorem run_snapshotTail_keep (target : Target) (policy : Retention.Policy) (dir : PathName) (dryRun : Bool)
    (world : World) :
    (snapshotTail target policy dir false dryRun).run world = (.ok { path := dir, purged := none }, world) :=
  rfl

/-- With a trim, the end of a snapshot is the trim at the wall clock, its
count in the outcome. -/
theorem run_snapshotTail_trim (target : Target) (policy : Retention.Policy) (dir : PathName) (dryRun : Bool)
    (world : World) :
    (snapshotTail target policy dir true dryRun).run world =
      match (Retention.trimSnapshots target policy (world.zone.stamp world.clock) dryRun).run world with
      | (.ok count, reached) => (.ok { path := dir, purged := some count }, reached)
      | (.error failure, reached) => (.error failure, reached) := by
  unfold snapshotTail
  rw [if_pos rfl, Task.run_bind_ok (rfl : clockStamp.run world = (.ok (world.zone.stamp world.clock), world)),
    Task.run_bind, Task.run_map]
  rcases (Retention.trimSnapshots target policy (world.zone.stamp world.clock) dryRun).run world with
    ⟨_ | _, _⟩ <;> rfl

/-- The world the end of a snapshot leaves: the trim's, if there is one. -/
theorem snapshotTail_world (target : Target) (policy : Retention.Policy) (dir : PathName) (trim dryRun : Bool)
    (world : World) :
    ((snapshotTail target policy dir trim dryRun).run world).2 =
      if trim then ((Retention.trimSnapshots target policy (world.zone.stamp world.clock) dryRun).run world).2
      else world := by
  cases trim
  · rfl
  · rw [run_snapshotTail_trim, if_pos rfl]
    rcases (Retention.trimSnapshots target policy (world.zone.stamp world.clock) dryRun).run world with
      ⟨_ | _, _⟩ <;> rfl

/-- Adding a snapshot directory leaves what stands at `latest` as it was. -/
theorem level_latest_of_added {fs : FileSystem} {view : Bytes → Option Node} {name : Bytes}
    (snapshot : isSnapshotName name = true) {node : Option Node}
    (added : level fs top = Function.update view name node) : level fs top latestName = view latestName := by
  rw [added, Function.update_of_ne (not_snapshot_of_latest snapshot).symm]

/-- The stages of a snapshot on a free name whose path fits, in a target that
validates. The directory is created and the copy runs into it; whatever the
copy returns, the tree is framed and the view holds the new directory,
owner-only. A failed copy ends the snapshot there. Otherwise a dry run
removes the directory again, which gives back the view it started from, and
a real one gives it the permission and points `latest` at it; the end of the
snapshot, with or without its trim, runs from there. -/
theorem takeSnapshotWith_stages {transfer : List Bytes → Task Unit} (copies : CopiesInside transfer)
    {config : Settings.Config} {target : Target} (configured : config.target = some target)
    (empty : EmptyTarget target.root top start) {world : World} (framed : Framed start top world.files)
    (validated : (target.validate.run world).1 = .ok ()) {now : Calendar.Stamp}
    (free : level world.files top (encode (formatName now)) = none)
    (fits : JoinFits target.root (encode (formatName now))) (dryRun : Bool) :
    ∃ (args : List Bytes) (made copied : World) (outcome : Outcome Unit),
      (transfer args).run made = (outcome, copied) ∧ Framed start top copied.files ∧
      level copied.files top = Function.update (level world.files top) (encode (formatName now))
        (some (.directory (maskedDirectory initialMode))) ∧
      (∀ failure, outcome = .error failure → ∀ trim : Bool,
        (takeSnapshotWith transfer config now ⟨dryRun, trim⟩).run world = (.error failure, copied)) ∧
      (outcome = .ok () → ∃ done : World, Framed start top done.files ∧
        level done.files top = (if dryRun then level world.files top else
          Function.update (Function.update (level world.files top) (encode (formatName now))
            (some (.directory (config.permission % 0o10000)))) latestName
            (some (.link (encode (formatName now))))) ∧
        ∀ trim : Bool, (takeSnapshotWith transfer config now ⟨dryRun, trim⟩).run world =
          (snapshotTail target config.retention (target.root.join ⟨encode (formatName now)⟩) trim dryRun).run
            done) := by
  have plain := plainName_formatName now
  have snapshot := isSnapshotName_formatName now
  have linkOrAbsent := framed.linkOrAbsent_of_validate empty validated
  -- the world with the new directory
  set made : World := { world with
    files := world.files.put (top ++ [encode (formatName now)]) (.directory (maskedDirectory initialMode)) }
  have framedMade : Framed start top made.files := framed.put _ _
  obtain ⟨_, rootedMade⟩ := framedMade.rooted empty
  have levelMade : level made.files top = Function.update (level world.files top)
      (encode (formatName now)) (some (.directory (maskedDirectory initialMode))) :=
    level_put_child _ _ _ _
  have presentMade : level made.files top (encode (formatName now)) =
      some (.directory (maskedDirectory initialMode)) := by
    rw [levelMade, Function.update_self]
  have linkOrAbsentMade : ∀ node, level made.files top latestName = some node → ∃ link, node = .link link := by
    rw [level_latest_of_added snapshot levelMade]
    exact linkOrAbsent
  obtain ⟨found, latestRan⟩ := latest_succeeds rootedMade empty.fitsLatest linkOrAbsentMade
  -- the copy, with the arguments it is given whether or not a trim follows
  set plan : Transfer.Plan :=
    { delete := true, dryRun := dryRun, linkDest := found.map (·.bytes),
      options := config.options, extraOptions := config.snapshotOptions,
      source := config.source.bytes, destination := (target.root.join ⟨encode (formatName now)⟩).bytes }
  set args := plan.arguments made.console.verbosity
  -- everything up to the copy, whatever the trim
  have opening : ∀ trim : Bool, (takeSnapshotWith transfer config now ⟨dryRun, trim⟩).run world =
      ((transfer args >>= fun _ => if dryRun then do
          Task.alter fun files => files.removeDirAll (target.root.join ⟨encode (formatName now)⟩)
          snapshotTail target config.retention (target.root.join ⟨encode (formatName now)⟩) trim dryRun
        else do
          Task.alter fun files => files.chmod (target.root.join ⟨encode (formatName now)⟩) config.permission
          target.setLatest (target.root.join ⟨encode (formatName now)⟩)
          snapshotTail target config.retention (target.root.join ⟨encode (formatName now)⟩) trim dryRun) :
        Task SnapshotOutcome).run made := by
    intro trim
    unfold takeSnapshotWith
    rw [Task.run_bind_ok (run_requireTarget configured world),
      Task.run_bind_ok (run_create_free empty framed validated free fits initialMode), Task.run_bind_ok latestRan]
    dsimp only
    rw [Task.run_bind_ok (Task.run_verbosity _)]
    rfl
  rcases ran : (transfer args).run made with ⟨outcome, copied⟩
  obtain ⟨framedCopied, levelCopied⟩ := copies.keeps_view ran framedMade rootedMade plain fits
    presentMade (Transfer.Plan.arguments_getLast _ _)
  have filled := levelCopied.trans levelMade
  refine ⟨args, made, copied, outcome, ran, framedCopied, filled, ?_, ?_⟩
  · intro failure failed trim
    subst failed
    rw [opening, Task.run_bind_error ran]
  intro succeeded
  subst succeeded
  obtain ⟨_, rootedCopied⟩ := framedCopied.rooted empty
  have presentCopied : level copied.files top (encode (formatName now)) =
      some (.directory (maskedDirectory initialMode)) := by
    rw [filled, Function.update_self]
  cases dryRun
  · -- a real snapshot opens the directory and points `latest` at it
    set moded : World := { copied with
      files := copied.files.put (top ++ [encode (formatName now)]) (.directory (config.permission % 0o10000)) }
    have opened : level moded.files top = Function.update (level world.files top) (encode (formatName now))
        (some (.directory (config.permission % 0o10000))) := by
      rw [level_put_child, filled, Function.update_idem]
    have presentModed : level moded.files top (encode (formatName now)) =
        some (.directory (config.permission % 0o10000)) := by
      rw [opened, Function.update_self]
    have linkOrAbsentModed : ∀ node, level moded.files top latestName = some node → ∃ link, node = .link link := by
      rw [level_latest_of_added snapshot opened]
      exact linkOrAbsent
    obtain ⟨files, setRan, framedSet, linked⟩ := setLatest_effect empty (framedCopied.put _ _) plain fits
      presentModed linkOrAbsentModed
    refine ⟨{ moded with files := files }, framedSet, ?_, fun trim => ?_⟩
    · rw [if_neg Bool.false_ne_true, linked, opened]
    · rw [opening, Task.run_bind_ok ran, if_neg Bool.false_ne_true, Task.run_bind_ok (Task.run_alter_ok (chmod_child rootedCopied
        plain fits presentCopied config.permission)), Task.run_bind_ok setRan]
  · -- a dry run removes the directory again
    refine ⟨{ copied with files := copied.files.eraseWithin (top ++ [encode (formatName now)]) },
      framedCopied.eraseWithin _, ?_, fun trim => ?_⟩
    · rw [if_pos rfl, level_eraseWithin_child, filled, Function.update_idem, ← free, Function.update_eq_self]
    · rw [opening, Task.run_bind_ok ran, if_pos rfl, Task.run_bind_ok (Task.run_alter_ok (removeDirAll_child rootedCopied plain fits
        presentCopied))]

end BackupRotation.Snapshot

namespace BackupRotation.Prune

open Files Store Snapshot Text

variable {root : PathName} {top : Key} {start : FileSystem}

/-- Deleting a snapshot whose name is not there fails and changes nothing. -/
theorem deleteSnapshot_absent (empty : EmptyTarget root top start) {world : World}
    (framed : Framed start top world.files) {name : Bytes} (plain : PlainName name)
    (absent : level world.files top name = none) :
    ∃ failure, (deleteSnapshot (root.join ⟨name⟩)).run world = (.error failure, world) := by
  obtain ⟨_, rooted⟩ := framed.rooted empty
  unfold deleteSnapshot makeTreeWritable
  by_cases fits : JoinFits root name
  · have missing : world.files.linkMetadata (root.join ⟨name⟩) = .error .notFound := by
      rw [linkMetadata_child rooted plain fits, absent]
    rw [Task.run_bind_error (Task.run_bind_error (Task.run_ask_error missing))]
    exact ⟨_, rfl⟩
  · rw [Task.run_bind_error (Task.run_bind_error (Task.run_ask_error (linkMetadata_child_unfit rooted plain fits)))]
    exact ⟨_, rfl⟩

/-- The trees deletions of some of the `candidates` reach from `fs`: framed,
with every name right below the root as it was or, for a candidate, gone. -/
def ErasedAmong (start : FileSystem) (top : Key) (fs : FileSystem) (candidates : List Bytes)
    (fs' : FileSystem) : Prop :=
  Framed start top fs' ∧
    ∀ other, level fs' top other = level fs top other ∨ (other ∈ candidates ∧ level fs' top other = none)

/-- Deleting a candidate that was a listed snapshot directory keeps the
deletions among the candidates, whatever it returns. -/
theorem deleteSnapshot_erasedAmong {target : Target} {fs : FileSystem}
    (framedTarget : FramedTarget target.root top start fs) {candidates : List Bytes}
    (listed : ∀ name ∈ candidates, name ∈ snapshotNames fs top) {name : Bytes} (candidate : name ∈ candidates)
    {world : World} (held : ErasedAmong start top fs candidates world.files) :
    ErasedAmong start top fs candidates ((deleteSnapshot (target.root.join ⟨name⟩)).run world).2.files := by
  obtain ⟨framed, erased⟩ := held
  obtain ⟨plain, _, mode, directory⟩ := framedTarget.listed (listed name candidate)
  rcases erased name with same | ⟨_, gone⟩
  · rcases deleteSnapshot_directory_effect framedTarget.empty framed plain (same.trans directory) with
      ⟨_, failed⟩ | ⟨files, deleted, framed', erasedName⟩
    · rw [failed]
      exact ⟨framed, erased⟩
    · rw [deleted]
      refine ⟨framed', fun other => ?_⟩
      rw [erasedName]
      by_cases named : other = name
      · subst named
        exact .inr ⟨candidate, Function.update_self _ _ _⟩
      · rw [Function.update_of_ne named]
        exact erased other
  · obtain ⟨_, failed⟩ := deleteSnapshot_absent framedTarget.empty framed plain gone
    rw [failed]
    exact ⟨framed, erased⟩

/-- Deletions among listed candidates leave a framed target. -/
theorem ErasedAmong.framedTarget {target : Target} {fs fs' : FileSystem}
    (framedTarget : FramedTarget target.root top start fs) {candidates : List Bytes}
    (held : ErasedAmong start top fs candidates fs') : FramedTarget target.root top start fs' := by
  refine ⟨framedTarget.empty, held.1, fun name listed' => ?_⟩
  obtain ⟨_, mode, directory⟩ := (mem_snapshotNames held.1.nodup top name).mp listed'
  rcases held.2 name with same | ⟨_, gone⟩
  · refine framedTarget.plain name ((mem_snapshotNames framedTarget.framed.nodup top name).mpr ?_)
    exact ⟨((mem_snapshotNames held.1.nodup top name).mp listed').1, mode, same ▸ directory⟩
  · rw [gone] at directory
    cases directory

end BackupRotation.Prune

namespace BackupRotation.Retention

open Files Store Snapshot Text Prune

variable {top : Key} {start : FileSystem}

theorem existingSnapshots_readOnly (target : Target) : Task.ReadOnly (existingSnapshots target) := by
  unfold existingSnapshots Target.snapshots
  refine Task.readOnly_bind (Task.readOnly_bind (Task.readOnly_ask _) fun _ => Task.readOnly_pure _) fun dirs => ?_
  split
  · exact Task.readOnly_throw _
  · exact Task.readOnly_throw _
  · exact Task.readOnly_pure _

/-- What a trim does to the world: nothing, when it stops before its purge,
or the purge of entries read from the listing with marks on some of them,
never on the last. -/
theorem trimSnapshots_world (target : Target) (policy : Policy) (now : Calendar.Stamp) (dryRun : Bool)
    (world : World) :
    ((trimSnapshots target policy now dryRun).run world).2 = world ∨
      ∃ dirs entries remove, (target.snapshots.run world).1 = .ok dirs ∧
        entriesOfPaths world.zone dirs = .ok entries ∧
        (∀ entry, (entry, true) ∈ entries.zip remove → entry ∈ entries.dropLast) ∧
        ((trimSnapshots target policy now dryRun).run world).2 = ((purge entries remove dryRun).run world).2 := by
  unfold trimSnapshots
  rcases Task.readOnly_cases (existingSnapshots_readOnly target) world with ⟨_, failed⟩ | ⟨dirs, listedOk⟩
  · left
    rw [Task.run_bind_error failed]
  obtain ⟨listed, _, _⟩ := existingSnapshots_ok_inv listedOk
  rw [Task.run_bind_ok listedOk, Task.run_bind_ok (Task.run_zone world)]
  cases parsed : entriesOfPaths world.zone dirs with
  | error _ =>
      left
      rw [Task.run_bind_error (Task.run_ofOutcome _ world)]
  | ok entries =>
      rw [Task.run_bind_ok (Task.run_ofOutcome _ world)]
      cases cut : policy.cutoffs world.zone now with
      | none =>
          left
          dsimp only
          rw [Task.run_bind_error (Task.run_throw _ world)]
      | some cutoffs =>
          obtain ⟨hourly, daily⟩ := cutoffs
          right
          dsimp only
          rw [Task.run_bind_ok (Task.run_pure _ world)]
          exact ⟨dirs, entries, _, by rw [listed], parsed, fun _ marked => mem_dropLast_of_marked marked, rfl⟩

/-- A trim of a framed target, whatever it returns, leaves the target framed
and every entry right below the root but the snapshots before the greatest
name as it was: the greatest snapshot and `latest` among them. -/
theorem trimSnapshots_frame {target : Target} {world : World}
    (framedTarget : FramedTarget target.root top start world.files) (policy : Policy) (now : Calendar.Stamp)
    (dryRun : Bool) :
    FramedTarget target.root top start ((trimSnapshots target policy now dryRun).run world).2.files ∧
      ∀ other, other ∉ (snapshotNames world.files top).dropLast →
        level ((trimSnapshots target policy now dryRun).run world).2.files top other =
          level world.files top other := by
  rcases trimSnapshots_world target policy now dryRun world with same | ⟨dirs, entries, remove, listed, parsed,
    early, trimmed⟩
  · rw [same]
    exact ⟨framedTarget, fun _ _ => rfl⟩
  rw [trimmed]
  rw [framedTarget.run_snapshots] at listed
  have dirsNames := (Except.ok.inj listed).symm
  -- every marked entry is a snapshot before the greatest name
  have candidates : ∀ entry, (entry, true) ∈ entries.zip remove →
      ∃ name ∈ (snapshotNames world.files top).dropLast, entry.path = target.root.join ⟨name⟩ := by
    intro entry marked
    have early' : entry.path ∈ dirs.dropLast := by
      rw [← entriesOfPaths_paths parsed, ← List.map_dropLast]
      exact List.mem_map_of_mem (early entry marked)
    rw [dirsNames, ← List.map_dropLast, List.mem_map] at early'
    obtain ⟨name, candidate, named⟩ := early'
    exact ⟨name, candidate, named.symm⟩
  have held : ErasedAmong start top world.files (snapshotNames world.files top).dropLast
      ((purge entries remove dryRun).run world).2.files := by
    refine purge_keeps_of (P := fun world' => ErasedAmong start top world.files _ world'.files) entries remove dryRun
      (fun _ _ held => held) (fun entry marked _ reached heldReached => ?_) ⟨framedTarget.framed, fun _ => .inl rfl⟩
    obtain ⟨name, candidate, named⟩ := candidates entry marked
    rw [named]
    exact deleteSnapshot_erasedAmong framedTarget (fun _ inside => (List.dropLast_sublist _).subset inside) candidate
      heldReached
  exact ⟨held.framedTarget framedTarget, fun other outside =>
    (held.2 other).resolve_right fun gone => outside gone.1⟩

/-- A trim in a dry run leaves the tree as it was, whatever it returns. -/
theorem trimSnapshots_dryRun_files (target : Target) (policy : Policy) (now : Calendar.Stamp) (world : World) :
    ((trimSnapshots target policy now true).run world).2.files = world.files := by
  rcases trimSnapshots_world target policy now true world with same | ⟨_, entries, remove, _, _, _, trimmed⟩
  · rw [same]
  · rw [trimmed]
    exact purge_keeps_of (P := fun world' => world'.files = world.files) entries remove true (fun _ _ held => held)
      (fun _ _ notDry => by cases notDry) rfl

/-- With fewer than two snapshots, a trim refuses: there are none, or only
the latest. -/
theorem run_trimSnapshots_few {target : Target} {policy : Policy} {now : Calendar.Stamp} {dryRun : Bool}
    {world : World} {dirs : List PathName} (listed : (target.snapshots.run world).1 = .ok dirs)
    (few : dirs.length < 2) :
    (trimSnapshots target policy now dryRun).run world =
      (.error (if dirs = [] then .noBackups target.root.bytes else .onlyLatest target.root.bytes), world) := by
  unfold trimSnapshots existingSnapshots
  rw [Task.run_bind, Task.run_bind_ok (Target.run_snapshots listed)]
  match dirs, few with
  | [], _ => rfl
  | [_], _ => rfl

end BackupRotation.Retention

namespace BackupRotation.Snapshot

open Files Store Text Prune Retention

variable {start : FileSystem} {top : Key} {transfer : List Bytes → Task Unit} {config : Settings.Config}
  {target : Target} {world : World} {now : Calendar.Stamp}

/-- A snapshot whose directory path does not fit fails before anything is
written. -/
theorem takeSnapshotWith_unfit (configured : config.target = some target)
    (empty : EmptyTarget target.root top start) (framed : Framed start top world.files)
    (free : level world.files top (encode (formatName now)) = none)
    (unfit : ¬ JoinFits target.root (encode (formatName now))) (options : SnapshotOptions) :
    ∃ failure, (takeSnapshotWith transfer config now options).run world = (.error failure, world) := by
  obtain ⟨failure, refused⟩ := run_create_unfit empty framed free unfit initialMode
  refine ⟨failure, ?_⟩
  unfold takeSnapshotWith
  rw [Task.run_bind_ok (run_requireTarget configured world), Task.run_bind_error refused]

/-- Once the copy has succeeded, the target is still a framed target: a dry
run leaves the old view, and a real one adds a directory of plain name. -/
theorem framedTarget_of_published (framedTarget : FramedTarget target.root top start world.files)
    {done : FileSystem} (framed : Framed start top done) (dryRun : Bool) (permission : Nat)
    (published : level done top = (if dryRun then level world.files top else
      Function.update (Function.update (level world.files top) (encode (formatName now))
        (some (.directory permission))) latestName (some (.link (encode (formatName now)))))) :
    FramedTarget target.root top start done := by
  refine framedTarget.of_snapshots framed fun name present => ?_
  rw [published] at present
  cases dryRun
  · rcases snapshotIn_add present with rfl | old
    · exact .inr (plainName_formatName now)
    · exact .inl old
  · exact .inl present

/-- A snapshot whose copy succeeds reaches the end of the snapshot in a
framed target: the old view after a dry run, and otherwise the new directory
under the configured permission with `latest` naming it. -/
theorem takeSnapshotWith_reaches_tail (writes : WritesInside transfer) (configured : config.target = some target)
    (framedTarget : FramedTarget target.root top start world.files)
    (validated : (target.validate.run world).1 = .ok ())
    (free : level world.files top (encode (formatName now)) = none)
    (fits : JoinFits target.root (encode (formatName now))) (dryRun : Bool) :
    ∃ done : World, FramedTarget target.root top start done.files ∧
      level done.files top = (if dryRun then level world.files top else
        Function.update (Function.update (level world.files top) (encode (formatName now))
          (some (.directory (config.permission % 0o10000)))) latestName
          (some (.link (encode (formatName now))))) ∧
      ∀ trim : Bool, (takeSnapshotWith transfer config now ⟨dryRun, trim⟩).run world =
        (snapshotTail target config.retention (target.root.join ⟨encode (formatName now)⟩) trim dryRun).run
          done := by
  obtain ⟨_, _, _, _, ran, -, -, -, published⟩ := takeSnapshotWith_stages writes.copiesInside configured
    framedTarget.empty framedTarget.framed validated free fits dryRun
  obtain ⟨done, framedDone, levelDone, runs⟩ := published (writes ran).1
  exact ⟨done, framedTarget_of_published framedTarget framedDone dryRun _ levelDone, levelDone, runs⟩

/-- A real snapshot whose copy succeeds publishes its directory: without a
trim it returns there, with the directory under the configured permission
and `latest` naming it; with a trim both survive when no snapshot there
sorts after the new name. -/
theorem takeSnapshotWith_publishes (writes : WritesInside transfer) (configured : config.target = some target)
    (framedTarget : FramedTarget target.root top start world.files)
    (validated : (target.validate.run world).1 = .ok ())
    (free : level world.files top (encode (formatName now)) = none)
    (fits : JoinFits target.root (encode (formatName now))) :
    ∃ published : World, FramedTarget target.root top start published.files ∧
      level published.files top = Function.update (Function.update (level world.files top)
        (encode (formatName now)) (some (.directory (config.permission % 0o10000)))) latestName
        (some (.link (encode (formatName now)))) ∧
      (takeSnapshotWith transfer config now ⟨false, false⟩).run world =
        (.ok { path := target.root.join ⟨encode (formatName now)⟩, purged := none }, published) ∧
      ((∀ old ∈ snapshotNames world.files top, bytesLe old (encode (formatName now)) = true) →
        level ((takeSnapshotWith transfer config now ⟨false, true⟩).run world).2.files top
            (encode (formatName now)) = some (.directory (config.permission % 0o10000)) ∧
          level ((takeSnapshotWith transfer config now ⟨false, true⟩).run world).2.files top latestName =
            some (.link (encode (formatName now)))) := by
  obtain ⟨published, publishedTarget, levelPublished, runs⟩ :=
    takeSnapshotWith_reaches_tail writes configured framedTarget validated free fits false
  rw [if_neg Bool.false_ne_true] at levelPublished
  refine ⟨published, publishedTarget, levelPublished, by rw [runs false, run_snapshotTail_keep], fun before => ?_⟩
  obtain ⟨-, untouched⟩ := trimSnapshots_frame publishedTarget config.retention
    (published.zone.stamp published.clock) false
  rw [runs true, snapshotTail_world, if_pos rfl]
  -- the new name is the greatest listed, and `latest` is no snapshot
  have greatest : ∀ other ∈ snapshotNames published.files top, bytesLe other (encode (formatName now)) = true := by
    intro other listed
    rw [mem_snapshotNames publishedTarget.framed.nodup, levelPublished] at listed
    rcases snapshotIn_add listed with rfl | old
    · exact bytesLe_refl _
    · exact before other ((mem_snapshotNames framedTarget.framed.nodup top other).mpr old)
  have newKept := untouched _ (not_mem_dropLast_of_greatest
    (snapshotNames_sorted publishedTarget.framed.nodup top) greatest)
  have latestKept := untouched latestName fun early =>
    latestName_not_mem_snapshotNames publishedTarget.framed.nodup top ((List.dropLast_sublist _).subset early)
  refine ⟨newKept.trans ?_, latestKept.trans ?_⟩
  · rw [levelPublished, Function.update_of_ne (not_snapshot_of_latest (isSnapshotName_formatName now)),
      Function.update_self]
  · rw [levelPublished, Function.update_self]

/-- A snapshot with a trim whose copy succeeds trims the target it reaches:
the old view after a dry run, the published one otherwise, at the wall clock
of that moment. With fewer than two snapshots there the trim refuses and so
does the snapshot. Otherwise, when every name reads as a time, the cutoffs lie
inside the calendar and every deletion succeeds, the snapshot returns the
number of snapshots the classifier flags (none in a dry run) and reports every
snapshot. -/
theorem takeSnapshotWith_trim_result (writes : WritesInside transfer) (configured : config.target = some target)
    (framedTarget : FramedTarget target.root top start world.files)
    (validated : (target.validate.run world).1 = .ok ())
    (free : level world.files top (encode (formatName now)) = none)
    (fits : JoinFits target.root (encode (formatName now))) (dryRun : Bool) :
    ∃ trimmed : World, FramedTarget target.root top start trimmed.files ∧
      level trimmed.files top = (if dryRun then level world.files top else
        Function.update (Function.update (level world.files top) (encode (formatName now))
          (some (.directory (config.permission % 0o10000)))) latestName
          (some (.link (encode (formatName now))))) ∧
      ((snapshotNames trimmed.files top).length < 2 →
        (takeSnapshotWith transfer config now ⟨dryRun, true⟩).run world =
          (.error (if snapshotNames trimmed.files top = [] then .noBackups target.root.bytes
            else .onlyLatest target.root.bytes), trimmed)) ∧
      ∀ (entries : List Entry) (hourly daily : Calendar.Stamp) (reached : World),
        2 ≤ (snapshotNames trimmed.files top).length →
        entriesOfPaths trimmed.zone ((snapshotNames trimmed.files top).map fun name => target.root.join ⟨name⟩) =
          .ok entries →
        config.retention.cutoffs trimmed.zone (trimmed.zone.stamp trimmed.clock) = some (hourly, daily) →
        ((deletions dryRun (entries.zip (classify (entries.map (·.time)) hourly daily))).forM deleteSnapshot).run
          trimmed = (.ok (), reached) →
        (takeSnapshotWith transfer config now ⟨dryRun, true⟩).run world =
          (.ok
            { path := target.root.join ⟨encode (formatName now)⟩,
              purged := some (if dryRun then 0 else (classify (entries.map (·.time)) hourly daily).count true) },
            reported reached ((entries.zip (classify (entries.map (·.time)) hourly daily)).map (pruneEvent dryRun))) := by
  obtain ⟨trimmed, trimmedTarget, levelTrimmed, runs⟩ :=
    takeSnapshotWith_reaches_tail writes configured framedTarget validated free fits dryRun
  have listed := congrArg Prod.fst trimmedTarget.run_snapshots
  refine ⟨trimmed, trimmedTarget, levelTrimmed, fun few => ?_, fun entries hourly daily reached several parsed cut
    deleted => ?_⟩
  · rw [runs true, run_snapshotTail_trim, run_trimSnapshots_few listed (by rwa [List.length_map])]
    simp only [List.map_eq_nil_iff]
  · have matched : entries.length = (classify (entries.map (·.time)) hourly daily).length := by
      rw [length_classify, List.length_map]
    rw [runs true, run_snapshotTail_trim, run_trimSnapshots listed (by rwa [List.length_map]) parsed cut,
      (purge_accounts_for_deletions entries _ dryRun trimmed).2.1 reached matched deleted]

/-- Whatever a snapshot returns, a target that validated still validates
afterwards, with one exception: a copy that fails in a target without
`latest` leaves the new directory behind, and the target is then refused as
not empty. -/
theorem validate_after_takeSnapshotWith (copies : CopiesInside transfer) (configured : config.target = some target)
    (framedTarget : FramedTarget target.root top start world.files)
    (validated : (target.validate.run world).1 = .ok ())
    (free : level world.files top (encode (formatName now)) = none) (options : SnapshotOptions) :
    (target.validate.run ((takeSnapshotWith transfer config now options).run world).2).1 = .ok () ∨
      level world.files top latestName = none ∧
        (∃ failure, ((takeSnapshotWith transfer config now options).run world).1 = .error failure) ∧
        level ((takeSnapshotWith transfer config now options).run world).2.files top (encode (formatName now)) =
          some (.directory (maskedDirectory initialMode)) ∧
        (target.validate.run ((takeSnapshotWith transfer config now options).run world).2).1 =
          .error (.targetNotEmpty target.root.bytes) := by
  obtain ⟨dryRun, trim⟩ := options
  have empty := framedTarget.empty
  have framed := framedTarget.framed
  by_cases fits : JoinFits target.root (encode (formatName now))
  swap
  · obtain ⟨_, refused⟩ := takeSnapshotWith_unfit configured empty framed free fits ⟨dryRun, trim⟩
    rw [refused]
    exact .inl validated
  obtain ⟨_, _, copied, outcome, ran, framedCopied, filled, failed, published⟩ :=
    takeSnapshotWith_stages copies configured empty framed validated free fits dryRun
  rcases outcome with failure | ⟨⟩
  · -- a failed copy leaves the directory it was copying into
    rw [failed failure rfl trim]
    have present : level copied.files top (encode (formatName now)) =
        some (.directory (maskedDirectory initialMode)) := by
      rw [filled, Function.update_self]
    have latestKept : level copied.files top latestName = level world.files top latestName :=
      level_latest_of_added (isSnapshotName_formatName now) filled
    cases linkOrAbsent : level world.files top latestName with
    | none =>
        refine .inr ⟨rfl, ⟨failure, rfl⟩, present, ?_⟩
        rw [framedCopied.validate_not_empty empty (latestKept.trans linkOrAbsent) present]
    | some node =>
        obtain ⟨link, rfl⟩ := framed.linkOrAbsent_of_validate empty validated node linkOrAbsent
        rw [framedCopied.validate_of_latest empty (latestKept.trans linkOrAbsent)]
        exact .inl rfl
  obtain ⟨done, framedDone, levelDone, runs⟩ := published rfl
  have doneTarget := framedTarget_of_published framedTarget framedDone dryRun _ levelDone
  refine .inl ?_
  rw [runs trim, snapshotTail_world]
  cases dryRun
  · -- `latest` names the new directory, and no trim touches it
    rw [if_neg Bool.false_ne_true] at levelDone
    have linked : level done.files top latestName = some (.link (encode (formatName now))) := by
      rw [levelDone, Function.update_self]
    cases trim
    · rw [if_neg Bool.false_ne_true, framedDone.validate_of_latest empty linked]
    · rw [if_pos rfl]
      obtain ⟨trimmedTarget, untouched⟩ := trimSnapshots_frame doneTarget config.retention
        (done.zone.stamp done.clock) false
      have latestKept := untouched latestName fun early =>
        latestName_not_mem_snapshotNames doneTarget.framed.nodup top ((List.dropLast_sublist _).subset early)
      rw [trimmedTarget.framed.validate_of_latest empty (latestKept.trans linked)]
  · -- a dry run gives back the old view, and its trim deletes nothing
    rw [if_pos rfl] at levelDone
    have unchanged : (if trim = true then
        ((trimSnapshots target config.retention (done.zone.stamp done.clock) true).run done).2 else done).files =
          done.files := by
      cases trim
      · rfl
      · exact trimSnapshots_dryRun_files _ _ _ _
    rw [← validated]
    exact Framed.validate_of_level empty framed (unchanged ▸ framedDone) (unchanged ▸ levelDone)

/-- What a snapshot leaves in a target that validates, under a name not yet
taken. For a copy that succeeds and writes only inside the new directory,
under a path that fits: a real snapshot without a trim returns with the new
directory under the configured permission and `latest` naming it, and with a
trim both survive when no snapshot there sorts after the new name. A snapshot
with a trim trims what it reached, the published target or, in a dry run, the
old one: with fewer than two snapshots there it fails with `NoBackups` or
`OnlyLatest`; otherwise, when every name reads as a time, the cutoffs at that
moment lie in the calendar and every deletion succeeds, it returns the number
of snapshots the classifier flags, none in a dry run. For a copy that may
fail: the target still validates afterwards, unless the copy failed in a
target without `latest`, which leaves the new directory behind and the target
refused as not empty. -/
theorem snapshot_outcome_in_valid_target (configured : config.target = some target)
    (framedTarget : FramedTarget target.root top start world.files)
    (validated : (target.validate.run world).1 = .ok ())
    (free : level world.files top (encode (formatName now)) = none) :
    (∀ transfer : List Bytes → Task Unit, WritesInside transfer → JoinFits target.root (encode (formatName now)) →
      (∃ published : World, FramedTarget target.root top start published.files ∧
        level published.files top = Function.update (Function.update (level world.files top)
          (encode (formatName now)) (some (.directory (config.permission % 0o10000)))) latestName
          (some (.link (encode (formatName now)))) ∧
        (takeSnapshotWith transfer config now ⟨false, false⟩).run world =
          (.ok { path := target.root.join ⟨encode (formatName now)⟩, purged := none }, published) ∧
        ((∀ old ∈ snapshotNames world.files top, bytesLe old (encode (formatName now)) = true) →
          level ((takeSnapshotWith transfer config now ⟨false, true⟩).run world).2.files top
              (encode (formatName now)) = some (.directory (config.permission % 0o10000)) ∧
            level ((takeSnapshotWith transfer config now ⟨false, true⟩).run world).2.files top latestName =
              some (.link (encode (formatName now))))) ∧
      ∀ dryRun : Bool, ∃ trimmed : World, FramedTarget target.root top start trimmed.files ∧
        level trimmed.files top = (if dryRun then level world.files top else
          Function.update (Function.update (level world.files top) (encode (formatName now))
            (some (.directory (config.permission % 0o10000)))) latestName
            (some (.link (encode (formatName now))))) ∧
        ((snapshotNames trimmed.files top).length < 2 →
          (takeSnapshotWith transfer config now ⟨dryRun, true⟩).run world =
            (.error (if snapshotNames trimmed.files top = [] then .noBackups target.root.bytes
              else .onlyLatest target.root.bytes), trimmed)) ∧
        ∀ (entries : List Entry) (hourly daily : Calendar.Stamp) (reached : World),
          2 ≤ (snapshotNames trimmed.files top).length →
          entriesOfPaths trimmed.zone ((snapshotNames trimmed.files top).map fun name => target.root.join ⟨name⟩) =
            .ok entries →
          config.retention.cutoffs trimmed.zone (trimmed.zone.stamp trimmed.clock) = some (hourly, daily) →
          ((deletions dryRun (entries.zip (classify (entries.map (·.time)) hourly daily))).forM deleteSnapshot).run
            trimmed = (.ok (), reached) →
          (takeSnapshotWith transfer config now ⟨dryRun, true⟩).run world =
            (.ok
              { path := target.root.join ⟨encode (formatName now)⟩,
                purged := some (if dryRun then 0 else (classify (entries.map (·.time)) hourly daily).count true) },
              reported reached ((entries.zip (classify (entries.map (·.time)) hourly daily)).map
                (pruneEvent dryRun)))) ∧
    (∀ transfer : List Bytes → Task Unit, CopiesInside transfer → ∀ options : SnapshotOptions,
      (target.validate.run ((takeSnapshotWith transfer config now options).run world).2).1 = .ok () ∨
        level world.files top latestName = none ∧
          (∃ failure, ((takeSnapshotWith transfer config now options).run world).1 = .error failure) ∧
          level ((takeSnapshotWith transfer config now options).run world).2.files top (encode (formatName now)) =
            some (.directory (maskedDirectory initialMode)) ∧
          (target.validate.run ((takeSnapshotWith transfer config now options).run world).2).1 =
            .error (.targetNotEmpty target.root.bytes)) :=
  ⟨fun _ writes fits => ⟨takeSnapshotWith_publishes writes configured framedTarget validated free fits,
      takeSnapshotWith_trim_result writes configured framedTarget validated free fits⟩,
    fun _ copies options => validate_after_takeSnapshotWith copies configured framedTarget validated free options⟩

/-- 1 January 2024, 10:00 UTC. -/
def firstOfJanuaryTen : Calendar.Stamp := ⟨⟨1704103200, 0⟩, 0⟩

/-- 1 January 2024, noon UTC. -/
def firstOfJanuaryNoon : Calendar.Stamp := ⟨⟨1704110400, 0⟩, 0⟩

/-- The empty target `/t` in UTC, with the wall clock at 10 January 2024,
midnight. -/
def tenthOfJanuaryWorld : World := { emptyTargetWorld .utc with clock := ⟨1704844800, 0⟩ }

theorem framedTarget_emptyTargetFiles : FramedTarget targetT.root [encode "t"] emptyTargetFiles emptyTargetFiles where
  empty := emptyTarget_emptyTargetFiles
  framed := (kept_start emptyTarget_emptyTargetFiles).toFramed
  plain := by
    have listed : snapshotNames emptyTargetFiles [encode "t"] = [] := by cbv
    simp [listed]

/-- Three snapshots into the empty target `/t` that go otherwise than a
simpler account says. The first snapshot taken with a trim fails with
`OnlyLatest`, after its directory is published. A snapshot at 10:00 taken
with a trim after one at noon of the same day, with the wall clock nine days
later, is deleted by its own trim. And the program's own copy, with no
synchronizer installed, fails and leaves the new directory, so the target no
longer validates. -/
theorem snapshot_outcome_exceptions :
    ((takeSnapshotWith (fun _ => pure ()) targetTConfig firstOfJanuaryTen ⟨false, true⟩).run
        (emptyTargetWorld .utc)).1 = .error (.onlyLatest targetT.root.bytes) ∧
    level ((takeSnapshotWith (fun _ => pure ()) targetTConfig firstOfJanuaryTen ⟨false, true⟩).run
        ((takeSnapshotWith (fun _ => pure ()) targetTConfig firstOfJanuaryNoon ⟨false, false⟩).run
          tenthOfJanuaryWorld).2).2.files [encode "t"] (encode (formatName firstOfJanuaryTen)) = none ∧
    (targetT.validate.run ((takeSnapshot targetTConfig firstOfJanuaryTen {}).run (emptyTargetWorld .utc)).2).1 =
      .error (.targetNotEmpty targetT.root.bytes) :=
  ⟨by cbv, by cbv, by cbv⟩

/-- In the empty target `/t`, every part of the account applies to a
snapshot on 1 January 2024 at 10:00. -/
theorem snapshot_outcome_in_valid_target_emptyTarget :
    targetTConfig.target = some targetT ∧
    FramedTarget targetT.root [encode "t"] emptyTargetFiles (emptyTargetWorld .utc).files ∧
    (targetT.validate.run (emptyTargetWorld .utc)).1 = .ok () ∧
    level (emptyTargetWorld .utc).files [encode "t"] (encode (formatName firstOfJanuaryTen)) = none ∧
    (∀ transfer : List Bytes → Task Unit, WritesInside transfer →
      JoinFits targetT.root (encode (formatName firstOfJanuaryTen)) →
      (∃ published : World, FramedTarget targetT.root [encode "t"] emptyTargetFiles published.files ∧
        level published.files [encode "t"] = Function.update (Function.update
          (level (emptyTargetWorld .utc).files [encode "t"]) (encode (formatName firstOfJanuaryTen))
          (some (.directory (targetTConfig.permission % 0o10000)))) latestName
          (some (.link (encode (formatName firstOfJanuaryTen)))) ∧
        (takeSnapshotWith transfer targetTConfig firstOfJanuaryTen ⟨false, false⟩).run (emptyTargetWorld .utc) =
          (.ok { path := targetT.root.join ⟨encode (formatName firstOfJanuaryTen)⟩, purged := none }, published) ∧
        ((∀ old ∈ snapshotNames (emptyTargetWorld .utc).files [encode "t"],
            bytesLe old (encode (formatName firstOfJanuaryTen)) = true) →
          level ((takeSnapshotWith transfer targetTConfig firstOfJanuaryTen ⟨false, true⟩).run
              (emptyTargetWorld .utc)).2.files [encode "t"] (encode (formatName firstOfJanuaryTen)) =
            some (.directory (targetTConfig.permission % 0o10000)) ∧
          level ((takeSnapshotWith transfer targetTConfig firstOfJanuaryTen ⟨false, true⟩).run
              (emptyTargetWorld .utc)).2.files [encode "t"] latestName =
            some (.link (encode (formatName firstOfJanuaryTen))))) ∧
      ∀ dryRun : Bool, ∃ trimmed : World, FramedTarget targetT.root [encode "t"] emptyTargetFiles trimmed.files ∧
        level trimmed.files [encode "t"] = (if dryRun then level (emptyTargetWorld .utc).files [encode "t"] else
          Function.update (Function.update (level (emptyTargetWorld .utc).files [encode "t"])
            (encode (formatName firstOfJanuaryTen)) (some (.directory (targetTConfig.permission % 0o10000))))
            latestName (some (.link (encode (formatName firstOfJanuaryTen))))) ∧
        ((snapshotNames trimmed.files [encode "t"]).length < 2 →
          (takeSnapshotWith transfer targetTConfig firstOfJanuaryTen ⟨dryRun, true⟩).run (emptyTargetWorld .utc) =
            (.error (if snapshotNames trimmed.files [encode "t"] = [] then .noBackups targetT.root.bytes
              else .onlyLatest targetT.root.bytes), trimmed)) ∧
        ∀ (entries : List Entry) (hourly daily : Calendar.Stamp) (reached : World),
          2 ≤ (snapshotNames trimmed.files [encode "t"]).length →
          entriesOfPaths trimmed.zone
              ((snapshotNames trimmed.files [encode "t"]).map fun name => targetT.root.join ⟨name⟩) =
            .ok entries →
          targetTConfig.retention.cutoffs trimmed.zone (trimmed.zone.stamp trimmed.clock) =
            some (hourly, daily) →
          ((deletions dryRun (entries.zip (classify (entries.map (·.time)) hourly daily))).forM deleteSnapshot).run
            trimmed = (.ok (), reached) →
          (takeSnapshotWith transfer targetTConfig firstOfJanuaryTen ⟨dryRun, true⟩).run (emptyTargetWorld .utc) =
            (.ok
              { path := targetT.root.join ⟨encode (formatName firstOfJanuaryTen)⟩,
                purged := some (if dryRun then 0 else (classify (entries.map (·.time)) hourly daily).count true) },
              reported reached ((entries.zip (classify (entries.map (·.time)) hourly daily)).map
                (pruneEvent dryRun)))) ∧
    (∀ transfer : List Bytes → Task Unit, CopiesInside transfer → ∀ options : SnapshotOptions,
      (targetT.validate.run ((takeSnapshotWith transfer targetTConfig firstOfJanuaryTen options).run
          (emptyTargetWorld .utc)).2).1 = .ok () ∨
        level (emptyTargetWorld .utc).files [encode "t"] latestName = none ∧
          (∃ failure, ((takeSnapshotWith transfer targetTConfig firstOfJanuaryTen options).run
            (emptyTargetWorld .utc)).1 = .error failure) ∧
          level ((takeSnapshotWith transfer targetTConfig firstOfJanuaryTen options).run
              (emptyTargetWorld .utc)).2.files [encode "t"] (encode (formatName firstOfJanuaryTen)) =
            some (.directory (maskedDirectory initialMode)) ∧
          (targetT.validate.run ((takeSnapshotWith transfer targetTConfig firstOfJanuaryTen options).run
              (emptyTargetWorld .utc)).2).1 = .error (.targetNotEmpty targetT.root.bytes)) := by
  have validated : (targetT.validate.run (emptyTargetWorld .utc)).1 = .ok () := by cbv
  have free : level (emptyTargetWorld .utc).files [encode "t"] (encode (formatName firstOfJanuaryTen)) = none := by
    cbv
  exact ⟨rfl, framedTarget_emptyTargetFiles, validated, free,
    snapshot_outcome_in_valid_target rfl framedTarget_emptyTargetFiles validated free⟩

end BackupRotation.Snapshot
