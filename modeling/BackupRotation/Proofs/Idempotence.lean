import BackupRotation.Proofs.PurgeView
import BackupRotation.Proofs.SweepCursor
import BackupRotation.Proofs.TrimSchedule
import BackupRotation.Proofs.LatestLink
/-!
# A second trim has nothing to do

A trim keeps the snapshots the classifier does not flag. Classifying what it
kept, with the same cutoffs, flags nothing, on every input: sorted or not,
with repeated times or mixed offsets. Read from the oldest end, the sweep
over the survivors meets at each survivor the cursor the first sweep met
there, the oldest kept entry after it, and the first sweep found it no
duplicate of that cursor (`classify_survivors`).

On a target this makes a trim idempotent. Once a trim has succeeded, the
target lists exactly the snapshots it kept; a second trim at the same instant
reads them again, keeps them all, deletes nothing and reports each of them
as kept, or, when a single snapshot is left, refuses as every trim does with
fewer than two.
-/

namespace BackupRotation.Retention

open Calendar Prune

section Survivors

variable (hourly daily : Stamp)

/-- The survivors read from the oldest end: the oldest entry survives exactly
when it duplicates no kept entry after it. -/
theorem survivors_cons (entry : Stamp) (later : List Stamp) :
    survivors (entry :: later) hourly daily =
      if (oldestKept hourly daily later).any (duplicates hourly daily · entry) then
        survivors later hourly daily
      else entry :: survivors later hourly daily := by
  unfold survivors
  rw [classify_cons]
  split <;> simp [*]

/-- The survivors are classified against the cursors the whole list was: they
keep the oldest kept entry of the whole list, and none of them is flagged. -/
theorem classify_survivors (times : List Stamp) :
    oldestKept hourly daily (survivors times hourly daily) = oldestKept hourly daily times ∧
      classify (survivors times hourly daily) hourly daily =
        List.replicate (survivors times hourly daily).length false := by
  induction times with
  | nil => exact ⟨rfl, rfl⟩
  | cons entry later ih =>
      obtain ⟨sameCursor, unflagged⟩ := ih
      rw [survivors_cons]
      by_cases duplicate : (oldestKept hourly daily later).any (duplicates hourly daily · entry) = true
      · rw [if_pos duplicate, oldestKept_cons, if_pos duplicate]
        exact ⟨sameCursor, unflagged⟩
      · -- the entry survives, and against the same cursor it is again no duplicate
        rw [if_neg duplicate, oldestKept_cons, oldestKept_cons, sameCursor, if_neg duplicate,
          classify_cons, sameCursor, unflagged]
        simp [duplicate, List.replicate_succ]

/-- Whatever the input, a trim keeps something of a nonempty list: the oldest
kept entry. -/
theorem survivors_ne_nil {times : List Stamp} (nonempty : times ≠ []) : survivors times hourly daily ≠ [] := by
  obtain ⟨kept, found⟩ := oldestKept_isSome hourly daily nonempty
  intro none
  have again := (classify_survivors hourly daily times).1
  rw [none, found] at again
  cases again

/-- Retention is idempotent: trimming what a trim kept, with the same
cutoffs, keeps all of it. -/
theorem survivors_survivors (times : List Stamp) :
    survivors (survivors times hourly daily) hourly daily = survivors times hourly daily := by
  calc survivors (survivors times hourly daily) hourly daily
      = unmarked (survivors times hourly daily) (classify (survivors times hourly daily) hourly daily) := rfl
    _ = survivors times hourly daily := by
      rw [(classify_survivors hourly daily times).2, unmarked_replicate_false]

end Survivors

end BackupRotation.Retention

namespace BackupRotation.Prune

open Files Store Snapshot

/-- With a single snapshot listed a trim or prune refuses, changing nothing. -/
theorem run_existingSnapshots_single {target : Target} {world : World} {dir : PathName}
    (listed : target.snapshots.run world = (.ok [dir], world)) :
    (existingSnapshots target).run world = (.error (.onlyLatest target.root.bytes), world) := by
  unfold existingSnapshots
  rw [Task.run_bind_ok listed]
  rfl

/-- The events of a purge that keeps every snapshot: each snapshot reported as
kept. -/
theorem map_zip_keep (dryRun : Bool) (entries : List Entry) :
    (entries.zip (List.replicate entries.length false)).map (pruneEvent dryRun) =
      entries.map fun entry => pruneEvent dryRun (entry, false) := by
  induction entries with
  | nil => rfl
  | cons entry entries ih => simp [List.replicate_succ, ih]

/-- A purge that keeps every snapshot deletes nothing, returns zero and
reports each snapshot as kept. -/
theorem run_purge_keep (entries : List Entry) (dryRun : Bool) (world : World) :
    (purge entries (List.replicate entries.length false) dryRun).run world =
      (.ok 0, reported world (entries.map fun entry => pruneEvent dryRun (entry, false))) := by
  have same : entries.length = (List.replicate entries.length false).length := by simp
  have nothing : deletions dryRun (entries.zip (List.replicate entries.length false)) = [] := by
    rw [deletions_zip, marked_replicate_false]
    cases dryRun <;> rfl
  have ran := run_purgeEach_of_deletions dryRun (entries.zip (List.replicate entries.length false)) 0
    world world (by rw [nothing]; rfl)
  rw [run_purge_matched dryRun world same, ran, nothing, map_zip_keep]
  rfl

end BackupRotation.Prune

namespace BackupRotation.Retention

open Calendar Files Store Snapshot Prune

variable {target : Target} {top : Key} {start : FileSystem}

/-- After a trim that succeeded, a framed target is still framed and lists
exactly the snapshots the classifier kept, whose names read as they did. -/
theorem trimmed_target {policy : Policy} {now : Stamp} {world mid : World} {count : Nat}
    (framedTarget : FramedTarget target.root top start world.files)
    (first : (trimSnapshots target policy now false).run world = (.ok count, mid)) :
    ∃ (entries : List Entry) (hourly daily : Stamp), 2 ≤ entries.length ∧
      policy.cutoffs mid.zone now = some (hourly, daily) ∧
      FramedTarget target.root top start mid.files ∧
      target.snapshots.run mid =
        (.ok ((unmarked entries (classify (entries.map (·.time)) hourly daily)).map (·.path)), mid) ∧
      entriesOfPaths mid.zone ((unmarked entries (classify (entries.map (·.time)) hourly daily)).map (·.path)) =
        .ok (unmarked entries (classify (entries.map (·.time)) hourly daily)) := by
  obtain ⟨dirs, entries, hourly, daily, listed, several, parsed, cut, purged⟩ := trimSnapshots_ok_inv first
  obtain ⟨-, reached, deleted, -, ended⟩ := purge_ok_inv purged
  set flags := classify (entries.map (·.time)) hourly daily
  set names := snapshotNames world.files top
  have listedNames : dirs = names.map fun name => target.root.join ⟨name⟩ := by
    rw [framedTarget.run_snapshots] at listed
    exact (Except.ok.inj (Prod.mk.inj listed).1).symm
  have paths : entries.map (·.path) = dirs := entriesOfPaths_paths parsed
  have distinct : names.Nodup := (snapshotNames_sorted framedTarget.framed.nodup top).imp fun before => before.2
  have counted : entries.length = dirs.length := by rw [← paths, List.length_map]
  have lengths : names.length = flags.length := by
    rw [length_classify, List.length_map, counted, listedNames, List.length_map]
  -- the purge deleted the marked names
  have gone : deletions false (entries.zip flags) = (marked names flags).map fun name => target.root.join ⟨name⟩ := by
    rw [deletions_zip, if_neg Bool.false_ne_true, map_marked, paths, listedNames, map_marked]
  rw [gone] at deleted
  obtain ⟨reachedWorld, reachedTarget, listing, -⟩ :=
    framedTarget.after_deletions (fun name inside => (marked_sublist names flags).subset inside)
      (distinct.sublist (marked_sublist names flags)) deleted
  have left : snapshotNames reached.files top = unmarked names flags := by
    rw [listing]
    exact filter_not_mem_marked distinct lengths
  -- reporting the events changed neither the tree nor the zone
  have midFiles : mid.files = reached.files := by rw [ended]; rfl
  have midZone : mid.zone = world.zone := by rw [ended, reachedWorld]; rfl
  have midTarget : FramedTarget target.root top start mid.files := midFiles ▸ reachedTarget
  have keptPaths : (unmarked entries flags).map (·.path) = (unmarked names flags).map fun name => target.root.join ⟨name⟩ := by
    rw [map_unmarked, paths, listedNames, map_unmarked]
  refine ⟨entries, hourly, daily, ?_, midZone ▸ cut, midTarget, ?_, ?_⟩
  · rw [counted]
    exact several
  · rw [midTarget.run_snapshots, midFiles, left, keptPaths]
  · rw [midZone, map_unmarked, paths]
    exact entriesOfPaths_unmarked flags parsed

/-- Once a trim has succeeded on a framed target, a second trim at the same
instant finds the snapshots the first one kept, at least one of them. With two
or more it keeps them all: it deletes nothing, returns zero and reports each of
them as kept. With one it refuses, as every trim does, and changes nothing. -/
theorem second_trim_keeps_all {policy : Policy} {now : Stamp} {world mid : World} {count : Nat}
    (framedTarget : FramedTarget target.root top start world.files)
    (first : (trimSnapshots target policy now false).run world = (.ok count, mid)) (dryRun : Bool) :
    ∃ entries : List Entry, target.snapshots.run mid = (.ok (entries.map (·.path)), mid) ∧ entries ≠ [] ∧
      (trimSnapshots target policy now dryRun).run mid =
        if 2 ≤ entries.length then
          (.ok 0, reported mid (entries.map fun entry => pruneEvent dryRun (entry, false)))
        else (.error (.onlyLatest target.root.bytes), mid) := by
  obtain ⟨entries, hourly, daily, several, cut, -, listed, parsed⟩ := trimmed_target framedTarget first
  set kept := unmarked entries (classify (entries.map (·.time)) hourly daily)
  have times : kept.map (·.time) = survivors (entries.map (·.time)) hourly daily := map_unmarked _ _ _
  have keptSome : kept ≠ [] := by
    intro none
    have empty : survivors (entries.map (·.time)) hourly daily = [] := by rw [← times, none, List.map_nil]
    refine survivors_ne_nil hourly daily ?_ empty
    intro noTimes
    rw [List.map_eq_nil_iff] at noTimes
    rw [noTimes] at several
    cases several
  refine ⟨kept, listed, keptSome, ?_⟩
  by_cases more : 2 ≤ kept.length
  · -- the second classification flags nothing
    have unflagged : classify (kept.map (·.time)) hourly daily = List.replicate kept.length false := by
      rw [times, (classify_survivors hourly daily _).2, ← times, List.length_map]
    rw [if_pos more, run_trimSnapshots (by rw [listed]) (by rwa [List.length_map]) parsed cut, unflagged,
      run_purge_keep]
  · obtain ⟨dir, single⟩ : ∃ dir, kept = [dir] := by
      match kept, keptSome, more with
      | [dir], _, _ => exact ⟨dir, rfl⟩
      | _ :: _ :: _, _, more => exact absurd (by simp) more
    rw [if_neg more]
    unfold trimSnapshots
    rw [Task.run_bind_error (run_existingSnapshots_single (by rw [listed, single]; rfl))]

/-- Retention is idempotent. On every input, sorted or not, the classifier
flags none of the snapshots it kept when run again with the same cutoffs. So,
on a framed target where a trim has succeeded, a second trim at the same
instant, dry run or not, deletes nothing: with two snapshots or more left it
returns zero and reports each of them as kept, and with one left it refuses
with `OnlyLatest`. -/
theorem trim_is_idempotent :
    (∀ (times : List Stamp) (hourly daily : Stamp),
      classify (survivors times hourly daily) hourly daily =
        List.replicate (survivors times hourly daily).length false) ∧
    (∀ (target : Target) (top : Key) (start : FileSystem) (policy : Policy) (now : Stamp) (dryRun : Bool)
        (world mid : World) (count : Nat),
      FramedTarget target.root top start world.files →
      (trimSnapshots target policy now false).run world = (.ok count, mid) →
      ∃ entries : List Entry, target.snapshots.run mid = (.ok (entries.map (·.path)), mid) ∧ entries ≠ [] ∧
        (trimSnapshots target policy now dryRun).run mid =
          if 2 ≤ entries.length then
            (.ok 0, reported mid (entries.map fun entry => pruneEvent dryRun (entry, false)))
          else (.error (.onlyLatest target.root.bytes), mid)) :=
  ⟨fun times hourly daily => (classify_survivors hourly daily times).2,
    fun _ _ _ _ _ dryRun _ _ _ framedTarget first => second_trim_keeps_all framedTarget first dryRun⟩

/-- Keep everything for two days, then one snapshot a day for thirty days. -/
def monthPolicy : Policy := { keepHourly := ⟨172800000000000⟩, keepDaily := ⟨2592000000000000⟩ }

/-- The target `/t` holding snapshots of 1 January 2024 at 10:00 and 12:00
and of 2 January at 10:00, in UTC, with `latest` on the last. -/
def twoDaysFiles : FileSystem :=
  (((Store.emptyTargetFiles.put ([Text.encode "t"] ++ [Text.encode "20240101_100000.0000.szb"]) (.directory 0o755)).put
      ([Text.encode "t"] ++ [Text.encode "20240101_120000.0000.szb"]) (.directory 0o755)).put
      ([Text.encode "t"] ++ [Text.encode "20240102_100000.0000.szb"]) (.directory 0o755)).put
    ([Text.encode "t"] ++ [latestName]) (.link (Text.encode "20240102_100000.0000.szb"))

/-- The world of `twoDaysFiles` in UTC. -/
def twoDaysWorld : World := { Store.emptyTargetWorld .utc with files := twoDaysFiles }

/-- 10 January 2024, midnight UTC. -/
def tenthOfJanuary : Stamp := ⟨⟨1704844800, 0⟩, 0⟩

theorem framedTarget_twoDaysFiles :
    FramedTarget Store.targetT.root [Text.encode "t"] Store.emptyTargetFiles twoDaysFiles where
  empty := Store.emptyTarget_emptyTargetFiles
  framed := ((((kept_start Store.emptyTarget_emptyTargetFiles).toFramed.put _ _).put _ _).put _ _).put _ _
  plain := by
    have listed : snapshotNames twoDaysFiles [Text.encode "t"] =
        [Text.encode "20240101_100000.0000.szb", Text.encode "20240101_120000.0000.szb",
          Text.encode "20240102_100000.0000.szb"] := by
      cbv
    rw [listed]
    simp only [PlainName, Text.encode_eq_flatMap]
    decide

/-- A trim on 10 January keeps the last snapshot of each of the two days and
deletes the first; trimming again keeps both. -/
theorem trim_is_idempotent_twoDays :
    FramedTarget Store.targetT.root [Text.encode "t"] Store.emptyTargetFiles twoDaysWorld.files ∧
    (trimSnapshots Store.targetT monthPolicy tenthOfJanuary false).run twoDaysWorld =
      (.ok 1, ((trimSnapshots Store.targetT monthPolicy tenthOfJanuary false).run twoDaysWorld).2) ∧
    ∃ entries : List Entry,
      Store.targetT.snapshots.run ((trimSnapshots Store.targetT monthPolicy tenthOfJanuary false).run twoDaysWorld).2 =
        (.ok (entries.map (·.path)), ((trimSnapshots Store.targetT monthPolicy tenthOfJanuary false).run twoDaysWorld).2) ∧
      entries ≠ [] ∧
      (trimSnapshots Store.targetT monthPolicy tenthOfJanuary false).run
          ((trimSnapshots Store.targetT monthPolicy tenthOfJanuary false).run twoDaysWorld).2 =
        if 2 ≤ entries.length then
          (.ok 0, reported ((trimSnapshots Store.targetT monthPolicy tenthOfJanuary false).run twoDaysWorld).2
            (entries.map fun entry => pruneEvent false (entry, false)))
        else (.error (.onlyLatest Store.targetT.root.bytes),
          ((trimSnapshots Store.targetT monthPolicy tenthOfJanuary false).run twoDaysWorld).2) := by
  have first : (trimSnapshots Store.targetT monthPolicy tenthOfJanuary false).run twoDaysWorld =
      (.ok 1, ((trimSnapshots Store.targetT monthPolicy tenthOfJanuary false).run twoDaysWorld).2) :=
    Prod.ext (Task.eq_ok_of_toOption (by decide +kernel)) rfl
  exact ⟨framedTarget_twoDaysFiles, first,
    trim_is_idempotent |>.2 _ _ _ _ _ false _ _ _ framedTarget_twoDaysFiles first⟩

end BackupRotation.Retention
