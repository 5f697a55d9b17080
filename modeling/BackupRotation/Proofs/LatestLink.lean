import Mathlib
import BackupRotation.Proofs.TakeSnapshot
/-!
# `latest` names the newest snapshot along every run

A run applies operations to one target, one after another: snapshots, trims
and prunes, each of which may fail and then leaves the world it reached.
Started on an empty valid target, with every copy succeeding and writing only
into its own directory, and with snapshot names that never decrease along the
run, every world reached lists its snapshots in strictly increasing name
order, and `latest` names the last of them. In particular no trim or prune
removes the directory `latest` names, and `latest` never dangles.

Each condition is needed. A copy that fails leaves a new directory behind
that `latest` does not name. Names are local wall-clock times, so when the
clocks go back a later snapshot can get the smaller name, and `latest` then
names a snapshot below the greatest. The last section runs both cases.

The proof carries `KeptWithin` through the run: each operation keeps it
(`Operation.apply_keeps`), the names still to come bounding the snapshots
already there.
-/

namespace BackupRotation.Store

open Files Text Prune Snapshot

/-- One operation of a run on a target. -/
inductive Operation where
  /-- Take a snapshot named after `now`. -/
  | snapshot (now : Calendar.Stamp) (options : SnapshotOptions)
  | trim (policy : Retention.Policy) (now : Calendar.Stamp) (dryRun : Bool)
  | prune (count : DeleteCount) (dryRun : Bool)

namespace Operation

/-- The name a snapshot gives its directory. -/
def snapshotName? : Operation → Option Bytes
  | .snapshot now _ => some (encode (formatName now))
  | _ => none

/-- The world after one operation, whether it succeeded or failed; snapshots
copy with `transfer` and take their target from `config`. -/
def apply (transfer : List Bytes → Task Unit) (config : Settings.Config) (target : Target) :
    Operation → World → World
  | .snapshot now options, world => ((takeSnapshotWith transfer config now options).run world).2
  | .trim policy now dryRun, world => ((Retention.trimSnapshots target policy now dryRun).run world).2
  | .prune count dryRun, world => ((pruneOldest target count dryRun).run world).2

end Operation

/-- The world after a run of operations. -/
def runOperations (transfer : List Bytes → Task Unit) (config : Settings.Config) (target : Target)
    (operations : List Operation) (world : World) : World :=
  operations.foldl (fun reached operation => operation.apply transfer config target reached) world

/-- The names of the snapshots a run takes, in order. -/
def snapshotNamesOf (operations : List Operation) : List Bytes :=
  operations.filterMap Operation.snapshotName?

/-- A name that sorts before every snapshot a run has still to take. -/
def Precedes (operations : List Operation) (name : Bytes) : Prop :=
  ∀ later ∈ snapshotNamesOf operations, bytesLe name later = true

variable {start : FileSystem} {top : Key} {transfer : List Bytes → Task Unit}
  {config : Settings.Config} {target : Target}

theorem snapshotNamesOf_cons_sublist (operation : Operation) (rest : List Operation) :
    (snapshotNamesOf rest).Sublist (snapshotNamesOf (operation :: rest)) :=
  (List.sublist_cons_self operation rest).filterMap _

/-- An empty target holds no snapshot, so the invariant holds from the start
whatever the run has still to take. -/
theorem KeptWithin.empty {root : PathName} {world : World} (empty : EmptyTarget root top world.files)
    (allowed : Bytes → Prop) : KeptWithin world.files top allowed world where
  toKept := kept_start empty
  within name present := by
    obtain ⟨_, _, found⟩ := present
    rw [level, empty.empty _ (child_below top name)] at found
    cases found

/-- One operation keeps the invariant, the names still to come moving on past
a snapshot. -/
theorem Operation.apply_keeps (writes : WritesInside transfer) (configured : config.target = some target)
    (empty : EmptyTarget target.root top start) (operation : Operation) (rest : List Operation)
    (ordered : (snapshotNamesOf (operation :: rest)).Pairwise fun first second => bytesLe first second = true)
    {world : World} (held : KeptWithin start top (Precedes (operation :: rest)) world) :
    KeptWithin start top (Precedes rest) (operation.apply transfer config target world) := by
  cases operation with
  | snapshot now options =>
      have names : snapshotNamesOf (.snapshot now options :: rest) =
          encode (formatName now) :: snapshotNamesOf rest := rfl
      rw [names, List.pairwise_cons] at ordered
      refine takeSnapshotWith_keeps writes configured empty now options held ?_ ordered.1 ?_
      · intro name precedes
        exact precedes _ (by rw [names]; exact List.mem_cons_self)
      · intro name precedes later listed
        exact precedes later (by rw [names]; exact List.mem_cons_of_mem _ listed)
  | trim policy now dryRun => exact Retention.trimSnapshots_keeps empty policy now dryRun held
  | prune count dryRun => exact pruneOldest_keeps empty count dryRun held

/-- A whole run keeps the invariant. -/
theorem runOperations_keeps (writes : WritesInside transfer) (configured : config.target = some target)
    (empty : EmptyTarget target.root top start) (operations : List Operation) {world : World}
    (ordered : (snapshotNamesOf operations).Pairwise fun first second => bytesLe first second = true)
    (held : KeptWithin start top (Precedes operations) world) :
    Kept start top (runOperations transfer config target operations world).files := by
  -- induction on the operations still to run, from the world reached so far
  induction operations generalizing world with
  | nil => exact held.toKept
  | cons operation rest ih =>
      exact ih (ordered.sublist (snapshotNamesOf_cons_sublist operation rest))
        (Operation.apply_keeps writes configured empty operation rest ordered held)

/-- In a world that keeps the invariant, the snapshots are listed in strictly
increasing name order and `latest` names the last one. -/
theorem latest_of_kept (empty : EmptyTarget target.root top start) {world : World}
    (kept : Kept start top world.files) :
    ∃ names : List Bytes,
      target.snapshots.run world = (.ok (names.map fun name => target.root.join ⟨name⟩), world) ∧
      names.Pairwise (fun first second => bytesLe first second = true ∧ first ≠ second) ∧
      ∀ newest ∈ names.getLast?, target.latest.run world = (.ok (some (target.root.join ⟨newest⟩)), world) := by
  obtain ⟨_, rooted⟩ := kept.rooted empty
  refine ⟨snapshotNames world.files top, Retention.run_snapshots_listing empty kept,
    snapshotNames_sorted kept.nodup top, ?_⟩
  intro newest last
  have linked := snapshotNames_getLast kept.nodup kept.linked last
  unfold Target.latest
  rw [Task.run_bind_ok (run_hasLatest rooted empty.fitsLatest (linkOrAbsent_of_shape kept.shape)), linked]
  simp only [Option.isSome_some, Bool.not_true, Bool.false_eq_true, ↓reduceIte]
  rw [Task.run_bind_ok (Task.run_ask_ok (readLink_child rooted plainName_latestName empty.fitsLatest linked))]
  rfl

/-- From an empty valid target, after any run of snapshots, trims and prunes,
failed or not, whose copies succeed and write only into their own directory
and whose snapshot names never decrease, the snapshots are listed in strictly
increasing name order and `latest` names the last, greatest one. -/
theorem latest_names_greatest_snapshot (writes : WritesInside transfer)
    (configured : config.target = some target) {world : World}
    (empty : EmptyTarget target.root top world.files) (operations : List Operation)
    (ordered : (snapshotNamesOf operations).Pairwise fun first second => bytesLe first second = true) :
    ∃ names : List Bytes,
      target.snapshots.run (runOperations transfer config target operations world) =
        (.ok (names.map fun name => target.root.join ⟨name⟩),
          runOperations transfer config target operations world) ∧
      names.Pairwise (fun first second => bytesLe first second = true ∧ first ≠ second) ∧
      ∀ newest ∈ names.getLast?,
        (target.latest.run (runOperations transfer config target operations world)).1 =
          .ok (some (target.root.join ⟨newest⟩)) := by
  have kept := runOperations_keeps writes configured empty operations ordered (KeptWithin.empty empty _)
  obtain ⟨names, listed, sorted, linked⟩ := latest_of_kept empty kept
  refine ⟨names, listed, sorted, fun newest last => ?_⟩
  rw [linked newest last]

/-! ### Runs on a fixed target -/

/-- A copy that does nothing. -/
theorem writesInside_skip : WritesInside fun _ => pure () := by
  intro args world after outcome ran
  cases ran
  exact ⟨rfl, id, rfl, fun _ _ _ _ _ _ _ => rfl⟩

/-- A tree holding only the empty directory `/t`. -/
def emptyTargetFiles : FileSystem :=
  { entries := [([], .directory 0o755), ([encode "t"], .directory 0o755)], cwd := [] }

/-- A world with only the empty directory `/t`, in `zone`. -/
def emptyTargetWorld (zone : Calendar.Zone) : World :=
  { files := emptyTargetFiles, searchPath := [], tools := [], zone := zone, clock := ⟨0, 0⟩,
    console := Report.Console.empty .normal }

/-- The target `/t`. -/
def targetT : Target := ⟨PathName.ofString "/t"⟩

/-- Settings copying `/s` into snapshots of `/t`. -/
def targetTConfig : Settings.Config :=
  { source := PathName.ofString "/s", target := some targetT, permission := 0o500,
    options := [], snapshotOptions := [], restoreOptions := [],
    retention := ⟨⟨172800000000000⟩, ⟨2592000000000000⟩⟩ }

theorem emptyTarget_emptyTargetFiles : EmptyTarget targetT.root [encode "t"] emptyTargetFiles where
  nodup := by simp [FileSystem.KeysNodup, emptyTargetFiles]
  rooted := ⟨0o755, Task.eq_ok_of_toOption (by cbv)⟩
  empty := by
    rintro key ⟨name, rest, rfl⟩
    simp [FileSystem.find?, emptyTargetFiles]
  fitsLatest := by
    simp only [JoinFits, targetT, latestName, PathName.ofString, Snapshot.latestLinkName, encode_eq_flatMap]
    decide

/-- Two snapshots an hour apart in UTC, with a trim between them and a
prune after. -/
def hourApart : List Operation :=
  [.snapshot ⟨⟨1704103200, 0⟩, 0⟩ {}, .trim ⟨⟨3600000000000⟩, ⟨86400000000000⟩⟩ ⟨⟨1704106800, 0⟩, 0⟩ false,
    .snapshot ⟨⟨1704106800, 0⟩, 0⟩ {}, .prune .all false]

theorem latest_names_greatest_snapshot_hourApart :
    WritesInside (fun _ => pure ()) ∧ targetTConfig.target = some targetT ∧
    EmptyTarget targetT.root [encode "t"] (emptyTargetWorld .utc).files ∧
    (snapshotNamesOf hourApart).Pairwise (fun first second => bytesLe first second = true) ∧
    ∃ names : List Bytes,
      targetT.snapshots.run (runOperations (fun _ => pure ()) targetTConfig targetT hourApart
          (emptyTargetWorld .utc)) =
        (.ok (names.map fun name => targetT.root.join ⟨name⟩),
          runOperations (fun _ => pure ()) targetTConfig targetT hourApart (emptyTargetWorld .utc)) ∧
      names.Pairwise (fun first second => bytesLe first second = true ∧ first ≠ second) ∧
      ∀ newest ∈ names.getLast?,
        (targetT.latest.run (runOperations (fun _ => pure ()) targetTConfig targetT hourApart
          (emptyTargetWorld .utc))).1 = .ok (some (targetT.root.join ⟨newest⟩)) := by
  have names : snapshotNamesOf hourApart =
      [encode "20240101_100000.0000.szb", encode "20240101_110000.0000.szb"] := by cbv
  have ordered : (snapshotNamesOf hourApart).Pairwise fun first second => bytesLe first second = true := by
    rw [names, encode_eq_flatMap, encode_eq_flatMap]
    decide
  exact ⟨writesInside_skip, rfl, emptyTarget_emptyTargetFiles, ordered,
    latest_names_greatest_snapshot writesInside_skip rfl emptyTarget_emptyTargetFiles hourApart ordered⟩

/-- Eastern time, `EST5EDT,M3.2.0,M11.1.0`: clocks go back from 2:00 daylight
time to 1:00 standard time on the first Sunday of November. -/
def eastern : Calendar.Zone :=
  { standard := -18000
    daylight := some (Calendar.Daylight.mk (-14400) (.monthWeekday 3 2 0) 7200 (.monthWeekday 11 1 0) 7200) }

/-- 1:30 daylight time on 3 November 2024, and 1:10 standard time forty
minutes later. -/
def fallBack : List Operation :=
  [.snapshot (eastern.stamp ⟨1730611800, 0⟩) {}, .snapshot (eastern.stamp ⟨1730614200, 0⟩) {}]

/-- A snapshot whose copy fails, here because no `rsync` is installed, leaves
its directory without `latest`; and when the clocks go back, a snapshot taken
later gets a smaller name, which `latest` then names while a greater one
exists. -/
theorem latest_misses_greatest :
    ((targetT.snapshots.run (runOperations Transfer.runPlanned targetTConfig targetT
        [.snapshot ⟨⟨1704103200, 0⟩, 0⟩ {}] (emptyTargetWorld .utc))).1.toOption =
      some [targetT.root.joinText "20240101_100000.0000.szb"] ∧
    (targetT.latest.run (runOperations Transfer.runPlanned targetTConfig targetT
        [.snapshot ⟨⟨1704103200, 0⟩, 0⟩ {}] (emptyTargetWorld .utc))).1.toOption = some none) ∧
    ((eastern.stamp ⟨1730611800, 0⟩).instant < (eastern.stamp ⟨1730614200, 0⟩).instant ∧
    (targetT.snapshots.run (runOperations (fun _ => pure ()) targetTConfig targetT fallBack
        (emptyTargetWorld eastern))).1.toOption =
      some [targetT.root.joinText "20241103_011000.0000.szb", targetT.root.joinText "20241103_013000.0000.szb"] ∧
    (targetT.latest.run (runOperations (fun _ => pure ()) targetTConfig targetT fallBack
        (emptyTargetWorld eastern))).1.toOption =
      some (some (targetT.root.joinText "20241103_011000.0000.szb"))) := by
  -- the zone is read once for each stamp, and the runs go on from the readings
  have daylight : eastern.stamp ⟨1730611800, 0⟩ = ⟨⟨1730611800, 0⟩, -14400⟩ := by decide
  have standard : eastern.stamp ⟨1730614200, 0⟩ = ⟨⟨1730614200, 0⟩, -18000⟩ := by decide
  refine ⟨⟨by cbv, by cbv⟩, ?_, ?_, ?_⟩
  · rw [daylight, standard]
    decide
  · simp only [fallBack, daylight, standard]
    cbv
  · simp only [fallBack, daylight, standard]
    cbv

end BackupRotation.Store
