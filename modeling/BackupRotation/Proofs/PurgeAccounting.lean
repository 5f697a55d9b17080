import Mathlib
import BackupRotation.Proofs.Task
import BackupRotation.Prune.Purge
/-!
# What a purge accounts for

A purge walks the decided snapshots oldest first. It deletes the marked ones
(none in a dry run), reports every snapshot it has handled, and stops at the
first deletion that fails, with a failure that counts the deletions made
before it. This module states the account of a whole run against the
deletions alone, run one after another from the same world:

* when every deletion succeeds, the purge returns the number of marked
  snapshots, leaves the world the deletions leave, and has reported every
  snapshot in order;
* when the deletion of one snapshot fails after the earlier ones succeeded,
  the purge fails naming that snapshot and the number of marked snapshots
  before it, leaves the world that failed deletion left, and has reported
  exactly the snapshots before it; the count reads the same through any
  number of context labels;
* decisions that do not match the snapshots in number stop it before
  anything happens.

What makes the comparison possible is one property of a deletion: it acts on
the file tree alone (`OnFiles`). Reporting an event between two deletions
then neither changes what the next one does nor is undone by it.
-/

namespace BackupRotation.Prune

open Files Snapshot Report Text

/-! ### Tasks that act on the file tree alone -/

section OnFiles

variable {α β : Type}

/-- A task that acts on the file tree alone: its outcome and the tree it
leaves depend on the tree only, the rest of the world stays as it was, and it
fails only on the file system. -/
def OnFiles (task : Task α) : Prop :=
  ∃ action : FileSystem → Outcome α × FileSystem,
    (∀ world, task.run world = ((action world.files).1, { world with files := (action world.files).2 })) ∧
    ∀ files failure, (action files).1 = .error failure → ∃ error, failure = .io error

theorem OnFiles.pure (value : α) : OnFiles (pure value : Task α) :=
  ⟨fun files => (.ok value, files), fun _ => rfl, fun _ _ failed => by cases failed⟩

theorem OnFiles.ask (query : FileSystem → Except OsError α) : OnFiles (Task.ask query) := by
  refine ⟨fun files => ((query files).mapError fun e => .io (.os e), files), fun world => ?_,
    fun files failure failed => ?_⟩
  · rw [Task.run_ask]
    dsimp only
    cases query world.files <;> rfl
  · dsimp only at failed
    cases answered : query files with
    | ok value =>
        rw [answered] at failed
        cases failed
    | error e =>
        rw [answered] at failed
        exact ⟨_, (Except.error.inj failed).symm⟩

theorem OnFiles.alter (change : FileSystem → Change) : OnFiles (Task.alter change) := by
  refine ⟨fun files => (((change files).map fun _ => ()).mapError fun e => .io (.os e),
      (change files).toOption.getD files), fun world => ?_, fun files failure failed => ?_⟩
  · rw [Task.run_alter]
    dsimp only
    cases change world.files <;> rfl
  · dsimp only at failed
    cases changed : change files with
    | ok value =>
        rw [changed] at failed
        cases failed
    | error e =>
        rw [changed] at failed
        exact ⟨_, (Except.error.inj failed).symm⟩

theorem OnFiles.modifyFiles (update : FileSystem → FileSystem) :
    OnFiles (modify fun world : World => { world with files := update world.files } : Task Unit) :=
  ⟨fun files => (.ok (), update files), fun _ => rfl, fun _ _ failed => by cases failed⟩

theorem OnFiles.bind {task : Task α} {next : α → Task β} (first : OnFiles task)
    (rest : ∀ value, OnFiles (next value)) : OnFiles (task >>= next) := by
  obtain ⟨action, runs, io⟩ := first
  have nextRuns := fun value => (Classical.choose_spec (rest value)).1
  have nextIo := fun value => (Classical.choose_spec (rest value)).2
  refine ⟨fun files => match action files with
      | (.ok value, reached) => Classical.choose (rest value) reached
      | (.error failure, reached) => (.error failure, reached), fun world => ?_, fun files failure failed => ?_⟩
  · rw [Task.run_bind, runs]
    dsimp only
    rcases action world.files with ⟨_ | value, reached⟩
    · rfl
    · exact nextRuns value _
  · dsimp only at failed
    rcases ran : action files with ⟨_ | value, reached⟩
    · rw [ran] at failed
      exact io files failure (by rw [ran]; simpa using failed)
    · rw [ran] at failed
      exact nextIo value reached failure failed

theorem OnFiles.forM {items : List β} {step : β → Task Unit} (each : ∀ item, OnFiles (step item)) :
    OnFiles (items.forM step) := by
  induction items with
  | nil => exact OnFiles.pure ()
  | cons item rest ih => exact (each item).bind fun _ => ih

/-- The world a task acting on files reaches differs from the world it ran in
by its file tree only. -/
theorem OnFiles.reached {task : Task α} (onFiles : OnFiles task) {world reached : World}
    {outcome : Outcome α} (ran : task.run world = (outcome, reached)) :
    reached = { world with files := reached.files } := by
  obtain ⟨action, runs, -⟩ := onFiles
  rw [runs] at ran
  cases ran
  rfl

/-- A task acting on files does the same in every world with the same file
tree, and leaves the rest of that world alone. -/
theorem OnFiles.run_of_files {task : Task α} (onFiles : OnFiles task) {world reached : World}
    {outcome : Outcome α} (ran : task.run world = (outcome, reached)) (other : World)
    (same : other.files = world.files) :
    task.run other = (outcome, { other with files := reached.files }) := by
  obtain ⟨action, runs, -⟩ := onFiles
  rw [runs] at ran ⊢
  cases ran
  rw [same]

theorem OnFiles.failure_io {task : Task α} (onFiles : OnFiles task) {world reached : World}
    {failure : Failure} (ran : task.run world = (.error failure, reached)) :
    ∃ error, failure = .io error := by
  obtain ⟨action, runs, io⟩ := onFiles
  rw [runs] at ran
  exact io world.files failure (congrArg Prod.fst ran)

end OnFiles

theorem onFiles_makeTreeWritable (root : PathName) (mode : Nat) : OnFiles (makeTreeWritable root mode) := by
  unfold makeTreeWritable
  refine (OnFiles.ask _).bind fun node => ?_
  split
  · exact OnFiles.pure ()
  · refine (OnFiles.alter _).bind fun _ => (OnFiles.ask _).bind fun top => ?_
    exact OnFiles.modifyFiles (·.chmodDirectoriesBelow top mode)

/-- Deleting a snapshot acts on the file tree alone. -/
theorem onFiles_deleteSnapshot (path : PathName) : OnFiles (deleteSnapshot path) :=
  (onFiles_makeTreeWritable path modeToDelete).bind fun _ => OnFiles.alter _

/-! ### Reporting -/

/-- The world after events are reported in turn: each written on the console
and added to the log. -/
def reported (world : World) (events : List PruneEvent) : World :=
  { world with console := events.foldl Console.record world.console, events := world.events ++ events }

@[simp] theorem reported_nil (world : World) : reported world [] = world := by
  simp [reported]

theorem reported_append (world : World) (first second : List PruneEvent) :
    reported (reported world first) second = reported world (first ++ second) := by
  simp [reported, List.foldl_append]

theorem run_report (event : PruneEvent) (world : World) :
    (Task.report event).run world = (.ok (), reported world [event]) := rfl

/-- A task acting on files runs the same after events were reported, and the
reports stay. -/
theorem OnFiles.run_reported {α : Type} {task : Task α} (onFiles : OnFiles task) {world reached : World}
    {outcome : Outcome α} (ran : task.run world = (outcome, reached)) (events : List PruneEvent) :
    task.run (reported world events) = (outcome, reported reached events) := by
  rw [onFiles.run_of_files ran (reported world events) rfl, onFiles.reached ran]
  rfl

/-! ### One snapshot at a time -/

/-- The event a purge reports for a snapshot and its decision. -/
def pruneEvent (dryRun : Bool) (decided : Entry × Bool) : PruneEvent :=
  { path := decided.1.path.bytes, time := decided.1.time,
    action := if decided.2 then .purged else .kept, dryRun := dryRun }

/-- The snapshots a purge deletes, in order: the marked ones, and none in a
dry run. -/
def deletions (dryRun : Bool) (decided : List (Entry × Bool)) : List PathName :=
  decided.filterMap fun (entry, marked) => if marked && !dryRun then some entry.path else none

theorem length_deletions (dryRun : Bool) (decided : List (Entry × Bool)) :
    (deletions dryRun decided).length = if dryRun then 0 else decided.countP (·.2) := by
  induction decided with
  | nil => simp [deletions]
  | cons head rest ih =>
      obtain ⟨entry, marked⟩ := head
      unfold deletions at ih ⊢
      cases dryRun <;> cases marked <;> simp_all

section Step

variable {dryRun : Bool} {entry : Entry} {marked : Bool} {rest : List (Entry × Bool)} {purged : Nat}
  {world reached : World}

/-- A snapshot left in place is reported and the walk goes on. -/
theorem run_purgeEach_skip (skipped : (marked && !dryRun) = false) :
    (purgeEach dryRun purged ((entry, marked) :: rest)).run world =
      (purgeEach dryRun purged rest).run (reported world [pruneEvent dryRun (entry, marked)]) := by
  simp only [purgeEach, skipped, Bool.false_eq_true, ↓reduceIte]
  rw [Task.run_bind_ok (Task.run_pure 0 world), Task.run_bind_ok (run_report _ _), Nat.add_zero]
  rfl

/-- A snapshot deleted is counted and reported, and the walk goes on. -/
theorem run_purgeEach_delete (deleting : (marked && !dryRun) = true)
    (deleted : (deleteSnapshot entry.path).run world = (.ok (), reached)) :
    (purgeEach dryRun purged ((entry, marked) :: rest)).run world =
      (purgeEach dryRun (purged + 1) rest).run (reported reached [pruneEvent dryRun (entry, marked)]) := by
  simp only [purgeEach, deleting, ↓reduceIte]
  rw [Task.run_bind, Task.run_tryCatch, Task.run_bind_ok deleted]
  dsimp only [Task.run_pure]
  rw [Task.run_bind_ok (run_report _ _)]
  rfl

/-- A deletion that fails stops the walk with the count so far, in the world
the failed deletion left. -/
theorem run_purgeEach_fail (deleting : (marked && !dryRun) = true) {cause : Failure}
    (failed : (deleteSnapshot entry.path).run world = (.error cause, reached)) :
    (purgeEach dryRun purged ((entry, marked) :: rest)).run world =
      (.error (.purgeFailed purged entry.path.bytes cause), reached) := by
  -- a deletion fails on the file system only, never with a panic the handler would pass on
  obtain ⟨error, rfl⟩ := (onFiles_deleteSnapshot entry.path).failure_io failed
  simp only [purgeEach, deleting, ↓reduceIte]
  rw [Task.run_bind, Task.run_tryCatch, Task.run_bind_error failed]
  rfl

end Step

/-! ### Whole runs -/

/-- Deletions run after events were reported do what they do without them. -/
theorem run_deletions_reported {paths : List PathName} {world reached : World} {outcome : Outcome Unit}
    (ran : (paths.forM deleteSnapshot).run world = (outcome, reached)) (events : List PruneEvent) :
    (paths.forM deleteSnapshot).run (reported world events) = (outcome, reported reached events) :=
  (OnFiles.forM onFiles_deleteSnapshot).run_reported ran events

/-- Deletions that all succeed: the first succeeds, and the others after it. -/
theorem run_deletions_cons_ok {path : PathName} {paths : List PathName} {world reached : World}
    (ran : ((path :: paths).forM deleteSnapshot).run world = (.ok (), reached)) :
    ∃ middle, (deleteSnapshot path).run world = (.ok (), middle) ∧
      (paths.forM deleteSnapshot).run middle = (.ok (), reached) := by
  rw [show (path :: paths).forM deleteSnapshot = (deleteSnapshot path >>= fun _ => paths.forM deleteSnapshot)
    from rfl, Task.run_bind] at ran
  rcases first : (deleteSnapshot path).run world with ⟨_ | _, middle⟩
  · rw [first] at ran
    cases ran
  · rw [first] at ran
    exact ⟨middle, rfl, ran⟩

/-- When every deletion succeeds, a purge counts them all, ends in the world
they leave, and reports every snapshot in order. -/
theorem run_purgeEach_of_deletions (dryRun : Bool) :
    ∀ (decided : List (Entry × Bool)) (purged : Nat) (world reached : World),
      ((deletions dryRun decided).forM deleteSnapshot).run world = (.ok (), reached) →
      (purgeEach dryRun purged decided).run world =
        (.ok (purged + (deletions dryRun decided).length),
          reported reached (decided.map (pruneEvent dryRun))) := by
  intro decided
  induction decided with
  | nil =>
      intro purged world reached ran
      cases ran
      simp [deletions]
      rfl
  | cons head rest ih =>
      obtain ⟨entry, marked⟩ := head
      intro purged world reached ran
      cases deleting : marked && !dryRun with
      | false =>
          have same : deletions dryRun ((entry, marked) :: rest) = deletions dryRun rest := by
            simp only [deletions, List.filterMap_cons, deleting, Bool.false_eq_true, ↓reduceIte]
          rw [same] at ran ⊢
          rw [run_purgeEach_skip deleting,
            ih purged _ _ (run_deletions_reported ran [pruneEvent dryRun (entry, marked)]),
            reported_append]
          rfl
      | true =>
          have more : deletions dryRun ((entry, marked) :: rest) = entry.path :: deletions dryRun rest := by
            simp only [deletions, List.filterMap_cons, deleting, ↓reduceIte]
          rw [more] at ran ⊢
          obtain ⟨middle, deleted, others⟩ := run_deletions_cons_ok ran
          rw [run_purgeEach_delete deleting deleted,
            ih (purged + 1) _ _ (run_deletions_reported others [pruneEvent dryRun (entry, marked)]),
            reported_append, List.length_cons, Nat.add_comm (deletions dryRun rest).length 1,
            Nat.add_assoc]
          rfl

/-- When the deletions before a marked snapshot succeed and its own deletion
fails, a purge stops there: it counts the deletions before, ends in the world
the failed deletion left, and has reported exactly the snapshots before. -/
theorem run_purgeEach_of_failed_deletion (entry : Entry) (after : List (Entry × Bool)) {cause : Failure} :
    ∀ (before : List (Entry × Bool)) (purged : Nat) (world reached failed : World),
      ((deletions false before).forM deleteSnapshot).run world = (.ok (), reached) →
      (deleteSnapshot entry.path).run reached = (.error cause, failed) →
      (purgeEach false purged (before ++ (entry, true) :: after)).run world =
        (.error (.purgeFailed (purged + (deletions false before).length) entry.path.bytes cause),
          reported failed (before.map (pruneEvent false))) := by
  intro before
  induction before with
  | nil =>
      intro purged world reached failed ran refused
      cases ran
      simpa [deletions] using run_purgeEach_fail rfl refused
  | cons head rest ih =>
      obtain ⟨done, marked⟩ := head
      intro purged world reached failed ran refused
      rw [List.cons_append]
      cases deleting : marked && !false with
      | false =>
          have same : deletions false ((done, marked) :: rest) = deletions false rest := by
            simp only [deletions, List.filterMap_cons, deleting, Bool.false_eq_true, ↓reduceIte]
          rw [same] at ran ⊢
          rw [run_purgeEach_skip deleting,
            ih purged _ _ _ (run_deletions_reported ran _)
              ((onFiles_deleteSnapshot entry.path).run_reported refused _),
            reported_append]
          rfl
      | true =>
          have more : deletions false ((done, marked) :: rest) = done.path :: deletions false rest := by
            simp only [deletions, List.filterMap_cons, deleting, ↓reduceIte]
          rw [more] at ran ⊢
          obtain ⟨middle, deleted, others⟩ := run_deletions_cons_ok ran
          rw [run_purgeEach_delete deleting deleted,
            ih (purged + 1) _ _ _ (run_deletions_reported others [pruneEvent false (done, marked)])
              ((onFiles_deleteSnapshot entry.path).run_reported refused _),
            reported_append, List.length_cons, Nat.add_comm (deletions false rest).length 1,
            Nat.add_assoc]
          rfl

/-! ### A purge -/

/-- Context labels wrapped around a failure leave the purge count it carries. -/
theorem purgedCount_labelled (labels : List String) (failure : Failure) :
    (labels.foldr Failure.context failure).purgedCount = failure.purgedCount := by
  induction labels with
  | nil => rfl
  | cons label labels ih => exact ih

/-- Decisions paired with as many snapshots mark as many of them as there are
removals among the decisions. -/
theorem countP_zip_snd :
    ∀ {entries : List Entry} {remove : List Bool}, entries.length = remove.length →
      (entries.zip remove).countP (·.2) = remove.count true
  | [], [], _ => rfl
  | entry :: entries, marked :: remove, same => by
      rw [List.zip_cons_cons, List.countP_cons, List.count_cons,
        countP_zip_snd (Nat.succ.inj same)]
      cases marked <;> rfl

theorem run_purge_mismatch {entries : List Entry} {remove : List Bool} (dryRun : Bool) (world : World)
    (differ : entries.length ≠ remove.length) :
    (purge entries remove dryRun).run world =
      (.error (.internal (toString remove.length ++ " removal decisions for " ++
        toString entries.length ++ " snapshots")), world) := by
  have unequal : (entries.length != remove.length) = true := bne_iff_ne.mpr differ
  simp only [purge, unequal, ↓reduceIte]
  rfl

theorem run_purge_matched {entries : List Entry} {remove : List Bool} (dryRun : Bool) (world : World)
    (same : entries.length = remove.length) :
    (purge entries remove dryRun).run world = (purgeEach dryRun 0 (entries.zip remove)).run world := by
  have equal : (entries.length != remove.length) = false := by simp [same]
  simp only [purge, equal, Bool.false_eq_true, ↓reduceIte]

/-- The account of a purge. Decisions that do not match the snapshots in
number stop it before anything happens. Otherwise, take the deletions of the
marked snapshots (none in a dry run) run in turn from the same world. When
they all succeed, the purge returns their number and ends in the world they
leave, every snapshot reported in order, as purged exactly when marked. When
those before a marked snapshot succeed and its own deletion fails, the purge
fails naming that snapshot and counting the marked snapshots before it, a
count that reads the same through any number of context labels, and ends in
the world the failed deletion left, with exactly the snapshots before it
reported. -/
theorem purge_accounts_for_deletions (entries : List Entry) (remove : List Bool) (dryRun : Bool)
    (world : World) :
    (entries.length ≠ remove.length →
      (purge entries remove dryRun).run world =
        (.error (.internal (toString remove.length ++ " removal decisions for " ++
          toString entries.length ++ " snapshots")), world)) ∧
    (∀ reached, entries.length = remove.length →
      ((deletions dryRun (entries.zip remove)).forM deleteSnapshot).run world = (.ok (), reached) →
      (purge entries remove dryRun).run world =
        (.ok (if dryRun then 0 else remove.count true),
          reported reached ((entries.zip remove).map (pruneEvent dryRun)))) ∧
    (∀ before entry after reached failed cause, entries.length = remove.length →
      entries.zip remove = before ++ (entry, true) :: after → dryRun = false →
      ((deletions false before).forM deleteSnapshot).run world = (.ok (), reached) →
      (deleteSnapshot entry.path).run reached = (.error cause, failed) →
      (purge entries remove dryRun).run world =
          (.error (.purgeFailed (before.countP (·.2)) entry.path.bytes cause),
            reported failed (before.map (pruneEvent false))) ∧
        ∀ labels : List String,
          (labels.foldr Failure.context
            (.purgeFailed (before.countP (·.2)) entry.path.bytes cause)).purgedCount =
            some (before.countP (·.2))) := by
  refine ⟨run_purge_mismatch dryRun world, ?_, ?_⟩
  · intro reached same deleted
    rw [run_purge_matched dryRun world same, run_purgeEach_of_deletions dryRun _ 0 world reached deleted,
      Nat.zero_add, length_deletions, countP_zip_snd same]
  · intro before entry after reached failed cause same split notDry deleted refused
    subst notDry
    have marked : (deletions false before).length = before.countP (·.2) := by
      simp [length_deletions]
    refine ⟨?_, fun labels => by rw [purgedCount_labelled]; rfl⟩
    rw [run_purge_matched false world same, split,
      run_purgeEach_of_failed_deletion entry after before 0 world reached failed deleted refused,
      Nat.zero_add, marked]

/-! ### Two marked snapshots, the second missing -/

/-- An outcome without a value is a failure. -/
theorem exists_error_of_toOption {ε α : Type} {outcome : Except ε α} (failed : outcome.toOption = none) :
    ∃ error, outcome = .error error := by
  cases outcome with
  | error error => exact ⟨error, rfl⟩
  | ok value => cases failed

/-- The snapshot `/t/a`, which is there. -/
def presentEntry : Entry := { path := PathName.ofString "/t/a", time := ⟨⟨0, 0⟩, 0⟩ }

/-- The snapshot `/t/b`, which is not. -/
def missingEntry : Entry := { path := PathName.ofString "/t/b", time := ⟨⟨3600, 0⟩, 0⟩ }

/-- A world whose target `/t` holds the read-only snapshot `a` and nothing
else. -/
def presentWorld : World :=
  { files := { entries := [([], .directory 0o755), ([encode "t"], .directory 0o755),
      ([encode "t", encode "a"], .directory 0o500)], cwd := [] },
    searchPath := [], tools := [], zone := .utc, clock := ⟨0, 0⟩, console := Console.empty .normal }

/-- Purging both snapshots deletes `a`, fails on `b` with one deletion
counted, and has reported `a` only. -/
theorem purge_accounts_for_deletions_secondMissing :
    ∃ reached failed cause,
      [presentEntry, missingEntry].length = [true, true].length ∧
      [presentEntry, missingEntry].zip [true, true] = [(presentEntry, true)] ++ (missingEntry, true) :: [] ∧
      ((deletions false [(presentEntry, true)]).forM deleteSnapshot).run presentWorld = (.ok (), reached) ∧
      (deleteSnapshot missingEntry.path).run reached = (.error cause, failed) ∧
      (purge [presentEntry, missingEntry] [true, true] false).run presentWorld =
        (.error (.purgeFailed 1 missingEntry.path.bytes cause),
          reported failed [pruneEvent false (presentEntry, true)]) := by
  have ran : ((deletions false [(presentEntry, true)]).forM deleteSnapshot).run presentWorld =
      (.ok (), (((deletions false [(presentEntry, true)]).forM deleteSnapshot).run presentWorld).2) :=
    Prod.ext (Task.eq_ok_of_toOption (by cbv)) rfl
  have refusedSecond : ((deleteSnapshot missingEntry.path).run
      (((deletions false [(presentEntry, true)]).forM deleteSnapshot).run presentWorld).2).1.toOption = none := by
    cbv
  obtain ⟨cause, refused⟩ := exists_error_of_toOption refusedSecond
  have fails : (deleteSnapshot missingEntry.path).run
        (((deletions false [(presentEntry, true)]).forM deleteSnapshot).run presentWorld).2 =
      (.error cause, ((deleteSnapshot missingEntry.path).run
        (((deletions false [(presentEntry, true)]).forM deleteSnapshot).run presentWorld).2).2) :=
    Prod.ext refused rfl
  exact ⟨_, _, cause, rfl, rfl, ran, fails,
    ((purge_accounts_for_deletions _ _ false presentWorld).2.2 _ _ _ _ _ cause rfl rfl rfl ran fails).1⟩

end BackupRotation.Prune
