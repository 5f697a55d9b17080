import BackupRotation.Proofs.Purging
import BackupRotation.Proofs.PurgeAccounting
/-!
# What a purge leaves in a target

A trim and a prune list the snapshot directories of a target, decide which
to delete, and delete them one after another. This module says what the
target holds afterwards, for any target the program can meet: a directory
whose root is reached without passing through the target's own entries
(`FramedTarget`), and whose snapshot directories have plain names.

In such a target a deletion of a snapshot directory that succeeds removes
exactly its name from the view right below the root, and nothing else
(`deleteSnapshot_directory_ok`). Deletions that all succeed therefore erase
exactly their names (`run_deletions_erase`), and since a listing is sorted
by name, the listing afterwards is the old one with those names taken out
(`snapshotNames_of_erased`).

The other direction holds for a whole purge: a purge that succeeds ran
every deletion it decided, and ran them successfully (`purge_ok_inv`), so
the account of `Proofs.PurgeAccounting` applies to it.
-/

namespace BackupRotation.Store

open Files Text

/-- A target as the program finds it: the tree is framed from one in which
the target is empty, so its root leads to the same directory whatever is
added or removed below it, and its snapshot directories have plain names. -/
structure FramedTarget (root : PathName) (top : Key) (start fs : FileSystem) : Prop where
  empty : EmptyTarget root top start
  framed : Framed start top fs
  plain : ∀ name ∈ snapshotNames fs top, PlainName name

variable {root : PathName} {top : Key} {start : FileSystem}

/-- A listed snapshot has a plain name and holds a directory. -/
theorem FramedTarget.listed {fs : FileSystem} (target : FramedTarget root top start fs) {name : Bytes}
    (listed : name ∈ snapshotNames fs top) :
    PlainName name ∧ isSnapshotName name = true ∧ ∃ mode, level fs top name = some (.directory mode) :=
  ⟨target.plain name listed, (mem_snapshotNames target.framed.nodup top name).mp listed⟩

/-- Listing the snapshots of a framed target reads its view. -/
theorem FramedTarget.run_snapshots {target : Target} {world : World}
    (framedTarget : FramedTarget target.root top start world.files) :
    target.snapshots.run world =
      (.ok ((snapshotNames world.files top).map fun name => target.root.join ⟨name⟩), world) := by
  obtain ⟨_, rooted⟩ := framedTarget.framed.rooted framedTarget.empty
  rw [Target.run_snapshots_of_readDir (FileSystem.readDir_of_resolve rooted), snapshotsOf_children]

/-- The strict name order of a listing, as a relation on names. -/
def NameBefore (first second : Bytes) : Prop := bytesLe first second = true ∧ first ≠ second

theorem nameBefore_antisymm {first second : Bytes} (before : NameBefore first second)
    (after : NameBefore second first) : first = second :=
  bytesLe_antisymm before.1 after.1

/-- Names erased from a view leave the listing without them, in the order it
had: both listings are sorted by name and hold the same names. -/
theorem snapshotNames_of_erased {fs fs' : FileSystem} (nodup : fs.KeysNodup) (nodup' : fs'.KeysNodup)
    {names : List Bytes}
    (erased : ∀ other, level fs' top other = if other ∈ names then none else level fs top other) :
    snapshotNames fs' top = (snapshotNames fs top).filter (· ∉ names) := by
  have sorted' : (snapshotNames fs' top).Pairwise NameBefore := snapshotNames_sorted nodup' top
  have sortedKept : ((snapshotNames fs top).filter (· ∉ names)).Pairwise NameBefore :=
    (snapshotNames_sorted nodup top).filter _
  have members : ∀ name, name ∈ snapshotNames fs' top ↔ name ∈ (snapshotNames fs top).filter (· ∉ names) := by
    intro name
    rw [mem_snapshotNames nodup', List.mem_filter, mem_snapshotNames nodup, SnapshotIn, SnapshotIn, erased]
    by_cases gone : name ∈ names
    · simp [gone]
    · simp [gone]
  refine List.Perm.eq_of_pairwise (fun _ _ _ _ before after => nameBefore_antisymm before after)
    sorted' sortedKept ?_
  exact (List.perm_ext_iff_of_nodup (sorted'.imp fun before => before.2)
    (sortedKept.imp fun before => before.2)).mpr members

end BackupRotation.Store

namespace BackupRotation.Prune

open Files Store Text Snapshot

variable {start : FileSystem} {top : Key} {root : PathName}

/-! ### Deleting snapshot directories -/

/-- A deletion of a snapshot directory of a framed target that succeeded
removed exactly its name, and changed nothing but the file tree. -/
theorem deleteSnapshot_directory_ok (empty : EmptyTarget root top start) {world after : World}
    (framed : Framed start top world.files) {name : Bytes} (plain : PlainName name) {mode : Nat}
    (present : level world.files top name = some (.directory mode))
    (deleted : (deleteSnapshot (root.join ⟨name⟩)).run world = (.ok (), after)) :
    after = { world with files := after.files } ∧ Framed start top after.files ∧
      level after.files top = Function.update (level world.files top) name none := by
  rcases deleteSnapshot_directory_effect empty framed plain present with ⟨failure, failed⟩ |
    ⟨files, ran, framedFiles, erased⟩
  · rw [failed] at deleted
    cases deleted
  · rw [ran] at deleted
    cases deleted
    exact ⟨rfl, framedFiles, erased⟩

/-- Deletions of distinct snapshot directories of a framed target that all
succeed erase exactly their names from the view, and change nothing but the
file tree. -/
theorem run_deletions_erase (empty : EmptyTarget root top start) :
    ∀ (names : List Bytes) (world reached : World), Framed start top world.files → names.Nodup →
      (∀ name ∈ names, PlainName name ∧ ∃ mode, level world.files top name = some (.directory mode)) →
      ((names.map fun name => root.join ⟨name⟩).forM deleteSnapshot).run world = (.ok (), reached) →
      reached = { world with files := reached.files } ∧ Framed start top reached.files ∧
        ∀ other, level reached.files top other = if other ∈ names then none else level world.files top other := by
  intro names
  induction names with
  | nil =>
      intro world reached _ _ _ ran
      cases ran
      exact ⟨rfl, ‹_›, fun other => by simp⟩
  | cons name rest ih =>
      intro world reached framed distinct doomed ran
      rw [List.map_cons] at ran
      obtain ⟨middle, deleted, others⟩ := run_deletions_cons_ok ran
      obtain ⟨plain, mode, present⟩ := doomed name List.mem_cons_self
      obtain ⟨middleWorld, middleFramed, middleLevel⟩ :=
        deleteSnapshot_directory_ok empty framed plain present deleted
      obtain ⟨fresh, restDistinct⟩ := List.nodup_cons.mp distinct
      -- the names still to delete are untouched by the first deletion
      have restDoomed : ∀ other ∈ rest,
          PlainName other ∧ ∃ mode, level middle.files top other = some (.directory mode) := by
        intro other inside
        have differ : other ≠ name := fun same => fresh (same ▸ inside)
        rw [middleLevel, Function.update_of_ne differ]
        exact doomed other (List.mem_cons_of_mem name inside)
      obtain ⟨reachedWorld, reachedFramed, reachedLevel⟩ := ih middle reached middleFramed restDistinct restDoomed others
      refine ⟨?_, reachedFramed, fun other => ?_⟩
      · rw [reachedWorld, middleWorld]
      · rw [reachedLevel, middleLevel]
        by_cases inRest : other ∈ rest
        · simp [inRest]
        · by_cases same : other = name
          · subst same
            simp
          · simp [inRest, same]

end BackupRotation.Prune

namespace BackupRotation.Store

open Files Text Prune

variable {root : PathName} {top : Key} {start : FileSystem}

/-- Deletions of listed snapshot directories that all succeed leave a framed
target listing the other snapshots, in order, and the rest of its view as it
was. -/
theorem FramedTarget.after_deletions {target : Target} {world reached : World}
    (framedTarget : FramedTarget target.root top start world.files) {gone : List Bytes}
    (listedGone : ∀ name ∈ gone, name ∈ snapshotNames world.files top) (distinct : gone.Nodup)
    (deleted : ((gone.map fun name => target.root.join ⟨name⟩).forM deleteSnapshot).run world = (.ok (), reached)) :
    reached = { world with files := reached.files } ∧ FramedTarget target.root top start reached.files ∧
      snapshotNames reached.files top = (snapshotNames world.files top).filter (· ∉ gone) ∧
      ∀ other, other ∉ gone → level reached.files top other = level world.files top other := by
  have doomed : ∀ name ∈ gone, PlainName name ∧ ∃ mode, level world.files top name = some (.directory mode) :=
    fun name inside =>
      let ⟨plain, _, present⟩ := framedTarget.listed (listedGone name inside)
      ⟨plain, present⟩
  obtain ⟨reachedWorld, reachedFramed, erased⟩ :=
    run_deletions_erase framedTarget.empty gone world reached framedTarget.framed distinct doomed deleted
  have listing := snapshotNames_of_erased framedTarget.framed.nodup reachedFramed.nodup erased
  refine ⟨reachedWorld, ⟨framedTarget.empty, reachedFramed, fun name inside => ?_⟩, listing,
    fun other kept => by rw [erased, if_neg kept]⟩
  rw [listing, List.mem_filter] at inside
  exact framedTarget.plain name inside.1

end BackupRotation.Store

namespace BackupRotation.Prune

open Files Store Text Snapshot

/-! ### Marked and unmarked snapshots -/

/-- The items a list of decisions marks for removal, in order. -/
def marked {α : Type} (items : List α) (remove : List Bool) : List α :=
  ((items.zip remove).filter (·.2)).map Prod.fst

/-- The items a list of decisions keeps, in order. -/
def unmarked {α : Type} (items : List α) (remove : List Bool) : List α :=
  ((items.zip remove).filter fun pair => !pair.2).map Prod.fst

section Marks

variable {α β : Type}

@[simp] theorem marked_cons_cons (item : α) (items : List α) (flag : Bool) (remove : List Bool) :
    marked (item :: items) (flag :: remove) = if flag then item :: marked items remove else marked items remove := by
  cases flag <;> simp [marked]

@[simp] theorem unmarked_cons_cons (item : α) (items : List α) (flag : Bool) (remove : List Bool) :
    unmarked (item :: items) (flag :: remove) = if flag then unmarked items remove else item :: unmarked items remove := by
  cases flag <;> simp [unmarked]

theorem map_marked (f : α → β) (items : List α) (remove : List Bool) :
    (marked items remove).map f = marked (items.map f) remove := by
  simp [marked, List.zip_map_left, List.filter_map, Function.comp_def]

theorem map_unmarked (f : α → β) (items : List α) (remove : List Bool) :
    (unmarked items remove).map f = unmarked (items.map f) remove := by
  simp [unmarked, List.zip_map_left, List.filter_map, Function.comp_def]

theorem marked_sublist (items : List α) (remove : List Bool) : (marked items remove).Sublist items := by
  induction items generalizing remove with
  | nil => simp [marked]
  | cons item items ih =>
      cases remove with
      | nil => simp [marked]
      | cons flag remove =>
          rw [marked_cons_cons]
          split
          · exact (ih remove).cons_cons item
          · exact (ih remove).cons item

theorem unmarked_sublist (items : List α) (remove : List Bool) : (unmarked items remove).Sublist items := by
  induction items generalizing remove with
  | nil => simp [unmarked]
  | cons item items ih =>
      cases remove with
      | nil => simp [unmarked]
      | cons flag remove =>
          rw [unmarked_cons_cons]
          split
          · exact (ih remove).cons item
          · exact (ih remove).cons_cons item

/-- Decisions that keep everything mark nothing. -/
@[simp] theorem marked_replicate_false (items : List α) : marked items (List.replicate items.length false) = [] := by
  induction items with
  | nil => rfl
  | cons item items ih => simp [List.replicate_succ, ih]

/-- Decisions that keep everything keep every item. -/
@[simp] theorem unmarked_replicate_false (items : List α) :
    unmarked items (List.replicate items.length false) = items := by
  induction items with
  | nil => rfl
  | cons item items ih => simp [List.replicate_succ, ih]

/-- Taking the marked items out of a list without repeats leaves the unmarked
ones. -/
theorem filter_not_mem_marked [BEq α] [LawfulBEq α] :
    ∀ {items : List α} {remove : List Bool}, items.Nodup → items.length = remove.length →
      items.filter (· ∉ marked items remove) = unmarked items remove
  | [], [], _, _ => rfl
  | item :: items, flag :: remove, distinct, same => by
      obtain ⟨fresh, distinctRest⟩ := List.nodup_cons.mp distinct
      have rest : items.filter (· ∉ marked items remove) = unmarked items remove :=
        filter_not_mem_marked distinctRest (Nat.succ.inj same)
      -- the first item is marked or not, and no later item equals it
      have notLater : item ∉ marked items remove := fun inside => fresh ((marked_sublist items remove).subset inside)
      have others : items.filter (· ∉ item :: marked items remove) = items.filter (· ∉ marked items remove) := by
        refine List.filter_congr fun other inside => ?_
        have differ : other ≠ item := fun same => fresh (same ▸ inside)
        simp [differ]
      cases flag
      · rw [marked_cons_cons, unmarked_cons_cons, if_neg Bool.false_ne_true, if_neg Bool.false_ne_true,
          List.filter_cons_of_pos (by simpa using notLater), rest]
      · rw [marked_cons_cons, unmarked_cons_cons, if_pos rfl, if_pos rfl,
          List.filter_cons_of_neg (by simp), others, rest]

end Marks

/-- The deletions a purge decides over entries: the marked ones, none in a dry
run. -/
theorem deletions_zip (dryRun : Bool) :
    ∀ (entries : List Entry) (remove : List Bool),
      deletions dryRun (entries.zip remove) = if dryRun then [] else (marked entries remove).map (·.path)
  | [], remove => by cases dryRun <;> simp [deletions, marked]
  | entry :: entries, [] => by cases dryRun <;> simp [deletions, marked]
  | entry :: entries, flag :: remove => by
      have rest := deletions_zip dryRun entries remove
      unfold deletions at rest ⊢
      cases dryRun <;> cases flag <;> simp_all

/-- Entries are read path by path, so the entries of the unmarked paths are
the unmarked entries. -/
theorem entriesOfPaths_unmarked {zone : Calendar.Zone} :
    ∀ {paths : List PathName} {entries : List Entry} (remove : List Bool),
      entriesOfPaths zone paths = .ok entries →
      entriesOfPaths zone (unmarked paths remove) = .ok (unmarked entries remove)
  | [], entries, remove, read => by
      simp only [entriesOfPaths, Except.ok.injEq] at read
      subst read
      simp [unmarked, entriesOfPaths]
  | path :: rest, entries, remove, read => by
      simp only [entriesOfPaths] at read
      cases first : Entry.ofPath zone path with
      | error failure => simp [first, bind, Except.bind] at read
      | ok entry =>
          cases others : entriesOfPaths zone rest with
          | error failure => simp [first, others, bind, Except.bind] at read
          | ok tail =>
              simp only [first, others, bind, Except.bind, pure, Except.pure, Except.ok.injEq] at read
              subst read
              cases remove with
              | nil => simp [unmarked, entriesOfPaths]
              | cons flag remove =>
                  have kept := entriesOfPaths_unmarked remove others
                  cases flag
                  · simp [entriesOfPaths, first, kept, bind, Except.bind, pure, Except.pure]
                  · simpa using kept

/-! ### A purge that succeeded -/

/-- Deletions that succeed after events were reported succeed without them. -/
theorem run_deletions_of_reported {paths : List PathName} {world reached : World}
    {events : List Report.PruneEvent}
    (ran : (paths.forM deleteSnapshot).run (reported world events) = (.ok (), reached)) :
    ∃ bare, (paths.forM deleteSnapshot).run world = (.ok (), bare) := by
  rcases bareRun : (paths.forM deleteSnapshot).run world with ⟨outcome, bare⟩
  rw [run_deletions_reported bareRun events] at ran
  cases ran
  exact ⟨bare, rfl⟩

/-- A walk of a purge that succeeded ran every deletion it decided, and each
of them succeeded. -/
theorem deletions_ok_of_purgeEach (dryRun : Bool) :
    ∀ (decided : List (Entry × Bool)) (purged : Nat) (world final : World) (count : Nat),
      (purgeEach dryRun purged decided).run world = (.ok count, final) →
      ∃ reached, ((deletions dryRun decided).forM deleteSnapshot).run world = (.ok (), reached) := by
  intro decided
  induction decided with
  | nil =>
      intro purged world final count _
      exact ⟨world, rfl⟩
  | cons head rest ih =>
      obtain ⟨entry, marked⟩ := head
      intro purged world final count ran
      cases deleting : marked && !dryRun with
      | false =>
          have same : deletions dryRun ((entry, marked) :: rest) = deletions dryRun rest := by
            simp only [deletions, List.filterMap_cons, deleting, Bool.false_eq_true, ↓reduceIte]
          rw [same]
          rw [run_purgeEach_skip deleting] at ran
          obtain ⟨reached, others⟩ := ih purged _ final count ran
          exact run_deletions_of_reported others
      | true =>
          have more : deletions dryRun ((entry, marked) :: rest) = entry.path :: deletions dryRun rest := by
            simp only [deletions, List.filterMap_cons, deleting, ↓reduceIte]
          rw [more]
          rcases first : (deleteSnapshot entry.path).run world with ⟨_ | ⟨⟩, middle⟩
          · -- a failed deletion would have stopped the purge
            rw [run_purgeEach_fail deleting first] at ran
            cases ran
          · rw [run_purgeEach_delete deleting first] at ran
            obtain ⟨reached, others⟩ := ih (purged + 1) _ final count ran
            obtain ⟨bare, othersBare⟩ := run_deletions_of_reported others
            refine ⟨bare, ?_⟩
            rw [show (entry.path :: deletions dryRun rest).forM deleteSnapshot =
                (deleteSnapshot entry.path >>= fun _ => (deletions dryRun rest).forM deleteSnapshot) from rfl,
              Task.run_bind_ok first]
            exact othersBare

/-- A purge that succeeded had one decision per snapshot, ran the deletions
it decided successfully, returned their number, and ended in the world they
reach with every snapshot reported. -/
theorem purge_ok_inv {entries : List Entry} {remove : List Bool} {dryRun : Bool} {world final : World}
    {count : Nat} (ran : (purge entries remove dryRun).run world = (.ok count, final)) :
    entries.length = remove.length ∧ ∃ reached,
      ((deletions dryRun (entries.zip remove)).forM deleteSnapshot).run world = (.ok (), reached) ∧
      count = (if dryRun then 0 else remove.count true) ∧
      final = reported reached ((entries.zip remove).map (pruneEvent dryRun)) := by
  by_cases same : entries.length = remove.length
  · rw [run_purge_matched dryRun world same] at ran
    obtain ⟨reached, deleted⟩ := deletions_ok_of_purgeEach dryRun _ 0 world final count ran
    have accounted := run_purgeEach_of_deletions dryRun _ 0 world reached deleted
    rw [ran] at accounted
    obtain ⟨counted, ended⟩ := Prod.mk.inj accounted
    refine ⟨same, reached, deleted, ?_, ended⟩
    rw [Except.ok.inj counted, Nat.zero_add, length_deletions, countP_zip_snd same]
  · rw [run_purge_mismatch dryRun world same] at ran
    cases ran

/-! ### The start of a trim -/

/-- The snapshots a trim or prune goes on with were listed, are two or more,
and were found without changing anything. -/
theorem existingSnapshots_ok_inv {target : Target} {world after : World} {dirs : List PathName}
    (ran : (existingSnapshots target).run world = (.ok dirs, after)) :
    target.snapshots.run world = (.ok dirs, world) ∧ 2 ≤ dirs.length ∧ after = world := by
  obtain ⟨outcome, listed⟩ := Target.snapshots_keeps_world target world
  unfold existingSnapshots at ran
  rw [Task.run_bind, listed] at ran
  rcases outcome with failure | listing
  · cases ran
  · match listing, ran with
    | [], ran => cases ran
    | [_], ran => cases ran
    | first :: second :: rest, ran =>
        cases ran
        exact ⟨listed, by simp, rfl⟩

end BackupRotation.Prune

namespace BackupRotation.Retention

open Files Store Snapshot Prune

/-- A trim of two snapshots or more, all of whose names read as times, with
cutoffs inside the calendar, purges what the classifier flags. -/
theorem run_trimSnapshots {target : Target} {policy : Policy} {now : Calendar.Stamp} {dryRun : Bool}
    {world : World} {dirs : List PathName} {entries : List Entry} {hourly daily : Calendar.Stamp}
    (listed : (target.snapshots.run world).1 = .ok dirs) (several : 2 ≤ dirs.length)
    (parsed : entriesOfPaths world.zone dirs = .ok entries)
    (cut : policy.cutoffs world.zone now = some (hourly, daily)) :
    (trimSnapshots target policy now dryRun).run world =
      (purge entries (classify (entries.map (·.time)) hourly daily) dryRun).run world := by
  unfold trimSnapshots
  rw [Task.run_bind_ok (run_existingSnapshots listed several), Task.run_bind_ok (Task.run_zone world),
    Task.run_bind_ok (by rw [Task.run_ofOutcome, parsed])]
  simp only [cut]
  rw [Task.run_bind_ok (Task.run_pure _ world)]

/-- A trim that succeeded listed two snapshots or more, read every name as a
time, found its cutoffs inside the calendar, and its purge of what the
classifier flags succeeded. -/
theorem trimSnapshots_ok_inv {target : Target} {policy : Policy} {now : Calendar.Stamp} {dryRun : Bool}
    {world final : World} {count : Nat}
    (ran : (trimSnapshots target policy now dryRun).run world = (.ok count, final)) :
    ∃ dirs entries hourly daily, target.snapshots.run world = (.ok dirs, world) ∧ 2 ≤ dirs.length ∧
      entriesOfPaths world.zone dirs = .ok entries ∧ policy.cutoffs world.zone now = some (hourly, daily) ∧
      (purge entries (classify (entries.map (·.time)) hourly daily) dryRun).run world = (.ok count, final) := by
  unfold trimSnapshots at ran
  rw [Task.run_bind] at ran
  rcases existing : (existingSnapshots target).run world with ⟨_ | dirs, after⟩
  · rw [existing] at ran
    cases ran
  rw [existing] at ran
  obtain ⟨listed, several, rfl⟩ := existingSnapshots_ok_inv existing
  dsimp only at ran
  rw [Task.run_bind_ok (Task.run_zone _)] at ran
  cases parsed : entriesOfPaths after.zone dirs with
  | error failure =>
      rw [Task.run_bind_error (by rw [Task.run_ofOutcome, parsed])] at ran
      cases ran
  | ok entries =>
      rw [Task.run_bind_ok (by rw [Task.run_ofOutcome, parsed])] at ran
      split at ran
      · rename_i cutoffs cut
        rw [Task.run_bind_ok (Task.run_pure _ _)] at ran
        exact ⟨dirs, entries, cutoffs.1, cutoffs.2, listed, several, parsed, cut, ran⟩
      · rw [Task.run_bind_error (Task.run_throw _ _)] at ran
        cases ran

end BackupRotation.Retention
