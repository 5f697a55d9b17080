import Mathlib
import BackupRotation.Proofs.PathComponents
import BackupRotation.Proofs.Task
import BackupRotation.Snapshot.Restore
/-!
# Where a restore copies

A restore splits the path it is given at its snapshot, trying `latest` below
it when the path names none, and copies the part below the snapshot back
under the parent of the source. This module says where that copy lands, for
every path and every source with a base name.

The part below the snapshot is restored as it is, or as the source's base
name when the snapshot itself is given (`restoredPath`). It must start with
that base name as a whole component, so a name that only shares its first
letters is refused (`run_makeDirs_refused`). Otherwise the copy is taken
from the snapshot joined with that path and placed in the parent of the
source joined with the directory of that path (`run_makeDirs_accepted`);
the copy then lands at the parent of the source joined with the restored
path, which is the source or a path below it. Paths are compared by their
components, so a trailing slash makes no difference.
-/

namespace BackupRotation.Snapshot

open Files Store Text

/-- The path a restore copies from below the snapshot: the path given inside
it, or the source's base name when the snapshot itself is given. -/
def restoredPath (sub : PathName) (base : Bytes) : PathName :=
  if sub.bytes = [] then ⟨base⟩ else sub

/-! ### Splitting changes nothing -/

/-- A split reads the canonical form of the path, which must be text, and
cuts it after the first snapshot name in it. -/
theorem run_split (path : PathName) (marker : Marker) (world : World) :
    (split path marker).run world =
      (match world.files.canonicalize path with
        | .error e => .error (.io (.os e))
        | .ok resolved =>
            if !isUtf8 resolved.bytes then .error (.pathConversion resolved.bytes)
            else match marker.find resolved.bytes with
              | none => .error (.splitNotFound resolved.bytes)
              | some (_, stop) => .ok (⟨resolved.bytes.take stop⟩, ⟨trimByte slash (resolved.bytes.drop stop)⟩),
        world) := by
  unfold split
  rw [Task.run_bind, Task.run_ask]
  cases world.files.canonicalize path with
  | error e => rfl
  | ok resolved =>
      dsimp only
      cases isUtf8 resolved.bytes <;> rcases marker.find resolved.bytes with _ | ⟨_, _⟩ <;> rfl

theorem split_readOnly (path : PathName) (marker : Marker) : Task.ReadOnly (split path marker) := by
  intro world
  rw [run_split]

/-- A split fails on the file system, on a name that is no text, or for want
of a snapshot, never for a restore path. -/
theorem split_failure {path : PathName} {marker : Marker} {world : World} {failure : Failure}
    (failed : ((split path marker).run world).1 = .error failure) (subpath base : String) :
    failure ≠ .invalidRestorePath subpath base := by
  rintro rfl
  rw [run_split] at failed
  dsimp only at failed
  split at failed
  · cases failed
  · split at failed
    · cases failed
    · split at failed <;> cases failed

theorem splitOrLatest_readOnly (src : PathName) : Task.ReadOnly (splitOrLatest src) := by
  intro world
  unfold splitOrLatest
  rw [Task.run_tryCatch, Task.run_of_readOnly (split_readOnly src .grammar) world]
  rcases ((split src .grammar).run world).1 with failure | value
  · dsimp only
    split
    · exact split_readOnly _ _ world
    · rfl
  · rfl

/-- The snapshot and the path below it are those of the path given, or of
`latest` below it when the path given names no snapshot. -/
theorem run_splitOrLatest_ok_iff {src root sub : PathName} {world : World} :
    (splitOrLatest src).run world = (.ok (root, sub), world) ↔
      (split src .grammar).run world = (.ok (root, sub), world) ∨
        (∃ resolved, (split src .grammar).run world = (.error (.splitNotFound resolved), world)) ∧
          (split (src.joinText latestLinkName) .grammar).run world = (.ok (root, sub), world) := by
  unfold splitOrLatest
  rw [Task.run_tryCatch]
  rcases Task.readOnly_cases (split_readOnly src .grammar) world with ⟨failure, failed⟩ | ⟨value, found⟩
  · rw [failed]
    dsimp only
    split
    · rename_i resolved
      constructor
      · exact fun latest => .inr ⟨⟨resolved, rfl⟩, latest⟩
      · rintro (same | ⟨_, latest⟩)
        · cases same
        · exact latest
    · rename_i other notSplit
      rw [Task.run_throw]
      constructor
      · intro thrown
        cases thrown
      · rintro (same | ⟨⟨resolved, same⟩, _⟩)
        · cases same
        · cases same
          exact absurd rfl (notSplit resolved)
  · rw [found]
    dsimp only
    constructor
    · exact .inl
    · rintro (same | ⟨⟨_, same⟩, _⟩)
      · exact same
      · cases same

theorem splitOrLatest_failure {src : PathName} {world : World} {failure : Failure}
    (failed : ((splitOrLatest src).run world).1 = .error failure) (subpath base : String) :
    failure ≠ .invalidRestorePath subpath base := by
  unfold splitOrLatest at failed
  rw [Task.run_tryCatch] at failed
  rcases Task.readOnly_cases (split_readOnly src .grammar) world with ⟨first, refused⟩ | ⟨value, found⟩
  · rw [refused] at failed
    dsimp only at failed
    split at failed
    · exact split_failure failed subpath base
    · rename_i other _
      cases failed
      exact split_failure (by rw [refused]) subpath base
  · rw [found] at failed
    cases failed

/-! ### The copy's source and destination -/

/-- The directory a restore copies into: the parent of the source, extended
by the directory the path below the snapshot lies in. -/
def restoreDestination (homeParent sub : PathName) : PathName :=
  match sub.parent with
  | some dir => if dir.bytes.isEmpty then homeParent else homeParent.join dir
  | none => homeParent

variable {src home : PathName} {base : Bytes} {world : World}

/-- A path below the snapshot that is the base name itself starts with it. -/
theorem head_of_bytes_eq_base (named : home.fileName = some base) {sub : PathName} (same : sub.bytes = base) :
    sub.components.head? = some (.normal base) := by
  obtain ⟨bytes⟩ := sub
  subst same
  rw [PathName.components_plain (PathName.plainName_of_fileName named)]
  rfl

/-- A path below the snapshot that is neither empty nor starts with the base
name of the source is refused, naming both. -/
theorem run_makeDirs_refused (named : home.fileName = some base) {root sub : PathName}
    (splitAt : (splitOrLatest src).run world = (.ok (root, sub), world))
    (nonempty : sub.bytes ≠ []) (foreign : sub.components.head? ≠ some (.normal base)) :
    (makeDirs src home).run world = (.error (.invalidRestorePath sub.display (lossy base)), world) := by
  have notBase : sub.bytes ≠ base := fun same => foreign (head_of_bytes_eq_base named same)
  have kept : (sub.bytes.isEmpty || sub.bytes == base) = false := by simp [nonempty, notBase]
  unfold makeDirs
  rw [named]
  dsimp only
  rw [Task.run_bind_ok (Task.run_pure base world), Task.run_bind_ok splitAt]
  dsimp only
  simp only [kept, Bool.false_eq_true, ↓reduceIte]
  split
  · rename_i first starts
    have other : (first == base) = false := by
      rw [beq_eq_false_iff_ne]
      rintro rfl
      exact foreign starts
    rw [other, if_neg Bool.false_ne_true, Task.run_bind_error (Task.run_throw _ world)]
  · rw [Task.run_bind_error (Task.run_throw _ world)]

/-- A restore whose path does not split fails as the split did. -/
theorem run_makeDirs_split_failed (named : home.fileName = some base) {failure : Failure}
    (failed : (splitOrLatest src).run world = (.error failure, world)) :
    (makeDirs src home).run world = (.error failure, world) := by
  unfold makeDirs
  rw [named]
  dsimp only
  rw [Task.run_bind_ok (Task.run_pure base world), Task.run_bind_error failed]

/-- A path below the snapshot that is empty or starts with the base name of
the source is copied from the snapshot into the parent of the source. -/
theorem run_makeDirs_accepted (named : home.fileName = some base) {root sub : PathName}
    (splitAt : (splitOrLatest src).run world = (.ok (root, sub), world))
    (accepted : sub.bytes = [] ∨ sub.components.head? = some (.normal base)) :
    (makeDirs src home).run world =
      (.ok (root.join (restoredPath sub base), restoreDestination (home.parent.getD ⟨[]⟩) sub), world) := by
  unfold makeDirs
  rw [named]
  dsimp only
  rw [Task.run_bind_ok (Task.run_pure base world), Task.run_bind_ok splitAt]
  dsimp only
  by_cases whole : (sub.bytes.isEmpty || sub.bytes == base) = true
  · -- the snapshot itself, or exactly the base name: the source's base name is copied
    rw [if_pos whole, Task.run_bind_ok (Task.run_pure _ world)]
    have restored : root.join (restoredPath sub base) = root.join ⟨base⟩ := by
      unfold restoredPath
      split
      · rfl
      · rename_i nonempty
        simp only [Bool.or_eq_true, List.isEmpty_iff, beq_iff_eq] at whole
        obtain ⟨bytes⟩ := sub
        cases whole.resolve_left nonempty
        rfl
    rw [restored]
    rfl
  · -- a path that starts with the base name is copied as it is
    rw [if_neg whole]
    have nonempty : sub.bytes ≠ [] := by
      intro empty
      simp [empty] at whole
    rw [accepted.resolve_left nonempty]
    dsimp only
    rw [beq_self_eq_true, if_pos rfl, Task.run_bind_ok (Task.run_pure _ world)]
    unfold restoredPath
    rw [if_neg nonempty]
    rfl

/-! ### Where the copy lands -/

/-- The restored path starts with the base name of the source. -/
theorem restoredPath_head (named : home.fileName = some base) {sub : PathName}
    (accepted : sub.bytes = [] ∨ sub.components.head? = some (.normal base)) :
    (restoredPath sub base).components.head? = some (.normal base) := by
  unfold restoredPath
  split
  · rw [PathName.components_plain (PathName.plainName_of_fileName named)]
    rfl
  · rename_i nonempty
    exact accepted.resolve_left nonempty

/-- The copy goes into the parent of the source joined with the directory of
the restored path. -/
theorem components_restoreDestination (named : home.fileName = some base) {sub : PathName}
    (accepted : sub.bytes = [] ∨ sub.components.head? = some (.normal base)) :
    (restoreDestination (home.parent.getD ⟨[]⟩) sub).components =
      ((home.parent.getD ⟨[]⟩).join ((restoredPath sub base).parent.getD ⟨[]⟩)).components := by
  unfold restoreDestination restoredPath
  by_cases empty : sub.bytes = []
  · -- the snapshot itself: the base name is copied into the parent of the source
    have noParent : sub.parent = none := by
      obtain ⟨bytes⟩ := sub
      subst empty
      rfl
    have plain := PathName.plainName_of_fileName named
    have baseNamed : (⟨base⟩ : PathName).fileName = some base :=
      PathName.fileName_of_components (by rw [PathName.components_plain plain]; rfl)
    obtain ⟨dir, parentIs, split⟩ := PathName.components_parent baseNamed
    rw [PathName.components_plain plain, List.append_eq_cons_iff] at split
    have dirEmpty : dir.components = [] := by
      rcases split with ⟨empty, _⟩ | ⟨_, _, wrong⟩
      · exact empty
      · simp at wrong
    obtain ⟨relative, noCurrent⟩ := relative_of_components (.inl (by rw [dirEmpty]; rfl))
    rw [noParent, if_pos empty, parentIs, Option.getD_some, PathName.components_join _ relative noCurrent, dirEmpty,
      List.append_nil]
  · rw [if_neg empty]
    cases sub.parent with
    | none => exact (PathName.components_join_nil _).symm
    | some dir =>
        dsimp only
        split
        · rename_i noBytes
          obtain ⟨bytes⟩ := dir
          simp only [List.isEmpty_iff] at noBytes
          subst noBytes
          exact (PathName.components_join_nil _).symm
        · rfl

/-- The parent of the source joined with a path that starts with the base
name of the source is the source or a path below it. -/
theorem components_join_below_source (named : home.fileName = some base) {path : PathName}
    (head : path.components.head? = some (.normal base)) :
    ∃ below, ((home.parent.getD ⟨[]⟩).join path).components = home.components ++ below := by
  obtain ⟨parent, parentIs, split⟩ := PathName.components_parent named
  obtain ⟨relative, noCurrent⟩ := relative_of_components (.inr ⟨base, head⟩)
  obtain ⟨below, starts⟩ := List.head?_eq_some_iff.mp head
  refine ⟨below, ?_⟩
  rw [parentIs, Option.getD_some, PathName.components_join _ relative noCurrent, starts, ← split,
    List.append_assoc, List.singleton_append]

/-- A copy taken from the snapshot joined with the restored path, into the
destination, lands at the parent of the source joined with the restored
path: the destination is the directory of the restored path. -/
theorem components_copy_lands (named : home.fileName = some base) {root sub : PathName}
    (accepted : sub.bytes = [] ∨ sub.components.head? = some (.normal base)) {name : Bytes}
    (copied : (root.join (restoredPath sub base)).fileName = some name) :
    ((restoreDestination (home.parent.getD ⟨[]⟩) sub).join ⟨name⟩).components =
      ((home.parent.getD ⟨[]⟩).join (restoredPath sub base)).components := by
  have head := restoredPath_head named accepted
  obtain ⟨relative, noCurrent⟩ := relative_of_components (.inr ⟨base, head⟩)
  have nonempty : (restoredPath sub base).components ≠ [] := fun empty => by rw [empty] at head; cases head
  rw [PathName.fileName_join_of_relative root relative noCurrent nonempty] at copied
  obtain ⟨dir, parentIs, split⟩ := PathName.components_parent copied
  -- the directory of the restored path is relative, as the path is
  have dirHead : dir.components.head? = none ∨ ∃ first, dir.components.head? = some (.normal first) := by
    cases found : dir.components with
    | nil => exact .inl rfl
    | cons first rest =>
        rw [← split, found] at head
        exact .inr ⟨base, head⟩
  obtain ⟨dirRelative, dirNoCurrent⟩ := relative_of_components dirHead
  obtain ⟨nameRelative, nameNoCurrent⟩ := PathName.relative_plain (PathName.plainName_of_fileName copied)
  rw [PathName.components_join _ nameRelative nameNoCurrent, components_restoreDestination named accepted,
    parentIs, Option.getD_some, PathName.components_join _ dirRelative dirNoCurrent,
    PathName.components_plain (PathName.plainName_of_fileName copied), List.append_assoc, split,
    PathName.components_join _ relative noCurrent]

/-! ### Restore paths stay inside the source -/

/-- Restore paths stay inside the source. For a source with base name `base`,
the snapshot and the path below it are those of the path given, or of
`latest` below it when the path given names no snapshot. When the path below
the snapshot is empty or starts with `base`, the restore is set up. A restore
that is set up copies from the snapshot joined with the restored path, which
starts with `base`, into the parent of the source joined with the directory
of the restored path, so the copy lands at the parent of the source joined
with the restored path: the source itself or a path below it. The restore is
refused as an invalid restore path exactly when the path below the snapshot
is not empty and does not start with `base` as a whole component; sharing
its first letters is not enough. -/
theorem restore_stays_inside_source (named : home.fileName = some base) (world : World) :
    (∀ root sub : PathName, (splitOrLatest src).run world = (.ok (root, sub), world) ↔
      (split src .grammar).run world = (.ok (root, sub), world) ∨
        (∃ resolved, (split src .grammar).run world = (.error (.splitNotFound resolved), world)) ∧
          (split (src.joinText latestLinkName) .grammar).run world = (.ok (root, sub), world)) ∧
    (∀ root sub : PathName, (splitOrLatest src).run world = (.ok (root, sub), world) →
      (sub.bytes = [] ∨ sub.components.head? = some (.normal base)) →
      ∃ dest, (makeDirs src home).run world = (.ok (root.join (restoredPath sub base), dest), world)) ∧
    (∀ (source dest : PathName) (after : World), (makeDirs src home).run world = (.ok (source, dest), after) →
      after = world ∧ ∃ root sub : PathName, (splitOrLatest src).run world = (.ok (root, sub), world) ∧
        source = root.join (restoredPath sub base) ∧
        (restoredPath sub base).components.head? = some (.normal base) ∧
        dest.components = ((home.parent.getD ⟨[]⟩).join ((restoredPath sub base).parent.getD ⟨[]⟩)).components ∧
        (∀ name, source.fileName = some name →
          (dest.join ⟨name⟩).components = ((home.parent.getD ⟨[]⟩).join (restoredPath sub base)).components) ∧
        ∃ below, ((home.parent.getD ⟨[]⟩).join (restoredPath sub base)).components = home.components ++ below) ∧
    ((∃ subpath base', ((makeDirs src home).run world).1 = .error (.invalidRestorePath subpath base')) ↔
      ∃ root sub : PathName, (splitOrLatest src).run world = (.ok (root, sub), world) ∧ sub.bytes ≠ [] ∧
        sub.components.head? ≠ some (.normal base) ∧
        (makeDirs src home).run world = (.error (.invalidRestorePath sub.display (lossy base)), world)) := by
  refine ⟨fun _ _ => run_splitOrLatest_ok_iff,
    fun _ _ splitAt accepted => ⟨_, run_makeDirs_accepted named splitAt accepted⟩, ?_, ?_⟩
  · -- a restore that is set up split the path, and accepted what lies below the snapshot
    intro source dest after ran
    rcases Task.readOnly_cases (splitOrLatest_readOnly src) world with ⟨_, failed⟩ | ⟨⟨root, sub⟩, splitAt⟩
    · rw [run_makeDirs_split_failed named failed] at ran
      cases ran
    by_cases accepted : sub.bytes = [] ∨ sub.components.head? = some (.normal base)
    · rw [run_makeDirs_accepted named splitAt accepted] at ran
      cases ran
      exact ⟨rfl, root, sub, splitAt, rfl, restoredPath_head named accepted,
        components_restoreDestination named accepted, fun _ copied => components_copy_lands named accepted copied,
        components_join_below_source named (restoredPath_head named accepted)⟩
    · rw [not_or] at accepted
      rw [run_makeDirs_refused named splitAt accepted.1 accepted.2] at ran
      cases ran
  · constructor
    · -- a refusal comes from the path below the snapshot, never from the split
      rintro ⟨subpath, base', refused⟩
      rcases Task.readOnly_cases (splitOrLatest_readOnly src) world with ⟨failure, failed⟩ | ⟨⟨root, sub⟩, splitAt⟩
      · rw [run_makeDirs_split_failed named failed] at refused
        exact absurd (Except.error.inj refused) (splitOrLatest_failure (by rw [failed]) subpath base')
      by_cases accepted : sub.bytes = [] ∨ sub.components.head? = some (.normal base)
      · rw [run_makeDirs_accepted named splitAt accepted] at refused
        cases refused
      · rw [not_or] at accepted
        exact ⟨root, sub, splitAt, accepted.1, accepted.2, run_makeDirs_refused named splitAt accepted.1 accepted.2⟩
    · rintro ⟨_, _, _, _, _, refused⟩
      exact ⟨_, _, by rw [refused]⟩

/-- The snapshot of 1 January 2024, 10:00, in the target `/t`, holding the
directory `username`, in UTC. -/
def usernameWorld : World :=
  { files :=
      { entries := [([], .directory 0o755), ([encode "t"], .directory 0o755),
          ([encode "t", encode "20240101_100000.0000.szb"], .directory 0o755),
          ([encode "t", encode "20240101_100000.0000.szb", encode "username"], .directory 0o755)],
        cwd := [] },
    searchPath := [], tools := [], zone := .utc, clock := ⟨0, 0⟩, console := Report.Console.empty .normal }

/-- Restoring `username` from the snapshot into the source `/home/user`. -/
theorem restore_stays_inside_source_username :
    (PathName.ofString "/home/user").fileName = some (encode "user") ∧
    (∀ root sub : PathName,
      (splitOrLatest (PathName.ofString "/t/20240101_100000.0000.szb/username")).run usernameWorld =
          (.ok (root, sub), usernameWorld) ↔
        (split (PathName.ofString "/t/20240101_100000.0000.szb/username") .grammar).run usernameWorld =
            (.ok (root, sub), usernameWorld) ∨
          (∃ resolved, (split (PathName.ofString "/t/20240101_100000.0000.szb/username") .grammar).run
            usernameWorld = (.error (.splitNotFound resolved), usernameWorld)) ∧
            (split ((PathName.ofString "/t/20240101_100000.0000.szb/username").joinText latestLinkName)
              .grammar).run usernameWorld = (.ok (root, sub), usernameWorld)) ∧
    (∀ root sub : PathName,
      (splitOrLatest (PathName.ofString "/t/20240101_100000.0000.szb/username")).run usernameWorld =
        (.ok (root, sub), usernameWorld) →
      (sub.bytes = [] ∨ sub.components.head? = some (.normal (encode "user"))) →
      ∃ dest, (makeDirs (PathName.ofString "/t/20240101_100000.0000.szb/username")
          (PathName.ofString "/home/user")).run usernameWorld =
        (.ok (root.join (restoredPath sub (encode "user")), dest), usernameWorld)) ∧
    (∀ (source dest : PathName) (after : World),
      (makeDirs (PathName.ofString "/t/20240101_100000.0000.szb/username") (PathName.ofString "/home/user")).run
          usernameWorld = (.ok (source, dest), after) →
      after = usernameWorld ∧ ∃ root sub : PathName,
        (splitOrLatest (PathName.ofString "/t/20240101_100000.0000.szb/username")).run usernameWorld =
          (.ok (root, sub), usernameWorld) ∧
        source = root.join (restoredPath sub (encode "user")) ∧
        (restoredPath sub (encode "user")).components.head? = some (.normal (encode "user")) ∧
        dest.components = (((PathName.ofString "/home/user").parent.getD ⟨[]⟩).join
          ((restoredPath sub (encode "user")).parent.getD ⟨[]⟩)).components ∧
        (∀ name, source.fileName = some name →
          (dest.join ⟨name⟩).components = (((PathName.ofString "/home/user").parent.getD ⟨[]⟩).join
            (restoredPath sub (encode "user"))).components) ∧
        ∃ below, (((PathName.ofString "/home/user").parent.getD ⟨[]⟩).join
          (restoredPath sub (encode "user"))).components = (PathName.ofString "/home/user").components ++ below) ∧
    ((∃ subpath base', ((makeDirs (PathName.ofString "/t/20240101_100000.0000.szb/username")
          (PathName.ofString "/home/user")).run usernameWorld).1 = .error (.invalidRestorePath subpath base')) ↔
      ∃ root sub : PathName,
        (splitOrLatest (PathName.ofString "/t/20240101_100000.0000.szb/username")).run usernameWorld =
          (.ok (root, sub), usernameWorld) ∧ sub.bytes ≠ [] ∧
        sub.components.head? ≠ some (.normal (encode "user")) ∧
        (makeDirs (PathName.ofString "/t/20240101_100000.0000.szb/username") (PathName.ofString "/home/user")).run
          usernameWorld = (.error (.invalidRestorePath sub.display (lossy (encode "user"))), usernameWorld)) := by
  have named : (PathName.ofString "/home/user").fileName = some (encode "user") := by cbv
  exact ⟨named, restore_stays_inside_source named usernameWorld⟩

/-- `username` only shares its first letters with the base name `user`: the
restore is refused. -/
example : ((makeDirs (PathName.ofString "/t/20240101_100000.0000.szb/username") (PathName.ofString "/home/user")).run
    usernameWorld).1 = .error (.invalidRestorePath "username" "user") := by
  have splitAt : (splitOrLatest (PathName.ofString "/t/20240101_100000.0000.szb/username")).run usernameWorld =
      (.ok (PathName.ofString "/t/20240101_100000.0000.szb", PathName.ofString "username"), usernameWorld) :=
    Prod.ext (Task.eq_ok_of_toOption (by cbv)) (splitOrLatest_readOnly _ _)
  have named : (PathName.ofString "/home/user").fileName = some (encode "user") := by cbv
  have nonempty : (PathName.ofString "username").bytes ≠ [] := by
    cbv
    decide
  have foreign : (PathName.ofString "username").components.head? ≠ some (.normal (encode "user")) := by
    cbv
    decide
  have shown : (PathName.ofString "username").display = "username" ∧ lossy (encode "user") = "user" :=
    ⟨by cbv, by cbv⟩
  rw [run_makeDirs_refused named splitAt nonempty foreign, shown.1, shown.2]

end BackupRotation.Snapshot
