import BackupRotation.Proofs.Tree
import BackupRotation.Proofs.SnapshotNames
import BackupRotation.Proofs.Store
/-!
# The view of a target's tree

What the program promises about a target is about the entries right below
its root: there are only snapshot directories and the `latest` link, and the
link names the greatest snapshot directory whenever there is one. This module
reads a tree through that view (`level`), states the promise on it
(`ShapeOk`, `NewestLinked`) and works out how each edit the program makes
right below the root changes the view.

A run from an empty target only ever edits keys below the root, so every tree
it reaches is `Framed`: the root still leads to the same directory and every
name below it resolves by one lookup in the view. The invariant `Kept` adds
the promise to the frame.
-/

namespace BackupRotation.Store

open Files Text

/-- The name of the `latest` link. -/
def latestName : Bytes := encode Snapshot.latestLinkName

theorem latestName_not_snapshot : isSnapshotName latestName = false := by
  show (encode ".szb").isSuffixOf (encode "latest") = false
  rw [encode_eq_flatMap, encode_eq_flatMap]
  decide

theorem plainName_latestName : PlainName latestName := by
  show PlainName (encode "latest")
  simp only [PlainName, encode_eq_flatMap]
  decide

/-- `top ++ name :: rest`: a key strictly below `top`. -/
def Below (top key : Key) : Prop := ∃ name rest, key = top ++ name :: rest

theorem below_of_below_child {top key : Key} {name : Bytes} (below : Below (top ++ [name]) key) :
    Below top key := by
  obtain ⟨next, rest, rfl⟩ := below
  exact ⟨name, next :: rest, by simp⟩

theorem child_not_below_child (top : Key) (name other : Bytes) : ¬ Below (top ++ [name]) (top ++ [other]) := by
  rintro ⟨next, rest, same⟩
  have := congrArg List.length same
  simp at this

theorem child_below (top : Key) (name : Bytes) : Below top (top ++ [name]) := ⟨name, [], rfl⟩

/-- A key that `top ++ [name]` is a prefix of lies strictly below `top`. -/
theorem below_of_isPrefixOf {top key : Key} {name : Bytes} (prefixed : (top ++ [name]).isPrefixOf key = true) :
    Below top key := by
  obtain ⟨rest, rfl⟩ := List.isPrefixOf_iff_prefix.mp prefixed
  exact ⟨name, rest, by simp⟩

/-- The entries right below `top`, by name. -/
def level (fs : FileSystem) (top : Key) : Bytes → Option Node := fun name => fs.find? (top ++ [name])

/-- A snapshot directory in a view: a directory under a snapshot name. -/
def SnapshotIn (view : Bytes → Option Node) (name : Bytes) : Prop :=
  isSnapshotName name = true ∧ ∃ mode, view name = some (.directory mode)

/-- Only the `latest` link and snapshot directories with plain names. -/
def ShapeOk (view : Bytes → Option Node) : Prop :=
  ∀ name node, view name = some node →
    (name = latestName ∧ ∃ target, node = .link target) ∨
      (PlainName name ∧ isSnapshotName name = true ∧ ∃ mode, node = .directory mode)

/-- Whenever there is a snapshot directory, `latest` links to the greatest. -/
def NewestLinked (view : Bytes → Option Node) : Prop :=
  ∀ name, SnapshotIn view name → ∃ newest, view latestName = some (.link newest) ∧
    SnapshotIn view newest ∧ ∀ other, SnapshotIn view other → bytesLe other newest = true

theorem snapshotIn_update_ne {view : Bytes → Option Node} {name other : Bytes} (differ : other ≠ name)
    (value : Option Node) : SnapshotIn (Function.update view name value) other ↔ SnapshotIn view other := by
  simp [SnapshotIn, Function.update_of_ne differ]

/-! ### How edits right below the root change the view -/

theorem level_put_child (fs : FileSystem) (top : Key) (name : Bytes) (node : Node) :
    level (fs.put (top ++ [name]) node) top = Function.update (level fs top) name (some node) := by
  funext other
  unfold level
  rw [FileSystem.find?_put]
  by_cases same : other = name
  · subst same
    simp
  · have keyDiffers : top ++ [other] ≠ top ++ [name] := by simpa using same
    simp [keyDiffers, Function.update_of_ne same]

theorem level_eraseWithin_child (fs : FileSystem) (top : Key) (name : Bytes) :
    level (fs.eraseWithin (top ++ [name])) top = Function.update (level fs top) name none := by
  funext other
  unfold level
  rw [FileSystem.find?_eraseWithin]
  by_cases same : other = name
  · subst same
    simp
  · have notPrefix : (top ++ [name]).isPrefixOf (top ++ [other]) = false := by
      rw [Bool.eq_false_iff]
      intro prefixed
      obtain ⟨rest, split⟩ := List.isPrefixOf_iff_prefix.mp prefixed
      simp only [List.append_assoc, List.append_cancel_left_eq, List.singleton_append,
        List.cons.injEq] at split
      exact same split.1.symm
    simp [notPrefix, Function.update_of_ne same]

/-- A tree changed only strictly below one entry right below the root has the
same view. -/
theorem level_of_agree_below {fs fs' : FileSystem} {top : Key} {name : Bytes}
    (agree : ∀ key, ¬ Below (top ++ [name]) key → fs'.find? key = fs.find? key) :
    level fs' top = level fs top := by
  funext other
  exact agree _ (child_not_below_child top name other)

/-! ### Edits right below the root leave the rest of the tree alone -/

theorem find?_put_outside {fs : FileSystem} {top key : Key} (name : Bytes) (node : Node)
    (outside : ¬ Below top key) : (fs.put (top ++ [name]) node).find? key = fs.find? key := by
  rw [FileSystem.find?_put, if_neg]
  rintro rfl
  exact outside (child_below top name)

theorem find?_eraseWithin_outside {fs : FileSystem} {top key : Key} (name : Bytes)
    (outside : ¬ Below top key) : (fs.eraseWithin (top ++ [name])).find? key = fs.find? key := by
  rw [FileSystem.find?_eraseWithin, if_neg]
  intro prefixed
  exact outside (below_of_isPrefixOf prefixed)

theorem find?_chmodDirectoriesBelow_outside {fs : FileSystem} {top key : Key} (name : Bytes)
    (mode : Nat) (outside : ¬ Below top key) :
    (fs.chmodDirectoriesBelow (top ++ [name]) mode).find? key = fs.find? key := by
  rw [FileSystem.find?_chmodDirectoriesBelow]
  have notPrefix : (top ++ [name]).isPrefixOf key = false := by
    rw [Bool.eq_false_iff]
    intro prefixed
    exact outside (below_of_isPrefixOf prefixed)
  cases fs.find? key <;> simp [notPrefix]

theorem level_chmodDirectoriesBelow_child (fs : FileSystem) (top : Key) (name : Bytes) (mode : Nat) :
    level (fs.chmodDirectoriesBelow (top ++ [name]) mode) top = level fs top := by
  funext other
  unfold level
  rw [FileSystem.find?_chmodDirectoriesBelow]
  cases fs.find? (top ++ [other]) with
  | none => rfl
  | some node =>
      have notBelow : ((top ++ [name]).isPrefixOf (top ++ [other]) && top ++ [other] != top ++ [name]) = false := by
        by_cases same : other = name
        · subst same
          simp
        · have notPrefix : (top ++ [name]).isPrefixOf (top ++ [other]) = false := by
            rw [Bool.eq_false_iff]
            intro prefixed
            obtain ⟨rest, split⟩ := List.isPrefixOf_iff_prefix.mp prefixed
            simp only [List.append_assoc, List.append_cancel_left_eq, List.singleton_append,
              List.cons.injEq] at split
            exact same split.1.symm
          simp [notPrefix]
      simp [notBelow]

/-! ### The shape of the view under the edits the program makes -/

theorem not_snapshot_of_latest {name : Bytes} (snapshot : isSnapshotName name = true) : name ≠ latestName := by
  rintro rfl
  rw [latestName_not_snapshot] at snapshot
  cases snapshot

theorem shapeOk_erase {view : Bytes → Option Node} (shaped : ShapeOk view) (name : Bytes) :
    ShapeOk (Function.update view name none) := by
  intro other node found
  by_cases same : other = name
  · subst same
    simp at found
  · rw [Function.update_of_ne same] at found
    exact shaped other node found

theorem shapeOk_add {view : Bytes → Option Node} (shaped : ShapeOk view) {name : Bytes}
    (plain : PlainName name) (snapshot : isSnapshotName name = true) (mode : Nat) :
    ShapeOk (Function.update (Function.update view name (some (.directory mode))) latestName
      (some (.link name))) := by
  intro other node found
  by_cases isLatest : other = latestName
  · subst isLatest
    simp only [Function.update_self, Option.some.injEq] at found
    exact .inl ⟨rfl, name, found.symm⟩
  · rw [Function.update_of_ne isLatest] at found
    by_cases same : other = name
    · subst same
      simp only [Function.update_self, Option.some.injEq] at found
      exact .inr ⟨plain, snapshot, mode, found.symm⟩
    · rw [Function.update_of_ne same] at found
      exact shaped other node found

theorem newestLinked_erase {view : Bytes → Option Node} (linked : NewestLinked view) {newest : Bytes}
    (link : view latestName = some (.link newest)) {name : Bytes} (kept : name ≠ newest)
    (notLatest : name ≠ latestName) :
    NewestLinked (Function.update view name none) := by
  intro other present
  have otherNe : other ≠ name := by
    rintro rfl
    simp [SnapshotIn] at present
  rw [snapshotIn_update_ne otherNe] at present
  obtain ⟨newest', link', newestIn, greatest⟩ := linked other present
  have same : newest' = newest := by
    rw [link] at link'
    cases link'
    rfl
  subst same
  refine ⟨newest', ?_, (snapshotIn_update_ne (Ne.symm kept) none).mpr newestIn, ?_⟩
  · rw [Function.update_of_ne (Ne.symm notLatest)]
    exact link
  · intro third thirdIn
    have thirdNe : third ≠ name := by
      rintro rfl
      simp [SnapshotIn] at thirdIn
    exact greatest third ((snapshotIn_update_ne thirdNe none).mp thirdIn)

/-- After a new snapshot directory and a link to it, the snapshots are the new
one and the old ones. -/
theorem snapshotIn_add {view : Bytes → Option Node} {name : Bytes} {mode : Nat} {other : Bytes}
    (present : SnapshotIn (Function.update (Function.update view name (some (.directory mode)))
      latestName (some (.link name))) other) :
    other = name ∨ SnapshotIn view other := by
  have otherNe : other ≠ latestName := not_snapshot_of_latest present.1
  rw [snapshotIn_update_ne otherNe] at present
  by_cases same : other = name
  · exact .inl same
  · exact .inr ((snapshotIn_update_ne same _).mp present)

theorem newestLinked_add {view : Bytes → Option Node} {name : Bytes}
    (snapshot : isSnapshotName name = true) (after : ∀ other, SnapshotIn view other → bytesLe other name = true)
    (mode : Nat) :
    NewestLinked (Function.update (Function.update view name (some (.directory mode))) latestName
      (some (.link name))) := by
  have notLatest := not_snapshot_of_latest snapshot
  intro _ _
  refine ⟨name, by simp, ?_, ?_⟩
  · rw [snapshotIn_update_ne notLatest]
    exact ⟨snapshot, mode, by simp⟩
  · intro other present
    rcases snapshotIn_add present with rfl | old
    · exact bytesLe_refl other
    · exact after other old

/-! ### What a run keeps -/

/-- The frame of a run from the tree `start` on a target whose root is at
`top`: keys stay unique, the working directory stays, and nothing outside the
target changes. -/
structure Framed (start : FileSystem) (top : Key) (fs : FileSystem) : Prop where
  nodup : fs.KeysNodup
  cwd : fs.cwd = start.cwd
  outside : ∀ key, ¬ Below top key → fs.find? key = start.find? key

/-- The invariant of a run: its frame, and a view right below the root with
only snapshot directories and the `latest` link, which names the newest. -/
structure Kept (start : FileSystem) (top : Key) (fs : FileSystem) : Prop extends
    Framed start top fs where
  shape : ShapeOk (level fs top)
  linked : NewestLinked (level fs top)

/-- An empty valid target: a root that leads to a directory with nothing
below it, in a tree with unique keys, where the path of `latest` fits. -/
structure EmptyTarget (root : PathName) (top : Key) (fs : FileSystem) : Prop where
  nodup : fs.KeysNodup
  rooted : ∃ mode, fs.resolve root true = .ok (.found top (.directory mode))
  empty : ∀ key, Below top key → fs.find? key = none
  fitsLatest : JoinFits root latestName

section Frame

variable {root : PathName} {start fs fs' : FileSystem} {top : Key}

theorem kept_start (empty : EmptyTarget root top start) : Kept start top start where
  nodup := empty.nodup
  cwd := rfl
  outside _ _ := rfl
  shape name node found := by
    rw [level, empty.empty _ (child_below top name)] at found
    cases found
  linked name present := by
    obtain ⟨_, mode, found⟩ := present
    rw [level, empty.empty _ (child_below top name)] at found
    cases found

/-- The tree a run started from holds on in every framed tree, since the
target was empty. -/
theorem Framed.extends (empty : EmptyTarget root top start) (framed : Framed start top fs) :
    start.Extends fs := by
  intro key node found
  have notBelow : ¬ Below top key := by
    intro below
    rw [empty.empty key below] at found
    cases found
  rw [framed.outside key notBelow]
  exact found

/-- The root of the target leads to the same directory in every framed tree. -/
theorem Framed.rooted (empty : EmptyTarget root top start) (framed : Framed start top fs) :
    ∃ mode, fs.resolve root true = .ok (.found top (.directory mode)) := by
  obtain ⟨mode, rooted⟩ := empty.rooted
  exact ⟨mode, FileSystem.resolve_of_extends empty.nodup (framed.extends empty) framed.cwd rooted⟩

/-- A tree that differs from a framed one only below the target is framed. -/
theorem Framed.step (framed : Framed start top fs) (nodup : fs'.KeysNodup) (cwd : fs'.cwd = fs.cwd)
    (outside : ∀ key, ¬ Below top key → fs'.find? key = fs.find? key) : Framed start top fs' where
  nodup := nodup
  cwd := cwd.trans framed.cwd
  outside key notBelow := (outside key notBelow).trans (framed.outside key notBelow)

theorem Framed.put (framed : Framed start top fs) (name : Bytes) (node : Node) :
    Framed start top (fs.put (top ++ [name]) node) :=
  framed.step (FileSystem.keysNodup_put framed.nodup _ _) rfl
    fun _ notBelow => find?_put_outside name node notBelow

theorem Framed.eraseWithin (framed : Framed start top fs) (name : Bytes) :
    Framed start top (fs.eraseWithin (top ++ [name])) :=
  framed.step (FileSystem.keysNodup_eraseWithin framed.nodup _) rfl
    fun _ notBelow => find?_eraseWithin_outside name notBelow

theorem Framed.chmodDirectoriesBelow (framed : Framed start top fs) (name : Bytes) (mode : Nat) :
    Framed start top (fs.chmodDirectoriesBelow (top ++ [name]) mode) :=
  framed.step (FileSystem.keysNodup_chmodDirectoriesBelow framed.nodup _ _) rfl
    fun _ notBelow => find?_chmodDirectoriesBelow_outside name mode notBelow

end Frame

/-! ### Calls on a name right below the root -/

section Calls

variable {fs : FileSystem} {root : PathName} {top : Key} {rootMode : Nat} {name : Bytes}

/-- Without following a last link, a name right below the root that fits
resolves to its place there. -/
theorem resolve_child (rooted : fs.resolve root true = .ok (.found top (.directory rootMode)))
    (plain : PlainName name) (fits : JoinFits root name) :
    fs.resolve (root.join ⟨name⟩) false = .ok (fs.placeIn top name) := by
  rw [FileSystem.resolve_join_eq rooted plain false (fun follows => by cases follows), if_pos fits]

/-- Following links, the same holds where the name holds no link. -/
theorem resolve_child_follow (rooted : fs.resolve root true = .ok (.found top (.directory rootMode)))
    (plain : PlainName name) (fits : JoinFits root name)
    (unlinked : ∀ target, level fs top name ≠ some (.link target)) :
    fs.resolve (root.join ⟨name⟩) true = .ok (fs.placeIn top name) := by
  rw [FileSystem.resolve_join_eq rooted plain true (fun _ => unlinked), if_pos fits]

theorem placeIn_present {node : Node} (present : level fs top name = some node) :
    fs.placeIn top name = .found (top ++ [name]) node := by
  unfold FileSystem.placeIn
  unfold level at present
  rw [present]

theorem placeIn_absent (absent : level fs top name = none) : fs.placeIn top name = .free top name := by
  unfold FileSystem.placeIn
  unfold level at absent
  rw [absent]

theorem unlinked_of_directory {mode : Nat} (present : level fs top name = some (.directory mode)) :
    ∀ target, level fs top name ≠ some (.link target) :=
  fun _ linked => by cases present.symm.trans linked

/-- A name right below the root that holds a directory resolves to it. -/
theorem resolve_child_directory {mode : Nat}
    (rooted : fs.resolve root true = .ok (.found top (.directory rootMode))) (plain : PlainName name)
    (fits : JoinFits root name) (present : level fs top name = some (.directory mode)) :
    fs.resolve (root.join ⟨name⟩) true = .ok (.found (top ++ [name]) (.directory mode)) := by
  rw [resolve_child_follow rooted plain fits (unlinked_of_directory present), placeIn_present present]

theorem linkMetadata_child (rooted : fs.resolve root true = .ok (.found top (.directory rootMode)))
    (plain : PlainName name) (fits : JoinFits root name) :
    fs.linkMetadata (root.join ⟨name⟩) =
      match level fs top name with
      | some node => .ok node
      | none => .error .notFound := by
  unfold FileSystem.linkMetadata
  rw [resolve_child rooted plain fits]
  unfold FileSystem.placeIn level
  cases fs.find? (top ++ [name]) <;> rfl

theorem linkMetadata_child_unfit (rooted : fs.resolve root true = .ok (.found top (.directory rootMode)))
    (plain : PlainName name) (unfit : ¬ JoinFits root name) :
    fs.linkMetadata (root.join ⟨name⟩) = .error .nameTooLong := by
  unfold FileSystem.linkMetadata
  rw [FileSystem.resolve_join_eq rooted plain false (fun follows => by cases follows), if_neg unfit]
  rfl

theorem metadata_child (rooted : fs.resolve root true = .ok (.found top (.directory rootMode)))
    (plain : PlainName name) (fits : JoinFits root name) (unlinked : ∀ target, level fs top name ≠ some (.link target)) :
    fs.metadata (root.join ⟨name⟩) =
      match level fs top name with
      | some node => .ok node
      | none => .error .notFound := by
  unfold FileSystem.metadata
  rw [resolve_child_follow rooted plain fits unlinked]
  unfold FileSystem.placeIn level
  cases fs.find? (top ++ [name]) <;> rfl

theorem metadata_child_unfit (rooted : fs.resolve root true = .ok (.found top (.directory rootMode)))
    (plain : PlainName name) (unlinked : ∀ target, level fs top name ≠ some (.link target))
    (unfit : ¬ JoinFits root name) :
    fs.metadata (root.join ⟨name⟩) = .error .nameTooLong := by
  unfold FileSystem.metadata
  rw [FileSystem.resolve_join_eq rooted plain true (fun _ => unlinked), if_neg unfit]
  rfl

theorem readLink_child (rooted : fs.resolve root true = .ok (.found top (.directory rootMode)))
    (plain : PlainName name) (fits : JoinFits root name) {target : Bytes}
    (linked : level fs top name = some (.link target)) :
    fs.readLink (root.join ⟨name⟩) = .ok target := by
  unfold FileSystem.readLink
  rw [linkMetadata_child rooted plain fits, linked]
  rfl

theorem createDirAll_child (rooted : fs.resolve root true = .ok (.found top (.directory rootMode)))
    (plain : PlainName name) (fits : JoinFits root name) (absent : level fs top name = none) (mode : Nat) :
    fs.createDirAll (root.join ⟨name⟩) mode =
      .ok (fs.put (top ++ [name]) (.directory (maskedDirectory mode))) := by
  have made : fs.mkdir (root.join ⟨name⟩) mode =
      .ok (fs.put (top ++ [name]) (.directory (maskedDirectory mode))) := by
    unfold FileSystem.mkdir
    rw [resolve_child rooted plain fits, placeIn_absent absent]
    rfl
  have nonempty : (root.join ⟨name⟩).bytes.isEmpty = false := by
    simpa using PathName.join_ne_nil root plain
  unfold FileSystem.createDirAll
  rw [FileSystem.createDirAllWithin, nonempty, made]
  rfl

theorem chmod_child (rooted : fs.resolve root true = .ok (.found top (.directory rootMode)))
    (plain : PlainName name) (fits : JoinFits root name) {mode : Nat}
    (present : level fs top name = some (.directory mode)) (mode' : Nat) :
    fs.chmod (root.join ⟨name⟩) mode' = .ok (fs.put (top ++ [name]) (.directory (mode' % 0o10000))) := by
  unfold FileSystem.chmod
  rw [resolve_child_directory rooted plain fits present]
  rfl

theorem unlink_child (rooted : fs.resolve root true = .ok (.found top (.directory rootMode)))
    (plain : PlainName name) (fits : JoinFits root name) {target : Bytes}
    (linked : level fs top name = some (.link target)) :
    fs.unlink (root.join ⟨name⟩) = .ok (fs.eraseWithin (top ++ [name])) := by
  unfold FileSystem.unlink
  rw [resolve_child rooted plain fits, placeIn_present linked]
  rfl

theorem unlink_child_absent (rooted : fs.resolve root true = .ok (.found top (.directory rootMode)))
    (plain : PlainName name) (fits : JoinFits root name) (absent : level fs top name = none) :
    fs.unlink (root.join ⟨name⟩) = .error .notFound := by
  unfold FileSystem.unlink
  rw [resolve_child rooted plain fits, placeIn_absent absent]
  rfl

theorem symlink_child (rooted : fs.resolve root true = .ok (.found top (.directory rootMode)))
    (plain : PlainName name) (fits : JoinFits root name) (absent : level fs top name = none)
    (target : Bytes) :
    fs.symlink target (root.join ⟨name⟩) = .ok (fs.put (top ++ [name]) (.link target)) := by
  unfold FileSystem.symlink
  rw [resolve_child rooted plain fits, placeIn_absent absent]
  rfl

theorem removeDirAll_child (rooted : fs.resolve root true = .ok (.found top (.directory rootMode)))
    (plain : PlainName name) (fits : JoinFits root name) {mode : Nat}
    (present : level fs top name = some (.directory mode)) :
    fs.removeDirAll (root.join ⟨name⟩) = .ok (fs.eraseWithin (top ++ [name])) := by
  unfold FileSystem.removeDirAll
  rw [resolve_child rooted plain fits, placeIn_present present]
  rfl

theorem locate_child (rooted : fs.resolve root true = .ok (.found top (.directory rootMode)))
    (plain : PlainName name) (fits : JoinFits root name) {mode : Nat}
    (present : level fs top name = some (.directory mode)) :
    fs.locate (root.join ⟨name⟩) true = .ok (top ++ [name]) := by
  unfold FileSystem.locate
  rw [resolve_child_directory rooted plain fits present]
  rfl

end Calls

/-! ### The listing of a target -/

/-- The names of the snapshot directories right below `top`, in listing order. -/
def snapshotNames (fs : FileSystem) (top : Key) : List Bytes :=
  ((fs.children top).filter fun entry => isSnapshotName entry.1 && entry.2.isDirectory).map (·.1)

theorem mem_snapshotNames {fs : FileSystem} (nodup : fs.KeysNodup) (top : Key) (name : Bytes) :
    name ∈ snapshotNames fs top ↔ SnapshotIn (level fs top) name := by
  unfold snapshotNames SnapshotIn level
  simp only [List.mem_map, List.mem_filter, Bool.and_eq_true]
  constructor
  · rintro ⟨⟨child, node⟩, ⟨inside, snapshot, directory⟩, rfl⟩
    rw [FileSystem.mem_children nodup] at inside
    cases node with
    | directory mode => exact ⟨snapshot, mode, inside⟩
    | file _ _ => cases directory
    | link _ => cases directory
  · rintro ⟨snapshot, mode, found⟩
    exact ⟨(name, .directory mode), ⟨(FileSystem.mem_children nodup).mpr found, snapshot, rfl⟩, rfl⟩

/-- `latest` is never listed as a snapshot. -/
theorem latestName_not_mem_snapshotNames {fs : FileSystem} (nodup : fs.KeysNodup) (top : Key) :
    latestName ∉ snapshotNames fs top := fun listed =>
  not_snapshot_of_latest ((mem_snapshotNames nodup top latestName).mp listed).1 rfl

/-- The listing is in strictly increasing name order. -/
theorem snapshotNames_sorted {fs : FileSystem} (nodup : fs.KeysNodup) (top : Key) :
    (snapshotNames fs top).Pairwise fun first second => bytesLe first second = true ∧ first ≠ second := by
  have ordered : (snapshotNames fs top).Pairwise fun first second => bytesLe first second = true := by
    unfold snapshotNames
    rw [List.pairwise_map]
    exact (FileSystem.children_sorted fs top).filter _
  have distinct : (snapshotNames fs top).Nodup := by
    unfold snapshotNames
    exact (FileSystem.children_names_nodup nodup top).sublist (List.filter_sublist.map _)
  exact ordered.and distinct

/-- The last name listed is the one `latest` links to. -/
theorem snapshotNames_getLast {fs : FileSystem} {top : Key} (nodup : fs.KeysNodup)
    (linked : NewestLinked (level fs top)) {last : Bytes} (listedLast : (snapshotNames fs top).getLast? = some last) :
    level fs top latestName = some (.link last) := by
  have lastIn : SnapshotIn (level fs top) last :=
    (mem_snapshotNames nodup top last).mp (List.mem_of_getLast? listedLast)
  obtain ⟨newest, link, newestIn, greatest⟩ := linked last lastIn
  obtain ⟨front, split⟩ := List.getLast?_eq_some_iff.mp listedLast
  have newestListed := (mem_snapshotNames nodup top newest).mpr newestIn
  have sorted := snapshotNames_sorted nodup top
  rw [split] at newestListed sorted
  rcases List.mem_append.mp newestListed with early | final
  · -- a listed name before the last is below it, yet nothing is above the newest
    have below := (List.pairwise_append.mp sorted).2.2 newest early last (List.mem_singleton.mpr rfl)
    exact absurd (bytesLe_antisymm below.1 (greatest last lastIn)) below.2
  · rw [List.mem_singleton] at final
    rw [← final]
    exact link

/-- The listing of a target whose root leads to `top`. -/
theorem snapshotsOf_children (target : Target) (fs : FileSystem) (top : Key) :
    target.snapshotsOf (fs.children top) = (snapshotNames fs top).map fun name => target.root.join ⟨name⟩ := by
  unfold Target.snapshotsOf snapshotNames
  induction fs.children top with
  | nil => rfl
  | cons entry rest ih =>
      obtain ⟨name, node⟩ := entry
      by_cases kept : (isSnapshotName name && node.isDirectory) = true
      · simp only [List.filterMap_cons, List.filter_cons, kept, ↓reduceIte, List.map_cons, ih]
      · simp only [List.filterMap_cons, List.filter_cons, kept, ↓reduceIte, Bool.false_eq_true, ih]

end BackupRotation.Store
