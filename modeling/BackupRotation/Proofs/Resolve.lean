import BackupRotation.Files.Calls
/-!
# Resolving names below a directory

Every path the program builds inside a target is the target's root with one
name appended: a snapshot directory, or the `latest` link. This module
reduces the resolution of such a path to one lookup in the directory the
root leads to: when the root leads to a directory, the joined path leads to
the entry of that name there, or to a free name there, unless it is too
long.

The root itself resolves the same way as long as the tree only grows where
the walk never looked: a walk that finds something reads only keys that hold
nodes, so it finds the same in any tree that keeps those nodes, given enough
fuel, and the fuel of a resolution grows with the longest link of the tree.
-/

namespace BackupRotation.Files

open Text

theorem splitSlashes_ne_nil (bytes : Bytes) : splitSlashes bytes ≠ [] := by
  cases bytes with
  | nil => simp [splitSlashes]
  | cons byte rest =>
      unfold splitSlashes
      split
      · simp
      · split <;> simp

/-- Splitting at a slash splits the two sides apart. -/
theorem splitSlashes_append_slash (front back : Bytes) :
    splitSlashes (front ++ slash :: back) = splitSlashes front ++ splitSlashes back := by
  induction front with
  | nil => simp [splitSlashes]
  | cons byte rest ih =>
      simp only [List.cons_append, splitSlashes]
      split
      · simp [ih]
      · rw [ih]
        obtain ⟨first, others, split⟩ : ∃ first others, splitSlashes rest = first :: others :=
          List.exists_cons_of_ne_nil (splitSlashes_ne_nil rest)
        simp [split]

/-- A name without a slash is one part. -/
theorem splitSlashes_of_no_slash {name : Bytes} (noSlash : slash ∉ name) :
    splitSlashes name = [name] := by
  induction name with
  | nil => rfl
  | cons byte rest ih =>
      have byteNe : byte ≠ slash := fun same => noSlash (same ▸ List.mem_cons_self)
      have restFree : slash ∉ rest := fun inside => noSlash (List.mem_cons_of_mem byte inside)
      simp [splitSlashes, byteNe, ih restFree]

/-- A name that resolution reads as one step down: no slash, and neither
empty, `.` nor `..`. -/
def PlainName (name : Bytes) : Prop :=
  slash ∉ name ∧ name ≠ [] ∧ name ≠ [dot] ∧ name ≠ [dot, dot]

theorem steps_append_slash (front back : Bytes) :
    steps (front ++ slash :: back) = steps front ++ steps back := by
  simp [steps, splitSlashes_append_slash]

theorem steps_plain {name : Bytes} (plain : PlainName name) : steps name = [.down name] := by
  obtain ⟨noSlash, nonempty, notDot, notDotDot⟩ := plain
  simp [steps, splitSlashes_of_no_slash noSlash, nonempty, notDot, notDotDot]

theorem PlainName.head_ne_slash {name : Bytes} (plain : PlainName name) :
    name.head? ≠ some slash := by
  obtain ⟨noSlash, nonempty, _⟩ := plain
  cases name with
  | nil => exact absurd rfl nonempty
  | cons byte rest =>
      simp only [List.head?_cons, ne_eq, Option.some.injEq]
      exact fun same => noSlash (same ▸ List.mem_cons_self)

theorem PlainName.getLast_ne_slash {name : Bytes} (plain : PlainName name) :
    name.getLast? ≠ some slash := by
  obtain ⟨noSlash, _⟩ := plain
  intro last
  exact noSlash (List.mem_of_getLast? last)

theorem PlainName.relative {name : Bytes} (plain : PlainName name) : (⟨name⟩ : PathName).isAbsolute = false := by
  simp [PathName.isAbsolute, plain.head_ne_slash]

/-- Joining a plain name adds one step down to the steps of the base. -/
theorem steps_join (root : PathName) {name : Bytes} (plain : PlainName name) :
    steps (root.join ⟨name⟩).bytes = steps root.bytes ++ [.down name] := by
  have relative := plain.relative
  obtain ⟨bytes⟩ := root
  unfold PathName.join
  rw [relative]
  have noSteps : steps [] = [] := by simp [steps, splitSlashes]
  rcases List.eq_nil_or_concat bytes with rfl | ⟨front, last, rfl⟩
  · simp [noSteps, steps_plain plain]
  · rw [List.concat_eq_append]
    have nonempty : (front ++ [last]).isEmpty = false := by simp
    by_cases endsSlash : last = slash
    · subst endsSlash
      have ends : ((front ++ [slash]).getLast? == some slash) = true := by simp
      simp only [nonempty, ends, Bool.or_true, ↓reduceIte, Bool.false_eq_true]
      show steps (front ++ [slash] ++ name) = steps (front ++ [slash]) ++ [.down name]
      rw [List.append_assoc, List.singleton_append, steps_append_slash, steps_append_slash, noSteps,
        steps_plain plain, List.append_nil]
    · have ends : ((front ++ [last]).getLast? == some slash) = false := by simp [endsSlash]
      simp only [nonempty, ends, Bool.or_false, ↓reduceIte, Bool.false_eq_true]
      show steps (front ++ [last] ++ [slash] ++ name) = steps (front ++ [last]) ++ [.down name]
      rw [show front ++ [last] ++ [slash] ++ name = (front ++ [last]) ++ slash :: name by simp,
        steps_append_slash, steps_plain plain]

theorem PathName.join_isAbsolute {root : PathName} (nonempty : root.bytes ≠ []) {name : Bytes}
    (plain : PlainName name) : (root.join ⟨name⟩).isAbsolute = root.isAbsolute := by
  have relative := plain.relative
  obtain ⟨bytes⟩ := root
  obtain ⟨first, rest, rfl⟩ := List.exists_cons_of_ne_nil nonempty
  unfold PathName.join
  simp only [relative, Bool.false_eq_true, ↓reduceIte]
  split <;> simp [PathName.isAbsolute]

theorem PathName.join_getLast {root : PathName} {name : Bytes} (plain : PlainName name) :
    (root.join ⟨name⟩).bytes.getLast? = name.getLast? := by
  have relative := plain.relative
  obtain ⟨_, nonempty, _⟩ := plain
  obtain ⟨front, last, rfl⟩ := (List.eq_nil_or_concat name).resolve_left nonempty
  unfold PathName.join
  simp only [relative, Bool.false_eq_true, ↓reduceIte]
  split <;> simp [List.getLast?_cons]

theorem PathName.join_ne_nil (root : PathName) {name : Bytes} (plain : PlainName name) :
    (root.join ⟨name⟩).bytes ≠ [] := by
  intro empty
  have last : (root.join ⟨name⟩).bytes.getLast? = name.getLast? := PathName.join_getLast plain
  rw [empty, List.getLast?_nil] at last
  exact plain.2.1 (List.getLast?_eq_none_iff.mp last.symm)

/-- The parts of a joined name end with the name joined. -/
theorem splitSlashes_join (root : PathName) {name : Bytes} (plain : PlainName name) :
    ∃ parts, splitSlashes (root.join ⟨name⟩).bytes = parts ++ [name] := by
  have relative := plain.relative
  obtain ⟨bytes⟩ := root
  unfold PathName.join
  simp only [relative, Bool.false_eq_true, ↓reduceIte]
  split
  · rename_i endsOpen
    rcases List.eq_nil_or_concat bytes with rfl | ⟨front, last, rfl⟩
    · exact ⟨[], by simp [splitSlashes_of_no_slash plain.1]⟩
    · have ends : last = slash := by simpa using endsOpen
      subst ends
      refine ⟨splitSlashes front, ?_⟩
      show splitSlashes (front.concat slash ++ name) = _
      rw [List.concat_eq_append, List.append_assoc, List.singleton_append, splitSlashes_append_slash,
        splitSlashes_of_no_slash plain.1]
  · refine ⟨splitSlashes bytes, ?_⟩
    show splitSlashes (bytes ++ [slash] ++ name) = _
    rw [List.append_assoc, List.singleton_append, splitSlashes_append_slash,
      splitSlashes_of_no_slash plain.1]

/-- The last component of a plain name joined to a path is that name. -/
theorem PathName.fileName_join (root : PathName) {name : Bytes} (plain : PlainName name) :
    (root.join ⟨name⟩).fileName = some name := by
  obtain ⟨parts, split⟩ := splitSlashes_join root plain
  obtain ⟨_, nonempty, notDot, notDotDot⟩ := plain
  unfold PathName.fileName PathName.components
  rw [split]
  simp [nonempty, notDot, notDotDot, List.getLast?_append]

/-- Walking a route that ends on a directory and then one more name: the
route is walked as before, with no step of it the last, and the name is
looked up in the directory reached. -/
theorem walk_append_down {fs : FileSystem} {lookup other : Lookup} (follows : lookup.follow = true)
    (name : Bytes) :
    ∀ {fuel links : Nat} {cur : Key} {route : List Step} {key : Key} {mode : Nat},
      walk fs lookup fuel links cur route = .ok (.found key (.directory mode)) →
        ∃ fuel' links', walk fs other (fuel + 1) links cur (route ++ [.down name]) =
          walk fs other (fuel' + 1) links' key [.down name] := by
  intro fuel
  induction fuel with
  | zero =>
      intro links cur route key mode walked
      simp [walk] at walked
  | succ fuel ih =>
      intro links cur route key mode walked
      match route with
      | [] =>
          simp only [walk] at walked
          split at walked
          · cases walked
            exact ⟨fuel + 1, links, rfl⟩
          · cases walked
      | .stay :: rest =>
          simp only [walk] at walked
          exact ih walked
      | .up :: rest =>
          simp only [walk] at walked
          exact ih walked
      | .down next :: rest =>
          have notLast : (rest ++ [Step.down name]).isEmpty = false := by simp
          simp only [walk] at walked
          simp only [List.cons_append, walk, notLast, Bool.false_and, Bool.false_eq_true, ↓reduceIte]
          split at walked
          · cases walked
          · rename_i long
            rw [if_neg long]
            split at walked
            · split at walked <;> cases walked
            · simp only [follows, Bool.not_true, Bool.and_false, Bool.false_and,
                Bool.false_eq_true, ↓reduceIte] at walked
              split at walked
              · cases walked
              · rename_i linksLeft
                rw [if_neg linksLeft]
                split at walked
                · cases walked
                · rename_i target
                  rw [if_neg target, ← List.append_assoc]
                  exact ih walked
            · split at walked
              · rename_i last
                cases walked
                have restNil : rest = [] := List.isEmpty_iff.mp last
                subst restNil
                exact ⟨fuel, links, rfl⟩
              · exact ih walked
            · split at walked <;> cases walked

/-- A file system extends another when it holds every node of it at the same
key. -/
def FileSystem.Extends (fs fs' : FileSystem) : Prop :=
  ∀ key node, fs.find? key = some node → fs'.find? key = some node

/-- A walk that finds something reads only keys that hold nodes, and it
stopped before its fuel ran out, so it finds the same in every extension with
any more fuel. -/
theorem walk_of_extends {fs fs' : FileSystem} {lookup : Lookup} (grown : fs.Extends fs') (extra : Nat) :
    ∀ {fuel links : Nat} {cur : Key} {route : List Step} {key : Key} {node : Node},
      walk fs lookup fuel links cur route = .ok (.found key node) →
        walk fs' lookup (fuel + extra) links cur route = .ok (.found key node) := by
  intro fuel
  induction fuel with
  | zero =>
      intro links cur route key node walked
      simp [walk] at walked
  | succ fuel ih =>
      intro links cur route key node walked
      rw [Nat.add_right_comm]
      match route with
      | [] =>
          simp only [walk] at walked ⊢
          split at walked
          · rename_i found
            simp only [grown _ _ found]
            exact walked
          · cases walked
      | .stay :: rest =>
          simp only [walk] at walked ⊢
          exact ih walked
      | .up :: rest =>
          simp only [walk] at walked ⊢
          exact ih walked
      | .down name :: rest =>
          simp only [walk] at walked ⊢
          split at walked
          · cases walked
          · rename_i long
            rw [if_neg long]
            split at walked
            · split at walked <;> cases walked
            · rename_i found
              simp only [grown _ _ found]
              split at walked
              · rename_i kept
                rw [if_pos kept]
                exact walked
              · rename_i followed
                simp only [if_neg followed]
                split at walked
                · cases walked
                · rename_i linksLeft
                  rw [if_neg linksLeft]
                  split at walked
                  · cases walked
                  · rename_i target
                    rw [if_neg target]
                    exact ih walked
            · rename_i found
              simp only [grown _ _ found]
              split at walked
              · rename_i last
                rw [if_pos last]
                exact walked
              · rename_i last
                rw [if_neg last]
                exact ih walked
            · rename_i found
              simp only [grown _ _ found]
              exact walked

namespace FileSystem

/-- No two entries of the tree share a key. -/
def KeysNodup (fs : FileSystem) : Prop := (fs.entries.map (·.1)).Nodup

theorem mem_of_find? {fs : FileSystem} {key : Key} {node : Node} (found : fs.find? key = some node) :
    (key, node) ∈ fs.entries := by
  unfold find? at found
  obtain ⟨entry, hit, rfl⟩ := Option.map_eq_some_iff.mp found
  have keyEq : entry.1 = key := by simpa using List.find?_some hit
  rw [← keyEq]
  exact List.mem_of_find?_eq_some hit

theorem find?_of_mem {fs : FileSystem} (nodup : fs.KeysNodup) {key : Key} {node : Node}
    (mem : (key, node) ∈ fs.entries) : fs.find? key = some node := by
  obtain ⟨entries, cwd⟩ := fs
  unfold KeysNodup at nodup
  unfold find?
  simp only at nodup mem ⊢
  induction entries with
  | nil => cases mem
  | cons entry rest ih =>
      simp only [List.map_cons, List.nodup_cons, List.mem_map] at nodup
      rcases List.mem_cons.mp mem with rfl | later
      · simp
      · have other : entry.1 ≠ key := fun same => nodup.1 ⟨(key, node), later, same.symm⟩
        simp [other, ih nodup.2 later]

end FileSystem

/-- Folding entries into the longest link length never lowers it. -/
theorem longestLink_foldl_ge (entries : List (Key × Node)) (acc : Nat) :
    acc ≤ entries.foldl (fun acc entry =>
      match entry.2 with
      | .link target => max acc target.length
      | _ => acc) acc := by
  induction entries generalizing acc with
  | nil => exact Nat.le_refl acc
  | cons entry rest ih =>
      simp only [List.foldl_cons]
      refine Nat.le_trans ?_ (ih _)
      split
      · exact Nat.le_max_left _ _
      · exact Nat.le_refl acc

theorem le_longestLink_foldl {entries : List (Key × Node)} {key : Key} {target : Bytes}
    (mem : (key, .link target) ∈ entries) (acc : Nat) :
    target.length ≤ entries.foldl (fun acc entry =>
      match entry.2 with
      | .link target => max acc target.length
      | _ => acc) acc := by
  induction entries generalizing acc with
  | nil => cases mem
  | cons entry rest ih =>
      simp only [List.foldl_cons]
      rcases List.mem_cons.mp mem with rfl | later
      · exact Nat.le_trans (Nat.le_max_right _ _) (longestLink_foldl_ge rest _)
      · exact ih later _

theorem FileSystem.le_longestLink {fs : FileSystem} {key : Key} {target : Bytes}
    (mem : (key, .link target) ∈ fs.entries) : target.length ≤ fs.longestLink :=
  le_longestLink_foldl mem 0

theorem FileSystem.longestLink_le {fs : FileSystem} {bound : Nat}
    (bounded : ∀ key target, (key, .link target) ∈ fs.entries → target.length ≤ bound) :
    fs.longestLink ≤ bound := by
  unfold FileSystem.longestLink
  suffices ∀ (entries : List (Key × Node)) (acc : Nat), acc ≤ bound →
      (∀ key target, (key, .link target) ∈ entries → target.length ≤ bound) →
      entries.foldl (fun acc entry =>
        match entry.2 with
        | .link target => max acc target.length
        | _ => acc) acc ≤ bound from this _ 0 (Nat.zero_le _) bounded
  intro entries
  induction entries with
  | nil => intro acc low _; exact low
  | cons entry rest ih =>
      intro acc low inside
      simp only [List.foldl_cons]
      apply ih _ _ (fun key target mem => inside key target (List.mem_cons_of_mem _ mem))
      obtain ⟨key, node⟩ := entry
      cases node with
      | link target =>
          exact Nat.max_le.mpr ⟨low, inside key target List.mem_cons_self⟩
      | directory mode => exact low
      | file mode content => exact low

theorem FileSystem.longestLink_mono {fs fs' : FileSystem} (nodup : fs.KeysNodup) (grown : fs.Extends fs') :
    fs.longestLink ≤ fs'.longestLink := by
  apply FileSystem.longestLink_le
  intro key target mem
  exact FileSystem.le_longestLink (FileSystem.mem_of_find? (grown _ _ (FileSystem.find?_of_mem nodup mem)))

/-- A path that leads to an entry leads to it in every extension of the tree
with the same working directory. -/
theorem FileSystem.resolve_of_extends {fs fs' : FileSystem} (nodup : fs.KeysNodup) (grown : fs.Extends fs')
    (sameCwd : fs'.cwd = fs.cwd) {path : PathName} {follow : Bool} {key : Key} {node : Node}
    (resolved : fs.resolve path follow = .ok (.found key node)) :
    fs'.resolve path follow = .ok (.found key node) := by
  unfold FileSystem.resolve at resolved ⊢
  split at resolved
  · cases resolved
  · rename_i nonempty
    rw [if_neg nonempty]
    split at resolved
    · cases resolved
    · rename_i short
      rw [if_neg short, sameCwd]
      dsimp only at resolved ⊢
      have longer := FileSystem.longestLink_mono nodup grown
      have more : (steps path.bytes).length + (linkMax + 1) * (fs.longestLink + 2) + 2 ≤
          (steps path.bytes).length + (linkMax + 1) * (fs'.longestLink + 2) + 2 := by
        unfold linkMax
        omega
      obtain ⟨extra, same⟩ := Nat.exists_eq_add_of_le more
      rw [same]
      exact walk_of_extends grown extra resolved

/-- A plain name joined to a path that leads to a directory is looked up in
that directory, unless the joined path is too long. -/
theorem FileSystem.resolve_join {fs : FileSystem} {root : PathName} {dir : Key} {mode : Nat}
    {name : Bytes} (rooted : fs.resolve root true = .ok (.found dir (.directory mode)))
    (plain : PlainName name) (follow : Bool) :
    ∃ fuel links, fs.resolve (root.join ⟨name⟩) follow =
      if (root.join ⟨name⟩).bytes.length ≥ pathMax then .error .nameTooLong
      else walk fs ⟨follow, false⟩ (fuel + 1) links dir [.down name] := by
  unfold FileSystem.resolve at rooted
  split at rooted
  · cases rooted
  · rename_i rootEmpty
    split at rooted
    · cases rooted
    · dsimp only at rooted
      have appended : ∃ fuel links, walk fs ⟨follow, false⟩
          ((steps root.bytes).length + (linkMax + 1) * (fs.longestLink + 2) + 2 + 1) linkMax
          (if root.isAbsolute = true then [] else fs.cwd) (steps root.bytes ++ [.down name]) =
          walk fs ⟨follow, false⟩ (fuel + 1) links dir [.down name] :=
        walk_append_down rfl name rooted
      obtain ⟨fuel, links, walked⟩ := appended
      refine ⟨fuel, links, ?_⟩
      have rootNonempty : root.bytes ≠ [] := fun empty => rootEmpty (by simp [empty])
      have joinedNonempty : (root.join ⟨name⟩).bytes.isEmpty = false := by
        simpa using PathName.join_ne_nil root plain
      have notDirectory : ((root.join ⟨name⟩).bytes.getLast? == some slash) = false := by
        rw [PathName.join_getLast plain]
        simpa using plain.getLast_ne_slash
      unfold FileSystem.resolve
      rw [joinedNonempty]
      simp only [Bool.false_eq_true, ↓reduceIte]
      split
      · rfl
      · rw [notDirectory, PathName.join_isAbsolute rootNonempty plain, steps_join root plain,
          List.length_append, List.length_singleton, ← walked]
        congr 1
        omega

/-- Where a name leads inside directory `dir` when a final link is not
followed: to its entry, or to a free name. -/
def FileSystem.placeIn (fs : FileSystem) (dir : Key) (name : Bytes) : Place :=
  match fs.find? (dir ++ [name]) with
  | none => .free dir name
  | some node => .found (dir ++ [name]) node

/-- Whether a name joined to `root` fits the limits of resolution. -/
def JoinFits (root : PathName) (name : Bytes) : Prop :=
  (root.join ⟨name⟩).bytes.length < pathMax ∧ name.length ≤ nameMax

instance (root : PathName) (name : Bytes) : Decidable (JoinFits root name) :=
  inferInstanceAs (Decidable (_ ∧ _))

/-- One step down from a directory, when a final link is not followed. -/
theorem walk_down_placeIn {fs : FileSystem} {lookup : Lookup} (fuel links : Nat) (dir : Key)
    (name : Bytes) (anyNode : lookup.directoryOnly = false)
    (unfollowed : lookup.follow = true → ∀ target, fs.find? (dir ++ [name]) ≠ some (.link target)) :
    walk fs lookup (fuel + 1) links dir [.down name] =
      if name.length > nameMax then .error .nameTooLong else .ok (fs.placeIn dir name) := by
  simp only [walk, List.isEmpty_nil, FileSystem.placeIn]
  split
  · rfl
  · cases found : fs.find? (dir ++ [name]) with
    | none => rfl
    | some node =>
        cases node with
        | directory mode => rfl
        | file mode content => simp [anyNode]
        | link target =>
            cases follows : lookup.follow with
            | false => simp [anyNode]
            | true => exact absurd found (unfollowed follows target)

/-- A plain name joined to a path that leads to a directory leads to its
entry there, or to a free name there, as long as the joined path fits. -/
theorem FileSystem.resolve_join_eq {fs : FileSystem} {root : PathName} {dir : Key} {mode : Nat}
    {name : Bytes} (rooted : fs.resolve root true = .ok (.found dir (.directory mode)))
    (plain : PlainName name) (follow : Bool)
    (unfollowed : follow = true → ∀ target, fs.find? (dir ++ [name]) ≠ some (.link target)) :
    fs.resolve (root.join ⟨name⟩) follow =
      if JoinFits root name then .ok (fs.placeIn dir name) else .error .nameTooLong := by
  obtain ⟨fuel, links, joined⟩ := FileSystem.resolve_join rooted plain follow
  rw [joined, walk_down_placeIn fuel links dir name rfl unfollowed]
  by_cases long : (root.join ⟨name⟩).bytes.length ≥ pathMax
  · rw [if_pos long, if_neg (fun fits : JoinFits root name => Nat.not_lt.mpr long fits.1)]
  · by_cases longName : name.length > nameMax
    · rw [if_neg long, if_pos longName,
        if_neg (fun fits : JoinFits root name => Nat.not_le.mpr longName fits.2)]
    · have fits : JoinFits root name := ⟨Nat.lt_of_not_le long, Nat.le_of_not_lt longName⟩
      rw [if_neg long, if_neg longName, if_pos fits]

end BackupRotation.Files
