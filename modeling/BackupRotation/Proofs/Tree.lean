import Mathlib.Data.List.Sort
import BackupRotation.Proofs.Resolve
/-!
# Editing the file tree

The calls that change the tree do so by one of three edits: put a node at a
key, erase a key with everything below it, or give every directory below a
key a new mode. Each is described here by what a lookup sees afterwards, and
each keeps keys unique.

Listing a directory sorts its entries by name. The sort is insertion sort
under the byte order of names, which is a total order, so a listing holds
exactly the entries one name below the directory, in strictly increasing
name order when keys are unique.
-/

namespace BackupRotation.Files

open Text

/-- Filtering by a condition every hit satisfies does not change the first hit. -/
theorem find?_filter_of_imp {α : Type} {p q : α → Bool} (l : List α)
    (imp : ∀ x, p x = true → q x = true) : (l.filter q).find? p = l.find? p := by
  induction l with
  | nil => rfl
  | cons x xs ih =>
      by_cases hit : p x = true
      · simp [imp x hit, hit]
      · by_cases kept : q x = true
        · simp [kept, hit, ih]
        · simp [kept, hit, ih]

namespace FileSystem

@[simp] theorem put_cwd (fs : FileSystem) (key : Key) (node : Node) : (fs.put key node).cwd = fs.cwd := rfl
@[simp] theorem eraseWithin_cwd (fs : FileSystem) (top : Key) : (fs.eraseWithin top).cwd = fs.cwd := rfl
@[simp] theorem chmodDirectoriesBelow_cwd (fs : FileSystem) (top : Key) (mode : Nat) :
    (fs.chmodDirectoriesBelow top mode).cwd = fs.cwd := rfl

theorem find?_put (fs : FileSystem) (key : Key) (node : Node) (other : Key) :
    (fs.put key node).find? other = if other = key then some node else fs.find? other := by
  unfold find? put
  by_cases same : other = key
  · subst same
    simp
  · have skip : ∀ entry : Key × Node, (entry.1 == other) = true → (entry.1 != key) = true := by
      intro entry hit
      simp only [beq_iff_eq] at hit
      simp [hit, same]
    have differ : (key == other) = false := by simpa using Ne.symm same
    simp only [List.find?_cons, differ, find?_filter_of_imp _ skip, same, ↓reduceIte]

theorem find?_eraseWithin (fs : FileSystem) (top key : Key) :
    (fs.eraseWithin top).find? key = if top.isPrefixOf key = true then none else fs.find? key := by
  unfold find? eraseWithin
  split
  · rename_i within
    have gone : (fs.entries.filter fun entry => !top.isPrefixOf entry.1).find? (·.1 == key) = none := by
      rw [List.find?_eq_none]
      intro entry mem hit
      simp only [beq_iff_eq] at hit
      have kept := (List.mem_filter.mp mem).2
      rw [hit, within] at kept
      cases kept
    rw [gone]
    rfl
  · rename_i outside
    have skip : ∀ entry : Key × Node, (entry.1 == key) = true → (!top.isPrefixOf entry.1) = true := by
      intro entry hit
      simp only [beq_iff_eq] at hit
      simp [hit, outside]
    rw [find?_filter_of_imp _ skip]

theorem find?_chmodDirectoriesBelow (fs : FileSystem) (top : Key) (mode : Nat) (key : Key) :
    (fs.chmodDirectoriesBelow top mode).find? key = (fs.find? key).map fun node =>
      if top.isPrefixOf key && key != top && node.isDirectory then .directory mode else node := by
  unfold find? chmodDirectoriesBelow
  rw [List.find?_map, Option.map_map, Option.map_map]
  have sameKey : ((fun entry : Key × Node => entry.1 == key) ∘ fun (entry : Key × Node) =>
      if top.isPrefixOf entry.1 && entry.1 != top && entry.2.isDirectory then (entry.1, Node.directory mode)
      else (entry.1, entry.2)) = fun entry => entry.1 == key := by
    funext entry
    simp only [Function.comp_apply]
    split <;> rfl
  rw [sameKey]
  cases found : fs.entries.find? (·.1 == key) with
  | none => rfl
  | some entry =>
      have keyEq : entry.1 = key := by simpa using List.find?_some found
      simp only [Option.map_some, Function.comp_apply]
      rw [keyEq]
      split <;> simp_all

theorem keysNodup_put {fs : FileSystem} (nodup : fs.KeysNodup) (key : Key) (node : Node) :
    (fs.put key node).KeysNodup := by
  unfold KeysNodup put at *
  simp only [List.map_cons, List.nodup_cons, List.mem_map, List.mem_filter]
  refine ⟨?_, (nodup.sublist (List.filter_sublist.map _))⟩
  · rintro ⟨entry, ⟨_, kept⟩, same⟩
    simp [same] at kept

theorem keysNodup_eraseWithin {fs : FileSystem} (nodup : fs.KeysNodup) (top : Key) :
    (fs.eraseWithin top).KeysNodup :=
  nodup.sublist (List.filter_sublist.map _)

theorem keysNodup_chmodDirectoriesBelow {fs : FileSystem} (nodup : fs.KeysNodup) (top : Key)
    (mode : Nat) : (fs.chmodDirectoriesBelow top mode).KeysNodup := by
  unfold KeysNodup chmodDirectoriesBelow at *
  rw [List.map_map]
  convert nodup using 2
  funext entry
  simp only [Function.comp_apply]
  split <;> rfl

end FileSystem

/-! ### The order of names -/

theorem bytesLe_refl : ∀ name : Bytes, bytesLe name name = true
  | [] => rfl
  | byte :: rest => by simp [bytesLe, bytesLe_refl rest]

theorem bytesLe_total : ∀ first second : Bytes, bytesLe first second = true ∨ bytesLe second first = true
  | [], _ => .inl rfl
  | _ :: _, [] => .inr rfl
  | x :: xs, y :: ys => by
      simp only [bytesLe, Bool.or_eq_true, Bool.and_eq_true, beq_iff_eq, decide_eq_true_eq]
      rcases Nat.lt_trichotomy x.toNat y.toNat with less | same | greater
      · exact .inl (.inl (UInt8.lt_iff_toNat_lt.mpr less))
      · have same : x = y := UInt8.toNat_inj.mp same
        subst same
        rcases bytesLe_total xs ys with ordered | ordered
        · exact .inl (.inr ⟨rfl, ordered⟩)
        · exact .inr (.inr ⟨rfl, ordered⟩)
      · exact .inr (.inl (UInt8.lt_iff_toNat_lt.mpr greater))

theorem bytesLe_trans : ∀ {first second third : Bytes}, bytesLe first second = true →
    bytesLe second third = true → bytesLe first third = true
  | [], _, _, _, _ => rfl
  | _ :: _, [], _, before, _ => by cases before
  | _ :: _, _ :: _, [], _, after => by cases after
  | x :: xs, y :: ys, z :: zs, before, after => by
      simp only [bytesLe, Bool.or_eq_true, Bool.and_eq_true, beq_iff_eq, decide_eq_true_eq,
        UInt8.lt_iff_toNat_lt] at before after ⊢
      rcases before with less | ⟨rfl, restBefore⟩
      · rcases after with less' | ⟨rfl, _⟩
        · exact .inl (Nat.lt_trans less less')
        · exact .inl less
      · rcases after with less' | ⟨rfl, restAfter⟩
        · exact .inl less'
        · exact .inr ⟨rfl, bytesLe_trans restBefore restAfter⟩

theorem bytesLe_antisymm : ∀ {first second : Bytes}, bytesLe first second = true →
    bytesLe second first = true → first = second
  | [], [], _, _ => rfl
  | [], _ :: _, _, after => by cases after
  | _ :: _, [], before, _ => by cases before
  | x :: xs, y :: ys, before, after => by
      simp only [bytesLe, Bool.or_eq_true, Bool.and_eq_true, beq_iff_eq, decide_eq_true_eq,
        UInt8.lt_iff_toNat_lt] at before after
      rcases before with less | ⟨rfl, restBefore⟩
      · rcases after with less' | ⟨same, _⟩
        · omega
        · rw [same] at less
          exact absurd less (Nat.lt_irrefl _)
      · rcases after with less' | ⟨_, restAfter⟩
        · exact absurd less' (Nat.lt_irrefl _)
        · rw [bytesLe_antisymm restBefore restAfter]

namespace FileSystem

theorem insertSorted_eq_orderedInsert {α : Type} (le : α → α → Bool) (x : α) (sorted : List α) :
    insertSorted le x sorted = sorted.orderedInsert (fun a b => le a b = true) x := by
  induction sorted with
  | nil => rfl
  | cons y ys ih => simp [insertSorted, ih]

theorem sortBy_eq_insertionSort {α : Type} (le : α → α → Bool) (items : List α) :
    sortBy le items = items.insertionSort (fun a b => le a b = true) := by
  induction items with
  | nil => rfl
  | cons x xs ih => simp [sortBy, ih, insertSorted_eq_orderedInsert]

theorem childName?_eq_some {dir key : Key} {name : Bytes} :
    childName? dir key = some name ↔ key = dir ++ [name] := by
  unfold childName?
  constructor
  · intro named
    split at named
    · rename_i prefixed
      obtain ⟨rest, rfl⟩ := (List.isPrefixOf_iff_prefix.mp prefixed)
      simp only [List.drop_left] at named
      split at named
      · cases named
        rfl
      · cases named
    · cases named
  · rintro rfl
    simp

/-- The entries directly inside a directory are the entries of the tree one
name below it. -/
theorem mem_children {fs : FileSystem} (nodup : fs.KeysNodup) {dir : Key} {name : Bytes}
    {node : Node} : (name, node) ∈ fs.children dir ↔ fs.find? (dir ++ [name]) = some node := by
  unfold children
  rw [sortBy_eq_insertionSort, List.mem_insertionSort, List.mem_filterMap]
  constructor
  · rintro ⟨⟨key, found⟩, mem, named⟩
    obtain ⟨child, isChild, rfl, rfl⟩ : ∃ child, childName? dir key = some child ∧ child = name ∧ found = node := by
      simpa using named
    rw [childName?_eq_some |>.mp isChild] at mem
    exact find?_of_mem nodup mem
  · intro found
    exact ⟨(dir ++ [name], node), mem_of_find? found, by simp [childName?_eq_some |>.mpr rfl]⟩

/-- The entries directly inside a directory come in name order. -/
theorem children_sorted (fs : FileSystem) (dir : Key) :
    (fs.children dir).Pairwise fun a b => bytesLe a.1 b.1 = true := by
  unfold children
  rw [sortBy_eq_insertionSort]
  have : Std.Total fun a b : Bytes × Node => bytesLe a.1 b.1 = true :=
    ⟨fun a b => bytesLe_total a.1 b.1⟩
  have : IsTrans (Bytes × Node) fun a b => bytesLe a.1 b.1 = true :=
    ⟨fun _ _ _ => bytesLe_trans⟩
  exact List.pairwise_insertionSort _ _

/-- No name appears twice among the entries directly inside a directory. -/
theorem children_names_nodup {fs : FileSystem} (nodup : fs.KeysNodup) (dir : Key) :
    ((fs.children dir).map (·.1)).Nodup := by
  unfold children
  rw [sortBy_eq_insertionSort]
  refine ((List.perm_insertionSort _ _).map _).nodup_iff.mpr ?_
  have names : (fs.entries.filterMap fun (entry : Key × Node) =>
      (childName? dir entry.1).map fun name => (name, entry.2)).map (·.1) =
      (fs.entries.map (·.1)).filterMap (childName? dir) := by
    rw [List.map_filterMap, List.filterMap_map]
    congr 1
    funext entry
    simp only [Function.comp_apply]
    cases childName? dir entry.1 <;> rfl
  rw [names]
  refine List.Nodup.filterMap ?_ nodup
  intro key other name named otherNamed
  rw [Option.mem_def, childName?_eq_some] at named otherNamed
  rw [named, otherNamed]

end FileSystem
end BackupRotation.Files
