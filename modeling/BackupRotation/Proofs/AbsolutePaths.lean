import BackupRotation.Proofs.PathComponents
import BackupRotation.Files.Tree
/-!
# Absolute forms are their own absolute forms

`PathName.absoluteFrom` writes a name out from a root: `//` for a name that
starts with exactly two slashes, `/` for any other absolute name, and the
working directory for a relative one; then each name the path's components
keep (plain names and `..`), each after a slash; then a slash when the path
ended with one. Every name it writes therefore has an absolute form of its
own (`AbsoluteForm`), as long as the working directory is a key of plain
names, which is what a directory of a file tree is.

An absolute form has the same root, the same kept names and the same
trailing slash when it is read again, so `absoluteFrom` leaves it as it is,
whatever the working directory (`PathName.absoluteFrom_of_absoluteForm`).
Together: making a name absolute twice is making it absolute once
(`PathName.absoluteFrom_absoluteFrom`). This is what lets an absolute path
printed into a settings file be read back as the same path.
-/

namespace BackupRotation.Files

open Text

/-- A name `absoluteFrom` keeps: neither empty nor `.`, and without a slash. -/
def KeptName (name : Bytes) : Prop := slash ∉ name ∧ name ≠ [] ∧ name ≠ [dot]

theorem PlainName.kept {name : Bytes} (plain : PlainName name) : KeptName name :=
  ⟨plain.1, plain.2.1, plain.2.2.1⟩

/-- The name `absoluteFrom` writes for a component. -/
def componentName : Component → Option Bytes
  | .normal name => some name
  | .parent => some [dot, dot]
  | _ => none

namespace PathName

/-- The names a path's components keep, in order. -/
def keptNames (path : PathName) : List Bytes := path.components.filterMap componentName

/-- Join names to a base one after another. -/
def joinAll (base : PathName) (names : List Bytes) : PathName :=
  names.foldl (fun acc name => acc.join ⟨name⟩) base

/-- Add a slash at the end when asked, unless one is there. -/
def closeWith (joined : PathName) (trailing : Bool) : PathName :=
  if trailing then joined.join ⟨[]⟩ else joined

/-- The root `absoluteFrom` starts a path from. -/
def rootFrom (cwd path : PathName) : PathName :=
  if path.hasDoubleRoot then ⟨[slash, slash]⟩ else if path.isAbsolute then ⟨[slash]⟩ else cwd

theorem absoluteFrom_eq (cwd path : PathName) :
    absoluteFrom cwd path =
      ((rootFrom cwd path).joinAll path.keptNames).closeWith (path.bytes.getLast? == some slash) :=
  rfl

@[simp] theorem joinAll_nil (base : PathName) : base.joinAll [] = base := rfl

@[simp] theorem joinAll_cons (base : PathName) (name : Bytes) (names : List Bytes) :
    base.joinAll (name :: names) = (base.join ⟨name⟩).joinAll names := rfl

@[simp] theorem isAbsolute_nil : (⟨[]⟩ : PathName).isAbsolute = false := rfl

theorem joinAll_append (base : PathName) (front back : List Bytes) :
    base.joinAll (front ++ back) = (base.joinAll front).joinAll back :=
  List.foldl_append

end PathName

/-! ### Kept names -/

theorem KeptName.relative {name : Bytes} (kept : KeptName name) : (⟨name⟩ : PathName).isAbsolute = false :=
  (relative_of_no_slash kept.1 kept.2.2).1

theorem KeptName.noCurrent {name : Bytes} (kept : KeptName name) :
    (⟨name⟩ : PathName).startsWithCurrent = false :=
  (relative_of_no_slash kept.1 kept.2.2).2

theorem KeptName.getLast_ne_slash {name : Bytes} (kept : KeptName name) : name.getLast? ≠ some slash :=
  fun last => kept.1 (List.mem_of_getLast? last)

/-- A kept name read alone is one component, which gives the name back. -/
theorem KeptName.namedParts {name : Bytes} (kept : KeptName name) :
    ∃ component, Files.namedParts name = [component] ∧ componentName component = some name := by
  obtain ⟨noSlash, nonempty, notDot⟩ := kept
  rw [namedParts_of_no_slash noSlash]
  unfold partComponent
  have read : (name.isEmpty || name == [dot]) = false := by simp [nonempty, notDot]
  simp only [read, Bool.false_eq_true, ↓reduceIte]
  split
  · next dotDot =>
    exact ⟨.parent, rfl, by rw [eq_of_beq dotDot]; rfl⟩
  · exact ⟨.normal name, rfl, rfl⟩

/-- Every name a path keeps is a kept name. -/
theorem PathName.keptNames_kept (path : PathName) : ∀ name ∈ path.keptNames, KeptName name := by
  intro name inside
  obtain ⟨component, listed, named⟩ := List.mem_filterMap.mp inside
  rw [PathName.components_eq] at listed
  rcases List.mem_append.mp listed with head | part
  · -- the root and a leading `.` keep no name
    have headComponent : component = .root ∨ component = .current := by
      split at head <;> split at head <;> simp_all
    rcases headComponent with rfl | rfl <;> cases named
  · obtain ⟨piece, split, read⟩ := List.mem_filterMap.mp part
    have free := slash_not_mem_of_mem_splitSlashes split
    unfold partComponent at read
    split at read
    · cases read
    · next kept =>
      simp only [Bool.or_eq_true, List.isEmpty_iff, beq_iff_eq, not_or] at kept
      split at read
      · next dotDot =>
        cases read
        cases named
        exact ⟨by simp [slash, dot], by simp, by simp⟩
      · cases read
        cases named
        exact ⟨free, kept.1, kept.2⟩

/-! ### Joining kept names -/

/-- Joining kept names adds their components after those of the base. -/
theorem PathName.components_joinAll (base : PathName) {names : List Bytes} (kept : ∀ name ∈ names, KeptName name) :
    (base.joinAll names).components = base.components ++ names.flatMap Files.namedParts := by
  induction names generalizing base with
  | nil => simp
  | cons name names ih =>
      have keptName := kept name List.mem_cons_self
      rw [PathName.joinAll_cons, ih _ fun other inside => kept other (List.mem_cons_of_mem _ inside),
        PathName.components_join base keptName.relative keptName.noCurrent,
        components_of_relative keptName.relative keptName.noCurrent, List.flatMap_cons, List.append_assoc]

/-- The kept names of a base with kept names joined are the base's, then those. -/
theorem PathName.keptNames_joinAll (base : PathName) {names : List Bytes} (kept : ∀ name ∈ names, KeptName name) :
    (base.joinAll names).keptNames = base.keptNames ++ names := by
  unfold PathName.keptNames
  rw [PathName.components_joinAll base kept, List.filterMap_append]
  congr 1
  induction names with
  | nil => rfl
  | cons name names ih =>
      obtain ⟨component, single, named⟩ := (kept name List.mem_cons_self).namedParts
      rw [List.flatMap_cons, List.filterMap_append, single, ih fun other inside => kept other (List.mem_cons_of_mem _ inside)]
      simp [named]

/-- Kept names joined to a nonempty text that ends without a slash are each
written after a slash. -/
theorem PathName.joinAll_of_getLast_ne_slash {text : Bytes} (nonempty : text ≠ [])
    (last : text.getLast? ≠ some slash) {names : List Bytes} (kept : ∀ name ∈ names, KeptName name) :
    (⟨text⟩ : PathName).joinAll names = ⟨text ++ names.flatMap (slash :: ·)⟩ := by
  induction names generalizing text with
  | nil => simp
  | cons name names ih =>
      have keptName := kept name List.mem_cons_self
      have joined : (⟨text⟩ : PathName).join ⟨name⟩ = ⟨text ++ slash :: name⟩ := by
        simp [PathName.join, keptName.relative, List.isEmpty_iff, nonempty, last]
      rw [PathName.joinAll_cons, joined, ih (by simp) _ fun other inside => kept other (List.mem_cons_of_mem _ inside)]
      · simp
      · cases name with
        | nil => exact absurd rfl keptName.2.1
        | cons byte rest => simpa [List.getLast?_append] using keptName.getLast_ne_slash

/-- Kept names joined to a root that ends with a slash: the first right
after it, the others each after a slash. -/
theorem PathName.joinAll_of_getLast_slash {root : Bytes} (ends : root.getLast? = some slash) {name : Bytes}
    {names : List Bytes} (kept : ∀ other ∈ name :: names, KeptName other) :
    (⟨root⟩ : PathName).joinAll (name :: names) = ⟨root ++ name ++ names.flatMap (slash :: ·)⟩ := by
  have keptName := kept name List.mem_cons_self
  have nonempty : root ≠ [] := fun empty => by simp [empty] at ends
  have joined : (⟨root⟩ : PathName).join ⟨name⟩ = ⟨root ++ name⟩ := by
    simp [PathName.join, keptName.relative, ends]
  obtain ⟨front, last, rfl⟩ := (List.eq_nil_or_concat name).resolve_left keptName.2.1
  rw [PathName.joinAll_cons, joined, PathName.joinAll_of_getLast_ne_slash (by simp) _
    fun other inside => kept other (List.mem_cons_of_mem _ inside)]
  simpa [List.getLast?_append] using keptName.getLast_ne_slash

/-- The text of a key of kept names is its names joined to the root. -/
theorem Key.path_eq_joinAll {key : Key} (kept : ∀ name ∈ key, KeptName name) :
    key.path = (⟨[slash]⟩ : PathName).joinAll key := by
  cases key with
  | nil => rfl
  | cons name names =>
      rw [PathName.joinAll_of_getLast_slash rfl kept, Key.path]
      congr 1
      -- the names with a slash between each two are the first, then each other after a slash
      have between : ∀ (first : Bytes) (rest : List Bytes),
          ((first :: rest).intersperse [slash]).flatten = first ++ rest.flatMap (slash :: ·) := by
        intro first rest
        induction rest generalizing first with
        | nil => simp
        | cons next rest ih => simp [List.intersperse_cons_cons, ih]
      simp [between]

/-! ### Absolute forms -/

/-- A name as `absoluteFrom` writes it: a root of one or two slashes, kept
names joined to it, and perhaps a closing slash. -/
def AbsoluteForm (path : PathName) : Prop :=
  ∃ root names trailing, (root = [slash] ∨ root = [slash, slash]) ∧ (∀ name ∈ names, KeptName name) ∧
    path = ((⟨root⟩ : PathName).joinAll names).closeWith trailing

/-- The root `absoluteFrom` starts from is a root of one or two slashes with
kept names joined, when the working directory is a key of plain names. -/
theorem PathName.rootFrom_joinAll {key : Key} (plain : ∀ name ∈ key, PlainName name) (path : PathName) :
    ∃ root names, (root = [slash] ∨ root = [slash, slash]) ∧ (∀ name ∈ names, KeptName name) ∧
      PathName.rootFrom key.path path = (⟨root⟩ : PathName).joinAll names := by
  unfold PathName.rootFrom
  split
  · exact ⟨[slash, slash], [], .inr rfl, by simp, rfl⟩
  split
  · exact ⟨[slash], [], .inl rfl, by simp, rfl⟩
  · exact ⟨[slash], key, .inl rfl, fun name inside => (plain name inside).kept,
      Key.path_eq_joinAll fun name inside => (plain name inside).kept⟩

/-- Every name written against a working directory of plain names is an
absolute form. -/
theorem PathName.absoluteForm_absoluteFrom {key : Key} (plain : ∀ name ∈ key, PlainName name) (path : PathName) :
    AbsoluteForm (PathName.absoluteFrom key.path path) := by
  obtain ⟨root, names, isRoot, kept, rooted⟩ := PathName.rootFrom_joinAll plain path
  refine ⟨root, names ++ path.keptNames, path.bytes.getLast? == some slash, isRoot, ?_, ?_⟩
  · intro name inside
    rcases List.mem_append.mp inside with early | late
    · exact kept name early
    · exact path.keptNames_kept name late
  · rw [PathName.absoluteFrom_eq, rooted, PathName.joinAll_append]

/-- A root of one or two slashes ends with a slash. -/
theorem getLast_of_root {root : Bytes} (isRoot : root = [slash] ∨ root = [slash, slash]) :
    root.getLast? = some slash := by
  rcases isRoot with rfl | rfl <;> rfl

/-- A root of one or two slashes is its own absolute form. -/
theorem PathName.absoluteFrom_root (other : PathName) {root : Bytes} (isRoot : root = [slash] ∨ root = [slash, slash]) :
    PathName.absoluteFrom other ⟨root⟩ = ⟨root⟩ := by
  rcases isRoot with rfl | rfl <;> rfl

/-- A root names no kept name. -/
theorem PathName.keptNames_root {root : Bytes} (isRoot : root = [slash] ∨ root = [slash, slash]) :
    (⟨root⟩ : PathName).keptNames = [] := by
  rcases isRoot with rfl | rfl <;> rfl

/-- A closing slash changes no component. -/
theorem PathName.keptNames_closeWith (joined : PathName) (trailing : Bool) :
    (joined.closeWith trailing).keptNames = joined.keptNames := by
  cases trailing
  · rfl
  · simp only [PathName.keptNames, PathName.closeWith, ↓reduceIte, PathName.components_join_nil]

/-- A name that already ends with a slash gets no second one. -/
theorem PathName.closeWith_of_getLast_slash {joined : PathName} (ends : joined.bytes.getLast? = some slash)
    (trailing : Bool) : joined.closeWith trailing = joined := by
  cases trailing <;> simp [PathName.closeWith, PathName.join, ends]

/-- Asking for a closing slash exactly when a closed name ends with one
closes it the same way. -/
theorem PathName.closeWith_getLast {joined : PathName} (nonempty : joined.bytes ≠ []) (trailing : Bool) :
    joined.closeWith ((joined.closeWith trailing).bytes.getLast? == some slash) = joined.closeWith trailing := by
  by_cases ends : joined.bytes.getLast? = some slash
  · rw [PathName.closeWith_of_getLast_slash ends, PathName.closeWith_of_getLast_slash ends]
  · have closed : (joined.join ⟨[]⟩).bytes = joined.bytes ++ [slash] := by
      simp [PathName.join, List.isEmpty_iff, nonempty, ends]
    cases trailing <;> simp [PathName.closeWith, closed, ends]

/-- A closing slash only adds at the end. -/
theorem PathName.closeWith_bytes (joined : PathName) (trailing : Bool) :
    ∃ extra, (joined.closeWith trailing).bytes = joined.bytes ++ extra := by
  cases trailing
  · exact ⟨[], (List.append_nil _).symm⟩
  · simp only [PathName.closeWith, PathName.join, ↓reduceIte]
    split
    · next absolute => cases absolute
    split
    · exact ⟨[], rfl⟩
    · exact ⟨[slash], by simp⟩

/-- A root with kept names joined and perhaps a closing slash is the root
alone, or the root followed by a byte that is not a slash. -/
theorem PathName.closeWith_joinAll_root {root : Bytes} (ends : root.getLast? = some slash) {names : List Bytes}
    (kept : ∀ name ∈ names, KeptName name) (trailing : Bool) :
    (((⟨root⟩ : PathName).joinAll names).closeWith trailing).bytes = root ∨
      ∃ byte rest, byte ≠ slash ∧
        (((⟨root⟩ : PathName).joinAll names).closeWith trailing).bytes = root ++ byte :: rest := by
  cases names with
  | nil =>
      rw [PathName.joinAll_nil, PathName.closeWith_of_getLast_slash ends]
      exact .inl rfl
  | cons name names =>
      have keptName := kept name List.mem_cons_self
      obtain ⟨byte, more, rfl⟩ := List.exists_cons_of_ne_nil keptName.2.1
      have notSlash : byte ≠ slash := fun same => keptName.1 (same ▸ List.mem_cons_self)
      obtain ⟨extra, closed⟩ := PathName.closeWith_bytes ((⟨root⟩ : PathName).joinAll ((byte :: more) :: names)) trailing
      rw [PathName.joinAll_of_getLast_slash ends kept] at closed ⊢
      exact .inr ⟨byte, more ++ names.flatMap (slash :: ·) ++ extra, notSlash, by rw [closed]; simp⟩

/-- An absolute form starts from its own root. -/
theorem PathName.rootFrom_closeWith_joinAll (other : PathName) {root : Bytes}
    (isRoot : root = [slash] ∨ root = [slash, slash]) {names : List Bytes} (kept : ∀ name ∈ names, KeptName name)
    (trailing : Bool) :
    PathName.rootFrom other (((⟨root⟩ : PathName).joinAll names).closeWith trailing) = ⟨root⟩ := by
  have ends := getLast_of_root isRoot
  generalize written : ((⟨root⟩ : PathName).joinAll names).closeWith trailing = path
  obtain ⟨bytes⟩ := path
  rcases PathName.closeWith_joinAll_root ends kept trailing with alone | ⟨byte, rest, notSlash, started⟩
  · rw [written] at alone
    cases alone
    rcases isRoot with rfl | rfl <;> rfl
  · rw [written] at started
    cases started
    rcases isRoot with rfl | rfl <;>
      simp [PathName.rootFrom, PathName.hasDoubleRoot, PathName.isAbsolute, notSlash]

/-- An absolute form is its own absolute form, whatever the working
directory. -/
theorem PathName.absoluteFrom_of_absoluteForm (other : PathName) {path : PathName} (form : AbsoluteForm path) :
    PathName.absoluteFrom other path = path := by
  obtain ⟨root, names, trailing, isRoot, kept, rfl⟩ := form
  have nonempty : ((⟨root⟩ : PathName).joinAll names).bytes ≠ [] := by
    have ends := getLast_of_root isRoot
    obtain ⟨extra, closed⟩ := PathName.closeWith_bytes ((⟨root⟩ : PathName).joinAll names) false
    rcases PathName.closeWith_joinAll_root ends kept false with alone | ⟨byte, rest, _, started⟩
    all_goals
      intro empty
      simp_all [PathName.closeWith]
  rw [PathName.absoluteFrom_eq, PathName.rootFrom_closeWith_joinAll other isRoot kept, PathName.keptNames_closeWith,
    PathName.keptNames_joinAll _ kept, PathName.keptNames_root isRoot, List.nil_append,
    PathName.closeWith_getLast nonempty]

/-- An absolute form starts at the root. -/
theorem AbsoluteForm.eq_slash_cons {path : PathName} (form : AbsoluteForm path) : ∃ rest, path.bytes = slash :: rest := by
  obtain ⟨root, names, trailing, isRoot, kept, rfl⟩ := form
  have ends := getLast_of_root isRoot
  have rooted : ∃ extra, (((⟨root⟩ : PathName).joinAll names).closeWith trailing).bytes = root ++ extra := by
    rcases PathName.closeWith_joinAll_root ends kept trailing with alone | ⟨byte, rest, _, started⟩
    · exact ⟨[], by simp [alone]⟩
    · exact ⟨byte :: rest, started⟩
  obtain ⟨extra, written⟩ := rooted
  rcases isRoot with rfl | rfl
  · exact ⟨extra, written⟩
  · exact ⟨slash :: extra, written⟩

/-- Making a name absolute twice is making it absolute once, the second time
against any working directory. -/
theorem PathName.absoluteFrom_absoluteFrom {key : Key} (plain : ∀ name ∈ key, PlainName name) (other path : PathName) :
    PathName.absoluteFrom other (PathName.absoluteFrom key.path path) = PathName.absoluteFrom key.path path :=
  PathName.absoluteFrom_of_absoluteForm other (PathName.absoluteForm_absoluteFrom plain path)

end BackupRotation.Files
