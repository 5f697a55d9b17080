import BackupRotation.Proofs.Resolve
/-!
# The components of a path name

A path name is read as a root, a leading `.`, and the parts between its
slashes, of which empty parts and `.` are dropped. This module gives that
reading an algebra of its own: a slash splits the parts in two
(`namedParts_append_slash`), so joining a relative name adds its components
after those of the base (`PathName.components_join`), and the parent of a
name whose last component is a plain name has exactly the components before
it (`PathName.components_parent`). The parent is computed on the text, by
trimming trailing slashes and `.` parts and cutting at the last slash; the
trimming is restated as a structural recursion on the reversed text
(`trimBody_eq`), from which the shape of what it leaves follows.
-/

namespace BackupRotation.Files

open Text

/-- The component a part between slashes stands for: nothing for an empty
part or `.`. -/
def partComponent (part : Bytes) : Option Component :=
  if part.isEmpty || part == [dot] then none
  else if part == [dot, dot] then some .parent
  else some (.normal part)

/-- The components of the parts of a text, root and leading `.` aside. -/
def namedParts (bytes : Bytes) : List Component := (splitSlashes bytes).filterMap partComponent

theorem PathName.components_eq (path : PathName) :
    path.components = (if path.isAbsolute then [.root] else []) ++
      (if path.startsWithCurrent then [.current] else []) ++ namedParts path.bytes :=
  rfl

/-! ### Parts -/

@[simp] theorem namedParts_nil : namedParts [] = [] := rfl

theorem namedParts_append_slash (front back : Bytes) :
    namedParts (front ++ slash :: back) = namedParts front ++ namedParts back := by
  simp [namedParts, splitSlashes_append_slash]

theorem namedParts_plain {name : Bytes} (plain : PlainName name) : namedParts name = [.normal name] := by
  obtain ⟨noSlash, nonempty, notDot, notDotDot⟩ := plain
  simp [namedParts, splitSlashes_of_no_slash noSlash, partComponent, nonempty, notDot, notDotDot]

/-- No part holds a slash. -/
theorem slash_not_mem_of_mem_splitSlashes : ∀ {bytes part : Bytes}, part ∈ splitSlashes bytes → slash ∉ part
  | [], part, inside => by
      rw [show splitSlashes [] = [[]] from rfl, List.mem_singleton] at inside
      subst inside
      simp
  | byte :: rest, part, inside => by
      unfold splitSlashes at inside
      split at inside
      · rcases List.mem_cons.mp inside with rfl | later
        · simp
        · exact slash_not_mem_of_mem_splitSlashes later
      · rename_i notSlash
        split at inside
        · rename_i first others split
          rcases List.mem_cons.mp inside with rfl | later
          · have firstFree := slash_not_mem_of_mem_splitSlashes (split ▸ List.mem_cons_self)
            simp only [List.mem_cons, not_or]
            exact ⟨fun same => notSlash (by rw [same]; exact beq_self_eq_true byte), firstFree⟩
          · exact slash_not_mem_of_mem_splitSlashes (split ▸ List.mem_cons_of_mem _ later)
        · rcases List.mem_singleton.mp inside with rfl
          simp only [List.mem_singleton]
          exact fun same => notSlash (by rw [same]; exact beq_self_eq_true byte)

/-- A part that reads as a plain name is one. -/
theorem plainName_of_partComponent {part name : Bytes} (free : slash ∉ part)
    (named : partComponent part = some (.normal name)) : PlainName name := by
  unfold partComponent at named
  split at named
  · cases named
  · rename_i kept
    split at named
    · cases named
    · rename_i notDotDot
      cases named
      simp only [Bool.or_eq_true, List.isEmpty_iff, beq_iff_eq, not_or] at kept
      exact ⟨free, kept.1, kept.2, by simpa using notDotDot⟩

theorem plainName_of_mem_namedParts {bytes name : Bytes} (inside : .normal name ∈ namedParts bytes) :
    PlainName name := by
  obtain ⟨part, listed, named⟩ := List.mem_filterMap.mp inside
  exact plainName_of_partComponent (slash_not_mem_of_mem_splitSlashes listed) named

/-! ### Roots and leading dots -/

/-- Whether a name starts at the root or with `.` depends only on its text
before the first slash, so a slash and more after it change neither. -/
theorem isAbsolute_append_slash (front back : Bytes) :
    (⟨front ++ slash :: back⟩ : PathName).isAbsolute = (⟨front ++ [slash]⟩ : PathName).isAbsolute := by
  cases front <;> rfl

theorem startsWithCurrent_append_slash (front back : Bytes) :
    (⟨front ++ slash :: back⟩ : PathName).startsWithCurrent =
      (⟨front ++ [slash]⟩ : PathName).startsWithCurrent := by
  rcases front with _ | ⟨first, _ | ⟨second, rest⟩⟩ <;> rfl

/-- A name starts with `.` when its first byte is a dot that stands alone or
before a slash. -/
theorem startsWithCurrent_cons_iff {byte : UInt8} {more : Bytes} :
    (⟨byte :: more⟩ : PathName).startsWithCurrent = true ↔ byte = dot ∧ (more = [] ∨ more.head? = some slash) := by
  by_cases isDot : byte = dot
  · subst isDot
    rcases more with _ | ⟨next, others⟩ <;> simp [PathName.startsWithCurrent, PathName.isAbsolute, dot, slash]
  · rcases more with _ | ⟨next, others⟩ <;> simp [PathName.startsWithCurrent, isDot]

/-- A name without a slash that is not `.` has neither a root nor a leading `.`. -/
theorem relative_of_no_slash {name : Bytes} (noSlash : slash ∉ name) (notDot : name ≠ [dot]) :
    (⟨name⟩ : PathName).isAbsolute = false ∧ (⟨name⟩ : PathName).startsWithCurrent = false := by
  rcases name with _ | ⟨first, rest⟩
  · exact ⟨rfl, rfl⟩
  have firstNe : first ≠ slash := fun same => noSlash (same ▸ List.mem_cons_self)
  refine ⟨by simpa [PathName.isAbsolute] using firstNe, Bool.eq_false_iff.mpr fun leading => ?_⟩
  -- a leading `.` is the whole name or stands before a slash
  obtain ⟨rfl, lone | afterSlash⟩ := startsWithCurrent_cons_iff |>.mp leading
  · exact notDot (by rw [lone])
  · exact noSlash (List.mem_cons_of_mem _ (List.mem_of_mem_head? afterSlash))

/-- A slash at the end of a nonempty name changes none of its components. -/
theorem components_append_slash_nil {front : Bytes} (nonempty : front ≠ []) :
    (⟨front ++ [slash]⟩ : PathName).components = (⟨front⟩ : PathName).components := by
  obtain ⟨first, rest, rfl⟩ := List.exists_cons_of_ne_nil nonempty
  have parts : namedParts (first :: rest ++ [slash]) = namedParts (first :: rest) := by
    rw [namedParts_append_slash, namedParts_nil, List.append_nil]
  rw [PathName.components_eq, PathName.components_eq, parts]
  rcases rest with _ | ⟨second, rest⟩
  · simp [PathName.isAbsolute, PathName.startsWithCurrent]
  · rfl

theorem components_append_slash (front back : Bytes) :
    (⟨front ++ slash :: back⟩ : PathName).components =
      (⟨front ++ [slash]⟩ : PathName).components ++ namedParts back := by
  rw [PathName.components_eq, PathName.components_eq, isAbsolute_append_slash, startsWithCurrent_append_slash,
    namedParts_append_slash, namedParts_append_slash, namedParts_nil, List.append_nil]
  simp only [List.append_assoc]

/-- A relative name that does not start with `.` is its parts. -/
theorem components_of_relative {path : PathName} (relative : path.isAbsolute = false)
    (noCurrent : path.startsWithCurrent = false) : path.components = namedParts path.bytes := by
  rw [PathName.components_eq, relative, noCurrent]
  rfl

/-- A name whose components start with neither the root nor `.` is relative
and does not start with `.`. -/
theorem relative_of_components {path : PathName}
    (head : path.components.head? = none ∨ ∃ name, path.components.head? = some (.normal name)) :
    path.isAbsolute = false ∧ path.startsWithCurrent = false := by
  rw [PathName.components_eq] at head
  cases absolute : path.isAbsolute <;> cases current : path.startsWithCurrent <;>
    simp_all

/-! ### Joining -/

/-- Joining a relative name that does not start with `.` adds its components
after those of the base. -/
theorem PathName.components_join (base : PathName) {next : PathName} (relative : next.isAbsolute = false)
    (noCurrent : next.startsWithCurrent = false) :
    (base.join next).components = base.components ++ next.components := by
  rw [components_of_relative relative noCurrent]
  obtain ⟨bytes⟩ := base
  unfold PathName.join
  rw [relative]
  rcases List.eq_nil_or_concat bytes with rfl | ⟨front, last, rfl⟩
  · simp only [List.isEmpty_nil, Bool.true_or, ↓reduceIte, Bool.false_eq_true, List.nil_append]
    rw [components_of_relative relative noCurrent]
    rfl
  · rw [List.concat_eq_append]
    have nonempty : (front ++ [last]).isEmpty = false := by simp
    by_cases endsSlash : last = slash
    · subst endsSlash
      have ends : ((front ++ [slash]).getLast? == some slash) = true := by simp
      simp only [nonempty, ends, Bool.or_true, ↓reduceIte, Bool.false_eq_true]
      show (⟨front ++ [slash] ++ next.bytes⟩ : PathName).components = _
      rw [List.append_assoc, List.singleton_append, components_append_slash]
    · have ends : ((front ++ [last]).getLast? == some slash) = false := by simp [endsSlash]
      simp only [nonempty, ends, Bool.or_false, ↓reduceIte, Bool.false_eq_true]
      show (⟨front ++ [last] ++ [slash] ++ next.bytes⟩ : PathName).components = _
      rw [List.append_assoc, List.singleton_append, components_append_slash,
        components_append_slash_nil (by simp)]

/-- Joining the empty name adds no component, even where it adds a slash. -/
theorem PathName.components_join_nil (base : PathName) : (base.join ⟨[]⟩).components = base.components := by
  rw [PathName.components_join base rfl rfl]
  exact List.append_nil _

/-! ### Trimming the end of a text -/

/-- The trimming of trailing slashes and `.` parts, on the reversed text:
a slash goes, and so does a `.` that starts the text or follows a slash. -/
def trimReversed : Bytes → Bytes
  | [] => []
  | byte :: rest =>
      if byte == slash then trimReversed rest
      else if byte == dot && (rest.isEmpty || rest.head? == some slash) then trimReversed rest
      else byte :: rest

theorem trimBody_go_eq : ∀ (fuel : Nat) (reversed : Bytes), reversed.length < fuel →
    PathName.trimBody.go fuel reversed = trimReversed reversed
  | 0, _, short => absurd short (Nat.not_lt_zero _)
  | _ + 1, [], _ => rfl
  | fuel + 1, byte :: rest, short => by
      have shorter : rest.length < fuel := by
        rw [List.length_cons] at short
        omega
      simp only [PathName.trimBody.go, trimReversed, trimBody_go_eq fuel rest shorter]

/-- The fuel of the trimming always suffices. -/
theorem trimBody_eq (body : Bytes) : PathName.trimBody body = (trimReversed body.reverse).reverse := by
  unfold PathName.trimBody
  rw [trimBody_go_eq _ _ (by simp)]

/-- The trimming drops a part of the reversed text from its start. -/
theorem trimReversed_suffix : ∀ reversed : Bytes, ∃ dropped, reversed = dropped ++ trimReversed reversed
  | [] => ⟨[], rfl⟩
  | byte :: rest => by
      obtain ⟨dropped, split⟩ := trimReversed_suffix rest
      unfold trimReversed
      split
      · exact ⟨byte :: dropped, by rw [List.cons_append, ← split]⟩
      · split
        · exact ⟨byte :: dropped, by rw [List.cons_append, ← split]⟩
        · exact ⟨[], rfl⟩

/-- What is left ends with neither a slash nor a `.` part. -/
theorem trimReversed_shape : ∀ reversed : Bytes, trimReversed reversed = [] ∨
    ∃ byte rest, trimReversed reversed = byte :: rest ∧ byte ≠ slash ∧
      ¬ (byte = dot ∧ (rest = [] ∨ rest.head? = some slash))
  | [] => .inl rfl
  | byte :: rest => by
      unfold trimReversed
      split
      · exact trimReversed_shape rest
      · rename_i notSlash
        split
        · exact trimReversed_shape rest
        · rename_i kept
          refine .inr ⟨byte, rest, rfl, fun same => notSlash (by rw [same]; exact beq_self_eq_true slash), ?_⟩
          rintro ⟨rfl, ended⟩
          apply kept
          rcases ended with rfl | head
          · rfl
          · simp [head]

/-- Trimming keeps the parts that count. -/
theorem namedParts_trimReversed : ∀ reversed : Bytes,
    namedParts (trimReversed reversed).reverse = namedParts reversed.reverse
  | [] => rfl
  | byte :: rest => by
      have onSlash : namedParts (byte :: rest).reverse = namedParts rest.reverse ∨ byte ≠ slash := by
        by_cases isSlash : byte = slash
        · subst isSlash
          rw [List.reverse_cons, namedParts_append_slash, namedParts_nil, List.append_nil]
          exact .inl rfl
        · exact .inr isSlash
      unfold trimReversed
      split
      · rename_i isSlash
        rw [namedParts_trimReversed rest, onSlash.resolve_right (by simpa using isSlash)]
      · split
        · rename_i isDot
          simp only [Bool.and_eq_true, beq_iff_eq, Bool.or_eq_true, List.isEmpty_iff] at isDot
          obtain ⟨rfl, ended⟩ := isDot
          rw [namedParts_trimReversed rest]
          rcases ended with rfl | head
          · rfl
          · cases rest with
            | nil => simp at head
            | cons next more =>
                simp only [List.head?_cons, Option.some.injEq] at head
                subst head
                rw [List.reverse_cons, List.reverse_cons, List.reverse_cons, List.append_assoc,
                  List.singleton_append, namedParts_append_slash, namedParts_append_slash]
                rfl
        · rfl

theorem trimBody_prefix (body : Bytes) : ∃ rest, body = PathName.trimBody body ++ rest := by
  obtain ⟨dropped, split⟩ := trimReversed_suffix body.reverse
  refine ⟨dropped.reverse, ?_⟩
  rw [trimBody_eq, ← List.reverse_append, ← split, List.reverse_reverse]

theorem namedParts_trimBody (body : Bytes) : namedParts (PathName.trimBody body) = namedParts body := by
  rw [trimBody_eq, namedParts_trimReversed, List.reverse_reverse]

/-- What trimming leaves is no lone `.`. -/
theorem trimBody_ne_dot (body : Bytes) : PathName.trimBody body ≠ [dot] := by
  rw [trimBody_eq]
  intro lone
  have reversed : trimReversed body.reverse = [dot] := by
    rw [← List.reverse_reverse (trimReversed body.reverse), lone]
    rfl
  rcases trimReversed_shape body.reverse with empty | ⟨byte, rest, shape, _, notDotPart⟩
  · rw [empty] at reversed
    cases reversed
  · rw [shape, List.cons_eq_cons] at reversed
    exact notDotPart ⟨reversed.1, .inl reversed.2⟩

/-! ### One part -/

theorem namedParts_of_no_slash {part : Bytes} (free : slash ∉ part) :
    namedParts part = (partComponent part).toList := by
  simp only [namedParts, splitSlashes_of_no_slash free, List.filterMap_cons, List.filterMap_nil]
  cases partComponent part <;> rfl

theorem partComponent_isSome {part : Bytes} (nonempty : part ≠ []) (notDot : part ≠ [dot]) :
    ∃ component, partComponent part = some component := by
  unfold partComponent
  have kept : (part.isEmpty || part == [dot]) = false := by simp [nonempty, notDot]
  simp only [kept, Bool.false_eq_true, ↓reduceIte]
  split <;> exact ⟨_, rfl⟩

/-- A part without a slash that is neither empty nor `.` is the last
component of any text it ends. -/
theorem namedParts_append_part (front : Bytes) {part : Bytes} (free : slash ∉ part) (nonempty : part ≠ [])
    (notDot : part ≠ [dot]) : ∃ component, namedParts (front ++ slash :: part) = namedParts front ++ [component] := by
  obtain ⟨component, named⟩ := partComponent_isSome nonempty notDot
  exact ⟨component, by rw [namedParts_append_slash, namedParts_of_no_slash free, named]; rfl⟩

@[simp] theorem namedParts_slash_cons (part : Bytes) : namedParts (slash :: part) = namedParts part := by
  simpa using namedParts_append_slash [] part

theorem namedParts_dot_cons {part : Bytes} (after : part = [] ∨ part.head? = some slash) :
    namedParts (dot :: part) = namedParts part := by
  rcases after with rfl | head
  · rfl
  · cases part with
    | nil => simp at head
    | cons next more =>
        simp only [List.head?_cons, Option.some.injEq] at head
        subst head
        have split := namedParts_append_slash [dot] more
        simp only [List.cons_append, List.nil_append] at split
        rw [split, namedParts_slash_cons]
        rfl

/-! ### The head of a name -/

/-- The head of a name, its root or leading `.`, followed by any text that
starts what comes after it: the head keeps its components, and the text adds
its parts. A text read without a head must not be a lone `.`, which would
become a head of its own. -/
theorem components_head_append (path : PathName) {part : Bytes}
    (prefixed : ∃ rest, path.bytes.drop path.headLength = part ++ rest)
    (notDot : path.headLength = 0 → part ≠ [dot]) :
    (⟨path.bytes.take path.headLength ++ part⟩ : PathName).components =
      (if path.isAbsolute then [.root] else []) ++ (if path.startsWithCurrent then [.current] else []) ++
        namedParts part := by
  obtain ⟨rest, prefixed⟩ := prefixed
  obtain ⟨bytes⟩ := path
  rcases bytes with _ | ⟨byte, more⟩
  · -- the empty name has no head and nothing after it
    have empty : part = [] := (List.append_eq_nil_iff.mp prefixed.symm).1
    subst empty
    rfl
  by_cases rooted : byte = slash
  · -- a root
    subst rooted
    show (⟨slash :: part⟩ : PathName).components = [.root] ++ [] ++ namedParts part
    rw [PathName.components_eq, namedParts_slash_cons]
    rfl
  have relative : (⟨byte :: more⟩ : PathName).isAbsolute = false := by
    simpa [PathName.isAbsolute] using rooted
  by_cases current : byte = dot ∧ (more = [] ∨ more.head? = some slash)
  · -- a leading `.`: what follows it is empty or starts with a slash
    obtain ⟨rfl, after⟩ := current
    have leading := startsWithCurrent_cons_iff |>.mpr ⟨rfl, after⟩
    have headOne : (⟨dot :: more⟩ : PathName).headLength = 1 := by
      simp [PathName.headLength, leading]
    rw [headOne] at prefixed ⊢
    have partAfter : part = [] ∨ part.head? = some slash := by
      simp only [List.drop_succ_cons, List.drop_zero] at prefixed
      rcases after with rfl | head
      · exact .inl (List.append_eq_nil_iff.mp prefixed.symm).1
      · cases part with
        | nil => exact .inl rfl
        | cons first others =>
            rw [prefixed] at head
            exact .inr head
    show (⟨dot :: part⟩ : PathName).components = _
    rw [PathName.components_eq, namedParts_dot_cons partAfter, relative, leading,
      (startsWithCurrent_cons_iff |>.mpr ⟨rfl, partAfter⟩)]
    rfl
  · -- no head: the text is a start of the name itself
    have plain : (⟨byte :: more⟩ : PathName).startsWithCurrent = false :=
      Bool.eq_false_iff.mpr (mt (startsWithCurrent_cons_iff |>.mp) current)
    have headZero : (⟨byte :: more⟩ : PathName).headLength = 0 := by
      simp [PathName.headLength, relative, plain]
    rw [headZero] at prefixed notDot ⊢
    show (⟨part⟩ : PathName).components = _
    rw [relative, plain]
    simp only [List.drop_zero] at prefixed
    rcases part with _ | ⟨first, others⟩
    · rfl
    · rw [List.cons_append, List.cons_eq_cons] at prefixed
      obtain ⟨rfl, moreSplit⟩ := prefixed
      have partRelative : (⟨byte :: others⟩ : PathName).isAbsolute = false := by
        simpa [PathName.isAbsolute] using rooted
      have partPlain : (⟨byte :: others⟩ : PathName).startsWithCurrent = false := by
        rcases others with _ | ⟨next, tail⟩
        · refine Bool.eq_false_iff.mpr fun leading => notDot rfl ?_
          rw [(startsWithCurrent_cons_iff |>.mp leading).1]
        · rw [moreSplit] at plain
          exact plain
      rw [PathName.components_eq, partRelative, partPlain]


/-! ### The parent -/

/-- A text has no slash, or splits at its first one. -/
theorem findIdx?_slash : ∀ text : Bytes, (slash ∉ text ∧ text.findIdx? (· == slash) = none) ∨
    ∃ front back, text = front ++ slash :: back ∧ slash ∉ front ∧
      text.findIdx? (· == slash) = some front.length
  | [] => .inl ⟨List.not_mem_nil, rfl⟩
  | byte :: rest => by
      rw [List.findIdx?_cons]
      by_cases isSlash : byte = slash
      · subst isSlash
        exact .inr ⟨[], rest, rfl, List.not_mem_nil, by simp⟩
      have notSlash : (byte == slash) = false := by simpa using isSlash
      simp only [notSlash, Bool.false_eq_true, ↓reduceIte]
      rcases findIdx?_slash rest with ⟨free, none⟩ | ⟨front, back, split, free, found⟩
      · refine .inl ⟨?_, by rw [none]; rfl⟩
        simp [Ne.symm isSlash, free]
      · refine .inr ⟨byte :: front, back, by rw [split]; rfl, ?_, by rw [found]; rfl⟩
        simp [Ne.symm isSlash, free]

/-- The text before the last slash, empty without one. -/
def cutAtLastSlash (text : Bytes) : Bytes :=
  match text.reverse.findIdx? (· == slash) with
  | some fromEnd => text.take (text.length - fromEnd - 1)
  | none => []

/-- The parent of a name that ends with a plain name is its head followed by
the trimmed text before its last slash. -/
theorem PathName.parent_of_getLast {path : PathName} {name : Bytes}
    (last : path.components.getLast? = some (.normal name)) :
    path.parent = some ⟨path.bytes.take path.headLength ++
      PathName.trimBody (cutAtLastSlash (PathName.trimBody (path.bytes.drop path.headLength)))⟩ := by
  unfold PathName.parent
  rw [last]
  rfl

/-- Cutting a trimmed text at its last slash leaves every part but the last
one, a plain name, and starts the text. -/
theorem cutAtLastSlash_trimBody {body name : Bytes} (last : (namedParts body).getLast? = some (.normal name)) :
    namedParts (cutAtLastSlash (PathName.trimBody body)) ++ [.normal name] = namedParts body ∧
      ∃ rest, body = cutAtLastSlash (PathName.trimBody body) ++ rest := by
  obtain ⟨tail, bodySplit⟩ := trimBody_prefix body
  rw [← namedParts_trimBody body] at last ⊢
  rcases trimReversed_shape body.reverse with empty | ⟨byte, rest, shape, notSlash, notDotPart⟩
  · rw [trimBody_eq, empty] at last
    cases last
  have trimmedIs : PathName.trimBody body = (byte :: rest).reverse := by rw [trimBody_eq, shape]
  rw [trimmedIs] at last bodySplit ⊢
  unfold cutAtLastSlash
  rw [List.reverse_reverse]
  rcases findIdx?_slash (byte :: rest) with ⟨free, none⟩ | ⟨front, back, split, free, found⟩
  · -- no slash: the whole text is the last part
    rw [none]
    dsimp only
    have notLone : (byte :: rest).reverse ≠ [dot] := by
      intro lone
      rw [List.reverse_eq_cons_iff, List.reverse_nil, List.nil_append, List.cons_eq_cons] at lone
      exact notDotPart ⟨lone.1, .inl lone.2⟩
    obtain ⟨component, named⟩ := partComponent_isSome (by simp) notLone
    have single : namedParts (byte :: rest).reverse = [component] := by
      rw [namedParts_of_no_slash fun inside => free (List.mem_reverse.mp inside), named]
      rfl
    rw [single] at last ⊢
    cases last
    exact ⟨rfl, body, rfl⟩
  · -- the last part is the text after the last slash
    rw [found]
    dsimp only
    have frontNonempty : front ≠ [] := by
      rintro rfl
      exact notSlash (List.cons_eq_cons.mp split).1
    have notLone : front.reverse ≠ [dot] := by
      intro lone
      rw [List.reverse_eq_cons_iff, List.reverse_nil, List.nil_append] at lone
      subst lone
      rw [List.singleton_append, List.cons_eq_cons] at split
      exact notDotPart ⟨split.1, .inr (by rw [split.2]; rfl)⟩
    have reversed : (byte :: rest).reverse = back.reverse ++ slash :: front.reverse := by
      rw [split]
      simp
    obtain ⟨component, parts⟩ := namedParts_append_part back.reverse
      (fun inside => free (List.mem_reverse.mp inside)) (by simpa using frontNonempty) notLone
    have lengths : (byte :: rest).length = front.length + 1 + back.length := by
      rw [split]
      simp
      omega
    have cut : ((byte :: rest).reverse).take ((byte :: rest).reverse.length - front.length - 1) = back.reverse := by
      rw [List.length_reverse, lengths, reversed, show front.length + 1 + back.length - front.length - 1 =
        back.reverse.length by simp; omega, List.take_left]
    rw [cut]
    rw [reversed, parts, List.getLast?_concat] at last
    cases last
    rw [reversed, parts]
    exact ⟨rfl, slash :: front.reverse ++ tail, by rw [bodySplit, reversed]; simp⟩

/-- The parent of a name whose last component is a plain name has exactly
the components before it. -/
theorem PathName.components_parent {path : PathName} {name : Bytes} (named : path.fileName = some name) :
    ∃ dir, path.parent = some dir ∧ dir.components ++ [.normal name] = path.components := by
  have last : path.components.getLast? = some (.normal name) := by
    unfold PathName.fileName at named
    split at named
    · rename_i found
      cases named
      exact found
    · cases named
  -- the text after the head keeps every part of the name
  have notLone : path.headLength = 0 → path.bytes.drop path.headLength ≠ [dot] := by
    intro zero lone
    obtain ⟨bytes⟩ := path
    rw [zero, List.drop_zero] at lone
    subst lone
    cases zero
  have whole : path.components = (if path.isAbsolute then [.root] else []) ++
      (if path.startsWithCurrent then [.current] else []) ++ namedParts (path.bytes.drop path.headLength) := by
    have joined := components_head_append path ⟨[], (List.append_nil _).symm⟩ notLone
    rwa [List.take_append_drop] at joined
  have lastParts : (namedParts (path.bytes.drop path.headLength)).getLast? = some (.normal name) := by
    rw [whole, List.getLast?_append] at last
    cases found : (namedParts (path.bytes.drop path.headLength)).getLast? with
    | some component =>
        rw [found] at last
        exact last
    | none =>
        rw [found] at last
        revert last
        cases path.isAbsolute <;> cases path.startsWithCurrent <;> simp
  obtain ⟨parts, cutRest, cutSplit⟩ := cutAtLastSlash_trimBody lastParts
  obtain ⟨trimRest, trimSplit⟩ := trimBody_prefix (cutAtLastSlash (PathName.trimBody (path.bytes.drop path.headLength)))
  refine ⟨_, PathName.parent_of_getLast last, ?_⟩
  rw [components_head_append path ⟨trimRest ++ cutRest, by
    rw [← List.append_assoc, ← trimSplit, ← cutSplit]⟩
    (fun _ => trimBody_ne_dot _), namedParts_trimBody, List.append_assoc, parts, ← whole]

/-! ### Plain names -/

/-- A plain name read as a path is relative and does not start with `.`. -/
theorem PathName.relative_plain {name : Bytes} (plain : PlainName name) :
    (⟨name⟩ : PathName).isAbsolute = false ∧ (⟨name⟩ : PathName).startsWithCurrent = false :=
  relative_of_no_slash plain.1 plain.2.2.1

/-- A plain name read as a path is that one component. -/
theorem PathName.components_plain {name : Bytes} (plain : PlainName name) :
    (⟨name⟩ : PathName).components = [.normal name] := by
  obtain ⟨relative, noCurrent⟩ := PathName.relative_plain plain
  rw [components_of_relative relative noCurrent, namedParts_plain plain]

/-- The last component of a name, when a plain name, is a plain name. -/
theorem PathName.plainName_of_fileName {path : PathName} {name : Bytes} (named : path.fileName = some name) :
    PlainName name := by
  obtain ⟨dir, _, split⟩ := PathName.components_parent named
  have inside : Component.normal name ∈ path.components := by
    rw [← split]
    exact List.mem_append_right _ List.mem_cons_self
  rw [PathName.components_eq] at inside
  rcases List.mem_append.mp inside with heads | parts
  · cases path.isAbsolute <;> cases path.startsWithCurrent <;> simp at heads
  · exact plainName_of_mem_namedParts parts

theorem PathName.fileName_of_components {path : PathName} {name : Bytes}
    (last : path.components.getLast? = some (.normal name)) : path.fileName = some name := by
  unfold PathName.fileName
  rw [last]

/-- Joining a relative name that does not start with `.` and has components
keeps its last component. -/
theorem PathName.fileName_join_of_relative (base : PathName) {next : PathName} (relative : next.isAbsolute = false)
    (noCurrent : next.startsWithCurrent = false) (nonempty : next.components ≠ []) :
    (base.join next).fileName = next.fileName := by
  unfold PathName.fileName
  rw [PathName.components_join base relative noCurrent, List.getLast?_append]
  obtain ⟨last, found⟩ := Option.isSome_iff_exists.mp (List.getLast?_isSome.mpr nonempty)
  rw [found]
  rfl

end BackupRotation.Files
