import BackupRotation.Text.Decimal
/-!
# Editing text by lines

The default settings are rendered by replacing a placeholder line of a fixed
text, and read back by splitting the result into lines and trimming each.
This module states when those edits do what they look like.

* `replaceFirst` replaces the pattern where the text has it, provided no
  occurrence starts earlier (`replaceFirst_of_missesIn`). `missesIn` checks
  that for a front part of the text whatever follows it: every suffix of the
  front and the pattern differ at a position both have. It can be computed
  on a fixed front, and a front without the pattern's first character
  misses it outright (`missesIn_of_not_mem`).
* Splitting at a separator gives exactly the parts that hold none of it
  and, joined by it, spell the text (`splitChars_eq_iff`); splitting at its
  first occurrence gives the part before, which holds none, and the rest
  (`splitAtFirst_eq_some_iff`).
* Lines each ended by a line feed are read back as themselves
  (`textLines_joinLines`), when none holds a line feed or ends with a
  carriage return, which the reader would drop.
* Trimming leaves text that starts and ends with a character that is not
  white space (`trimChars_of_ends`).
-/

namespace BackupRotation.Text

/-! ### Searching -/

/-- Whether no occurrence of `pattern` can start inside a front part of a
text, whatever follows it. -/
def missesIn (pattern : List Char) : List Char → Bool
  | [] => true
  | c :: rest => !(c :: rest).isPrefixOf pattern && !pattern.isPrefixOf (c :: rest) && missesIn pattern rest

/-- A text that clashes with the pattern, neither being a prefix of the
other, clashes with it whatever follows. -/
theorem not_prefix_append_of_clash {front pattern : List Char} (short : ¬ front <+: pattern)
    (long : ¬ pattern <+: front) (rest : List Char) :
    ¬ (front ++ rest) <+: pattern ∧ ¬ pattern <+: front ++ rest := by
  constructor
  · exact fun found => short ((List.prefix_append front rest).trans found)
  · intro found
    rcases List.prefix_or_prefix_of_prefix found (List.prefix_append front rest) with inFront | fromFront
    · exact long inFront
    · exact short fromFront

theorem missesIn_cons_iff {pattern rest : List Char} {c : Char} :
    missesIn pattern (c :: rest) = true ↔
      (¬ (c :: rest) <+: pattern ∧ ¬ pattern <+: c :: rest) ∧ missesIn pattern rest = true := by
  simp [missesIn, ← List.isPrefixOf_iff_prefix]

theorem missesIn_append {pattern front back : List Char} (missesFront : missesIn pattern front = true)
    (missesBack : missesIn pattern back = true) : missesIn pattern (front ++ back) = true := by
  induction front with
  | nil => exact missesBack
  | cons c rest ih =>
      obtain ⟨⟨short, long⟩, later⟩ := missesIn_cons_iff |>.mp missesFront
      exact missesIn_cons_iff |>.mpr ⟨not_prefix_append_of_clash short long back, ih later⟩

/-- A front without the pattern's first character misses it. -/
theorem missesIn_of_not_mem {first : Char} {pattern front : List Char} (absent : first ∉ front) :
    missesIn (first :: pattern) front = true := by
  induction front with
  | nil => rfl
  | cons c rest ih =>
      have other : c ≠ first := fun same => absent (same ▸ List.mem_cons_self)
      simp only [List.mem_cons, not_or] at absent
      simp [missesIn, List.isPrefixOf, other, Ne.symm other, ih absent.2]

/-- The search passes over a front that misses the pattern. -/
theorem findSub_go_append {pattern front : List Char} (misses : missesIn pattern front = true) (index : Nat)
    (rest : List Char) : findSub.go pattern index (front ++ rest) = findSub.go pattern (index + front.length) rest := by
  induction front generalizing index with
  | nil => rfl
  | cons c front ih =>
      obtain ⟨⟨short, long⟩, later⟩ := missesIn_cons_iff |>.mp misses
      have passed : pattern.isPrefixOf (c :: front ++ rest) = false := by
        rw [← Bool.not_eq_true, List.isPrefixOf_iff_prefix]
        exact (not_prefix_append_of_clash short long rest).2
      rw [List.cons_append, findSub.go, ← List.cons_append, passed, if_neg Bool.false_ne_true, ih later,
        List.length_cons, Nat.add_assoc, Nat.add_comm 1]

/-- The first occurrence of a pattern is where the text has it, when the
text before misses it. -/
theorem findSub_of_missesIn {pattern front : List Char} (misses : missesIn pattern front = true)
    (nonempty : pattern ≠ []) (back : List Char) :
    findSub pattern (front ++ pattern ++ back) = some front.length := by
  obtain ⟨first, more, rfl⟩ := List.exists_cons_of_ne_nil nonempty
  rw [findSub, List.append_assoc, findSub_go_append misses, List.cons_append, findSub.go, ← List.cons_append]
  simp [List.isPrefixOf_iff_prefix]

/-- Replacing the first occurrence of a pattern that a front misses
replaces the occurrence right after the front. -/
theorem replaceFirst_of_missesIn {front pattern back : String} (misses : missesIn pattern.toList front.toList = true)
    (nonempty : pattern ≠ "") (replacement : String) :
    replaceFirst (front ++ pattern ++ back) pattern replacement = front ++ replacement ++ back := by
  have patternChars : pattern.toList ≠ [] := fun empty => nonempty (String.toList_inj.mp (by simpa using empty))
  unfold replaceFirst
  rw [String.toList_append, String.toList_append, findSub_of_missesIn misses patternChars]
  apply String.ext
  simp [← String.length_toList]

/-- Splitting at the first separator, when the front holds none. -/
theorem splitAtFirst_append_cons {separator : Char} {front : List Char} (absent : separator ∉ front)
    (back : List Char) : splitAtFirst separator (front ++ separator :: back) = some (front, back) := by
  have notFound : front.findIdx? (· == separator) = none := by
    rw [List.findIdx?_eq_none_iff]
    intro c inside
    simpa using fun same : c = separator => absent (same ▸ inside)
  simp [splitAtFirst, List.findIdx?_append, List.findIdx?_cons, notFound]

/-- Splitting at the first separator succeeds exactly on a text that has
one, giving the part before it, which holds none, and the part after. -/
theorem splitAtFirst_eq_some_iff {separator : Char} {chars front back : List Char} :
    splitAtFirst separator chars = some (front, back) ↔ chars = front ++ separator :: back ∧ separator ∉ front := by
  constructor
  · intro split
    unfold splitAtFirst at split
    split at split
    · rename_i index found
      cases split
      obtain ⟨inside, atIndex, before⟩ := List.findIdx?_eq_some_iff_getElem.mp found
      refine ⟨?_, fun early => ?_⟩
      · rw [← eq_of_beq atIndex, ← List.drop_eq_getElem_cons inside, List.take_append_drop]
      · -- every character before the index differs from the separator
        obtain ⟨position, bounded, same⟩ := List.mem_take_iff_getElem.mp early
        exact before position (by omega) (by simp [same])
    · cases split
  · rintro ⟨rfl, absent⟩
    exact splitAtFirst_append_cons absent back

theorem splitAtFirst_eq_none_iff {separator : Char} {chars : List Char} :
    splitAtFirst separator chars = none ↔ separator ∉ chars := by
  unfold splitAtFirst
  split
  · rename_i index found
    obtain ⟨inside, atIndex, -⟩ := List.findIdx?_eq_some_iff_getElem.mp found
    simp only [reduceCtorEq, false_iff, Classical.not_not]
    exact eq_of_beq atIndex ▸ List.getElem_mem inside
  · rename_i missing
    simp only [true_iff]
    intro inside
    simpa using List.findIdx?_eq_none_iff.mp missing separator inside

/-! ### Lines -/

/-- Lines, each ended by a line feed. -/
def joinLines (lines : List String) : String := String.join (lines.map (· ++ "\n"))

theorem joinLines_toList (lines : List String) :
    (joinLines lines).toList = lines.flatMap fun line => line.toList ++ ['\n'] := by
  simp [joinLines, String.toList_join, List.flatMap_map]

theorem joinLines_append (front back : List String) :
    joinLines (front ++ back) = joinLines front ++ joinLines back := by
  simp [joinLines, String.join_append]

@[simp] theorem joinLines_nil : joinLines [] = "" := rfl

@[simp] theorem joinLines_cons (line : String) (lines : List String) :
    joinLines (line :: lines) = line ++ "\n" ++ joinLines lines := by
  simp [joinLines, String.join_cons]

/-- Splitting at a separator that a part does not hold ends the part there. -/
theorem splitChars_append_cons {separator : Char} {part : List Char} (absent : separator ∉ part) (rest : List Char) :
    splitChars separator (part ++ separator :: rest) = part :: splitChars separator rest := by
  induction part with
  | nil => simp [splitChars]
  | cons c part ih =>
      have other : (c == separator) = false := by
        simpa using fun same : c = separator => absent (same ▸ List.mem_cons_self)
      rw [List.cons_append, splitChars, other, if_neg Bool.false_ne_true,
        ih fun inside => absent (List.mem_cons_of_mem _ inside)]

/-- A text without the separator is a single part. -/
theorem splitChars_of_not_mem {separator : Char} {part : List Char} (absent : separator ∉ part) :
    splitChars separator part = [part] := by
  induction part with
  | nil => rfl
  | cons c part ih =>
      have other : (c == separator) = false := by
        simpa using fun same : c = separator => absent (same ▸ List.mem_cons_self)
      rw [splitChars, other, if_neg Bool.false_ne_true, ih fun inside => absent (List.mem_cons_of_mem _ inside)]

/-- Splitting always gives at least one part. -/
theorem splitChars_ne_nil (separator : Char) (chars : List Char) : splitChars separator chars ≠ [] := by
  cases chars with
  | nil => simp [splitChars]
  | cons c rest =>
      unfold splitChars
      split
      · simp
      · split <;> simp

/-- Splitting gives at least one part, and each part and the rest of the
text read back as the text: the first part, then either nothing more or the
separator and the text the other parts come from. -/
theorem splitChars_eq_cons {separator : Char} {chars part : List Char} {parts : List (List Char)}
    (split : splitChars separator chars = part :: parts) :
    separator ∉ part ∧ (parts = [] ∧ chars = part ∨
      ∃ rest, chars = part ++ separator :: rest ∧ splitChars separator rest = parts) := by
  induction chars generalizing part parts with
  | nil =>
      cases split
      exact ⟨List.not_mem_nil, .inl ⟨rfl, rfl⟩⟩
  | cons c rest ih =>
      unfold splitChars at split
      split at split
      · -- the separator ends an empty first part
        rename_i atSeparator
        cases split
        exact ⟨List.not_mem_nil, .inr ⟨rest, by simp [eq_of_beq atSeparator], rfl⟩⟩
      · rename_i other
        have differs : c ≠ separator := fun same => other (by simp [same])
        split at split
        · -- the character joins the first part of the rest
          rename_i first others restSplit
          cases split
          obtain ⟨absent, ends | ⟨tail, joined, tailSplit⟩⟩ := ih restSplit
          · exact ⟨by simp [Ne.symm differs, absent], .inl ⟨ends.1, by rw [ends.2]⟩⟩
          · exact ⟨by simp [Ne.symm differs, absent], .inr ⟨tail, by rw [joined]; rfl, tailSplit⟩⟩
        · rename_i restSplit
          exact absurd restSplit (splitChars_ne_nil separator rest)

/-- Splitting gives exactly the parts that hold no separator and, joined
by it, spell the text. -/
theorem splitChars_eq_iff {separator : Char} {chars : List Char} {parts : List (List Char)} :
    splitChars separator chars = parts ↔
      parts ≠ [] ∧ (∀ part ∈ parts, separator ∉ part) ∧ chars = [separator].intercalate parts := by
  induction parts generalizing chars with
  | nil => simpa using splitChars_ne_nil separator chars
  | cons part rest ih =>
      constructor
      · intro split
        obtain ⟨absent, ⟨rfl, rfl⟩ | ⟨tail, rfl, tailSplit⟩⟩ := splitChars_eq_cons split
        · simpa using absent
        · obtain ⟨nonempty, restAbsent, rfl⟩ := ih.mp tailSplit
          obtain ⟨next, more, rfl⟩ := List.exists_cons_of_ne_nil nonempty
          refine ⟨List.cons_ne_nil _ _, ?_, by simp [List.intercalate_cons_cons]⟩
          simpa [absent] using restAbsent
      · rintro ⟨-, absent, rfl⟩
        cases rest with
        | nil => simpa using splitChars_of_not_mem (absent part List.mem_cons_self)
        | cons next more =>
            rw [List.intercalate_cons_cons, List.append_assoc, List.singleton_append,
              splitChars_append_cons (absent part List.mem_cons_self),
              ih.mpr ⟨List.cons_ne_nil _ _, fun other inside => absent other (List.mem_cons_of_mem _ inside), rfl⟩]

/-- Lines that hold no line feed and do not end with a carriage return are
read back as themselves. -/
theorem textLines_joinLines {lines : List String} (single : ∀ line ∈ lines, '\n' ∉ line.toList)
    (noReturn : ∀ line ∈ lines, line.toList.getLast? ≠ some '\r') : textLines (joinLines lines) = lines := by
  -- the pieces between line feeds are the lines, then the empty rest after the last feed
  have pieces : splitChars '\n' (joinLines lines).toList = lines.map String.toList ++ [[]] := by
    rw [joinLines_toList]
    induction lines with
    | nil => rfl
    | cons line lines ih =>
        rw [List.flatMap_cons, List.append_assoc, List.singleton_append,
          splitChars_append_cons (single line List.mem_cons_self),
          ih (fun other inside => single other (List.mem_cons_of_mem _ inside))
            (fun other inside => noReturn other (List.mem_cons_of_mem _ inside))]
        rfl
  unfold textLines
  simp only [pieces, List.getLast?_concat, beq_self_eq_true, ↓reduceIte, List.dropLast_concat, List.length_map]
  -- no piece ends with a carriage return, so each is kept as it is
  calc _ = List.map String.ofList (List.map Prod.fst (lines.map String.toList).zipIdx) := by
        congr 1
        apply List.map_congr_left
        rintro ⟨piece, index⟩ inside
        obtain ⟨line, listed, rfl⟩ := List.mem_map.mp (List.fst_mem_of_mem_zipIdx inside)
        have kept : (line.toList.getLast? == some '\r') = false := by simpa using noReturn line listed
        simp [kept]
    _ = lines := by simp [List.zipIdx_map_fst, List.map_map]

/-! ### Trimming -/

/-- Characters that start and end with no white space are already trimmed. -/
theorem trimChars_of_ends {chars : List Char} (first : ∀ c, chars.head? = some c → isWhite c = false)
    (last : ∀ c, chars.getLast? = some c → isWhite c = false) : trimChars chars = chars := by
  cases chars with
  | nil => rfl
  | cons c rest =>
      have keptFirst : (c :: rest).dropWhile isWhite = c :: rest := by
        simp [first c rfl]
      obtain ⟨front, final, split⟩ := List.eq_nil_or_concat (c :: rest) |>.resolve_left (by simp)
      rw [List.concat_eq_append] at split
      have keptLast : ((c :: rest).reverse).dropWhile isWhite = (c :: rest).reverse := by
        rw [split, List.reverse_append]
        simp [last final (by simp [split])]
      rw [trimChars, keptFirst, keptLast, List.reverse_reverse]

/-- White space at the front goes. -/
theorem trimChars_white_cons {c : Char} (white : isWhite c = true) (chars : List Char) :
    trimChars (c :: chars) = trimChars chars := by
  simp [trimChars, white]

end BackupRotation.Text
