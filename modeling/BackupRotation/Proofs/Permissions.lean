import Mathlib.Data.Nat.Digits.Defs
import Mathlib.Data.List.Sublists
import BackupRotation.Proofs.PruneCount
import BackupRotation.Proofs.SettingsLine
import BackupRotation.Proofs.TextEdits
/-!
# The permission grammar

A permission is written in one of two spellings. This file states each as a
grammar of its own and proves that the reader accepts exactly the texts the
two grammars describe, with the mode they denote, and so only modes from
`1` to `0o777` (`parsePermission_eq_ok_iff`).

* `OctalSpelling`: `0o0` and one or more octal digits, as many as one
  likes, whose value grants something and stays within `0o777`. Leading
  zeros keep a long text small, and digits too many for 32 bits are refused
  like any other value above `0o777`.
* `SymbolicSpelling`: `u:<p>;g:<p>;o:<p>`, each `<p>` a `PermissionWord`,
  that is the letters `r`, `w`, `x` in that order with some left out, or `-`
  for none, and not all three `-`. The user's bits go above the group's and
  those above the others', three bits each.

The reader picks the octal branch by the prefix `0o`; a symbolic spelling
starts with `u`, so it never lands there.
-/

namespace BackupRotation.Settings

open Text

/-! ### Octal -/

/-- The number that octal digits spell, most significant first. -/
def octalNumber (digits : List Char) : Nat :=
  Nat.ofDigits 8 (digits.reverse.map fun c => c.toNat - '0'.toNat)

theorem octalValue_eq_octalNumber (digits : List Char) : octalValue digits = octalNumber digits :=
  foldl_radix 8 digits

/-- The octal spelling of a mode. -/
def OctalSpelling (value : String) (mode : Nat) : Prop :=
  ∃ digits : List Char, value.toList = '0' :: 'o' :: '0' :: digits ∧ digits ≠ [] ∧
    (∀ c ∈ digits, '0' ≤ c ∧ c ≤ '7') ∧ mode = octalNumber digits ∧ 1 ≤ mode ∧ mode ≤ 0o777

theorem OctalSpelling.startsWith {value : String} {mode : Nat} (spelled : OctalSpelling value mode) :
    Text.startsWith value "0o" = true := by
  obtain ⟨digits, chars, -⟩ := spelled
  simp [Text.startsWith, chars, List.isPrefixOf]

theorem parseOctal_eq_ok_iff {value : String} {mode : Nat} :
    parseOctal value = .ok mode ↔ OctalSpelling value mode := by
  unfold parseOctal OctalSpelling
  simp only [octalValue_eq_octalNumber]
  split
  · rename_i digits chars
    simp only [chars, List.cons.injEq, true_and, exists_eq_left']
    split
    · -- no digits, or one that is not octal
      rename_i malformed
      simp only [reduceCtorEq, false_iff, not_and]
      intro nonempty octal
      have allOctal : digits.all (fun c => '0' ≤ c && c ≤ '7') = true :=
        List.all_eq_true.mpr fun c inside => by simpa using octal c inside
      simp [nonempty, allOctal] at malformed
    · rename_i wellFormed
      simp only [Bool.or_eq_true, Bool.not_eq_true', List.isEmpty_iff, List.all_eq_false, not_or] at wellFormed
      split
      · rename_i outside
        simp only [reduceCtorEq, false_iff, not_and]
        rintro - - rfl low high
        simp [maxPermission] at outside
        omega
      · rename_i inside
        simp [maxPermission] at inside
        simp only [Except.ok.injEq]
        constructor
        · rintro rfl
          exact ⟨wellFormed.1, by simpa using wellFormed.2, rfl, by omega, by omega⟩
        · rintro ⟨-, -, rfl, -⟩
          rfl
  · rename_i other
    simp only [reduceCtorEq, false_iff, not_exists, not_and]
    exact fun digits chars => (other digits chars).elim

/-! ### Symbolic -/

/-- The bit a letter of a permission word grants. -/
def letterBit : Char → Nat
  | 'r' => 4
  | 'w' => 2
  | 'x' => 1
  | _ => 0

/-- A permission word and the bits it grants: `-` for none, or some of the
letters `r`, `w`, `x`, kept in that order, each granting its bit. -/
def PermissionWord (word : List Char) (bits : Nat) : Prop :=
  word = ['-'] ∧ bits = 0 ∨ word ≠ [] ∧ word.Sublist ['r', 'w', 'x'] ∧ bits = (word.map letterBit).sum

instance (word : List Char) (bits : Nat) : Decidable (PermissionWord word bits) := by
  unfold PermissionWord
  infer_instance

/-- The table of words is the grammar of words. -/
theorem symbolicBits_eq_some_iff {word : List Char} {bits : Nat} :
    symbolicBits word = some bits ↔ PermissionWord word bits := by
  constructor
  · intro read
    unfold symbolicBits at read
    split at read <;> cases read <;> decide
  · rintro (⟨rfl, rfl⟩ | ⟨nonempty, letters, rfl⟩)
    · rfl
    · -- the words of letters are the eight sublists of `rwx`
      have table : ∀ word ∈ ['r', 'w', 'x'].sublists, word ≠ [] →
          symbolicBits word = some (word.map letterBit).sum := by decide
      exact table word (List.mem_sublists.mpr letters) nonempty

namespace PermissionWord

variable {word : List Char} {bits : Nat}

theorem bits_le (spelled : PermissionWord word bits) : bits ≤ 7 :=
  symbolicBits_le (symbolicBits_eq_some_iff |>.mpr spelled)

/-- Only `-` grants nothing. -/
theorem bits_eq_zero_iff (spelled : PermissionWord word bits) : bits = 0 ↔ word = ['-'] := by
  have read := symbolicBits_eq_some_iff |>.mpr spelled
  unfold symbolicBits at read
  split at read <;> cases read <;> simp

theorem separator_not_mem (spelled : PermissionWord word bits) : ';' ∉ word := by
  rcases spelled with ⟨rfl, -⟩ | ⟨-, letters, -⟩
  · decide
  · exact fun inside => by simpa using letters.subset inside

end PermissionWord

theorem groupBits_eq_some_iff {prefixChar : Char} {group : List Char} {bits : Nat} :
    groupBits prefixChar group = some bits ↔
      ∃ word, group = prefixChar :: ':' :: word ∧ PermissionWord word bits := by
  unfold groupBits
  split
  · rename_i c word
    split
    · rename_i same
      rw [eq_of_beq same]
      simp [symbolicBits_eq_some_iff]
    · rename_i other
      have differs : c ≠ prefixChar := fun equal => other (by simp [equal])
      simp [differs]
  · rename_i other
    simp only [reduceCtorEq, false_iff, not_exists, not_and]
    exact fun word group _ => other prefixChar word group

/-- Three groups of at most three bits each, shifted into place, add up
without carries. -/
theorem shiftLeft_or_eq_add {user group other : Nat} (groupBound : group ≤ 7) (otherBound : other ≤ 7) :
    (user <<< 6 ||| group <<< 3 ||| other) = user * 64 + group * 8 + other := by
  have inner : (user <<< 6 ||| group <<< 3) = (user * 8 + group) <<< 3 := by
    rw [← Nat.shiftLeft_add_eq_or_of_lt (by simp only [Nat.shiftLeft_eq, Nat.reducePow]; omega) user]
    simp only [Nat.shiftLeft_eq, Nat.reducePow]
    omega
  rw [inner, ← Nat.shiftLeft_add_eq_or_of_lt (by simp only [Nat.reducePow]; omega) (user * 8 + group)]
  simp only [Nat.shiftLeft_eq, Nat.reducePow]
  omega

/-- The symbolic spelling of a mode. -/
def SymbolicSpelling (value : String) (mode : Nat) : Prop :=
  ∃ (user group other : List Char) (forUser forGroup forOther : Nat),
    value.toList = 'u' :: ':' :: user ++ ';' :: 'g' :: ':' :: group ++ ';' :: 'o' :: ':' :: other ∧
    PermissionWord user forUser ∧ PermissionWord group forGroup ∧ PermissionWord other forOther ∧
    ¬ (user = ['-'] ∧ group = ['-'] ∧ other = ['-']) ∧
    mode = forUser <<< 6 ||| forGroup <<< 3 ||| forOther

namespace SymbolicSpelling

variable {value : String} {mode : Nat}

theorem not_startsWith (spelled : SymbolicSpelling value mode) : Text.startsWith value "0o" = false := by
  obtain ⟨user, group, other, -, -, -, chars, -⟩ := spelled
  simp [Text.startsWith, chars, List.isPrefixOf]

theorem range (spelled : SymbolicSpelling value mode) : 1 ≤ mode ∧ mode ≤ 0o777 := by
  obtain ⟨user, group, other, forUser, forGroup, forOther, -, userWord, groupWord, otherWord, granted, rfl⟩ :=
    spelled
  have userBound := userWord.bits_le
  have groupBound := groupWord.bits_le
  have otherBound := otherWord.bits_le
  rw [shiftLeft_or_eq_add groupBound otherBound]
  -- some word is not `-`, so it grants a bit
  have somewhere : forUser ≠ 0 ∨ forGroup ≠ 0 ∨ forOther ≠ 0 := by
    simp only [ne_eq, userWord.bits_eq_zero_iff, groupWord.bits_eq_zero_iff, otherWord.bits_eq_zero_iff]
    tauto
  omega

end SymbolicSpelling

theorem parseSymbolic_of_spelling {value : String} {mode : Nat} (spelled : SymbolicSpelling value mode) :
    parseSymbolic value = .ok mode := by
  obtain ⟨positive, -⟩ := spelled.range
  obtain ⟨user, group, other, forUser, forGroup, forOther, chars, userWord, groupWord, otherWord, -, rfl⟩ :=
    spelled
  have nonempty : value.isEmpty = false := by
    rw [Bool.eq_false_iff]
    intro empty
    simp [String.isEmpty_iff.mp empty] at chars
  have split : splitChars ';' value.toList = ['u' :: ':' :: user, 'g' :: ':' :: group, 'o' :: ':' :: other] := by
    rw [splitChars_eq_iff]
    refine ⟨List.cons_ne_nil _ _, ?_, by simp [chars]⟩
    simp [userWord.separator_not_mem, groupWord.separator_not_mem, otherWord.separator_not_mem]
  have readUser : groupBits 'u' ('u' :: ':' :: user) = some forUser := groupBits_eq_some_iff |>.mpr ⟨user, rfl, userWord⟩
  have readGroup : groupBits 'g' ('g' :: ':' :: group) = some forGroup :=
    groupBits_eq_some_iff |>.mpr ⟨group, rfl, groupWord⟩
  have readOther : groupBits 'o' ('o' :: ':' :: other) = some forOther :=
    groupBits_eq_some_iff |>.mpr ⟨other, rfl, otherWord⟩
  rw [shiftLeft_or_eq_add groupWord.bits_le otherWord.bits_le] at positive ⊢
  unfold parseSymbolic
  simp only [nonempty, split, readUser, readGroup, readOther, Bool.false_eq_true, if_false]
  rw [if_neg (by simpa using Nat.pos_iff_ne_zero.mp positive)]

theorem spelling_of_parseSymbolic {value : String} {mode : Nat} (read : parseSymbolic value = .ok mode) :
    SymbolicSpelling value mode := by
  unfold parseSymbolic at read
  dsimp only at read
  split at read
  · cases read
  split at read
  · rename_i user group other split
    split at read
    · rename_i forUser forGroup forOther readUser readGroup readOther
      split at read
      · cases read
      rename_i nonzero
      cases read
      obtain ⟨-, -, chars⟩ := splitChars_eq_iff |>.mp split
      obtain ⟨userWord, rfl, userSpelled⟩ := groupBits_eq_some_iff |>.mp readUser
      obtain ⟨groupWord, rfl, groupSpelled⟩ := groupBits_eq_some_iff |>.mp readGroup
      obtain ⟨otherWord, rfl, otherSpelled⟩ := groupBits_eq_some_iff |>.mp readOther
      refine ⟨userWord, groupWord, otherWord, forUser, forGroup, forOther, by simpa using chars,
        userSpelled, groupSpelled, otherSpelled, ?_,
        (shiftLeft_or_eq_add groupSpelled.bits_le otherSpelled.bits_le).symm⟩
      -- three `-` would grant nothing, which the reader refuses
      rintro ⟨rfl, rfl, rfl⟩
      rw [userSpelled.bits_eq_zero_iff.mpr rfl, groupSpelled.bits_eq_zero_iff.mpr rfl,
        otherSpelled.bits_eq_zero_iff.mpr rfl] at nonzero
      exact nonzero rfl
    · cases read
  · cases read

theorem parseSymbolic_eq_ok_iff {value : String} {mode : Nat} :
    parseSymbolic value = .ok mode ↔ SymbolicSpelling value mode :=
  ⟨spelling_of_parseSymbolic, parseSymbolic_of_spelling⟩

/-! ### Either spelling -/

/-- The reader accepts exactly the two spellings, each with the mode it
denotes, and so only modes from `1` to `0o777`. -/
theorem parsePermission_eq_ok_iff (value : String) (mode : Nat) :
    (parsePermission value = .ok mode ↔ OctalSpelling value mode ∨ SymbolicSpelling value mode) ∧
      (parsePermission value = .ok mode → 1 ≤ mode ∧ mode ≤ 0o777) := by
  have spellings : parsePermission value = .ok mode ↔ OctalSpelling value mode ∨ SymbolicSpelling value mode := by
    unfold parsePermission
    split
    · rename_i octal
      rw [parseOctal_eq_ok_iff]
      refine ⟨.inl, fun spelled => spelled.resolve_right fun symbolic => ?_⟩
      simp [symbolic.not_startsWith] at octal
    · rename_i symbolic
      rw [parseSymbolic_eq_ok_iff]
      refine ⟨.inr, fun spelled => spelled.resolve_left fun octal => ?_⟩
      simp [octal.startsWith] at symbolic
  refine ⟨spellings, fun read => ?_⟩
  rcases spellings.mp read with ⟨-, -, -, -, -, positive, bounded⟩ | spelled
  · exact ⟨positive, bounded⟩
  · exact spelled.range

example : parsePermission "0o00000750" = .ok 0o750 := rfl

example : parsePermission "u:rwx;g:rx;o:-" = .ok 0o750 := rfl

end BackupRotation.Settings
