import Mathlib.Data.List.Basic
import BackupRotation.Proofs.TextEdits
/-!
# Counts in thousands groups

`formatCount` writes a count as a minus sign for a negative count, then the
decimal digits of its magnitude with a comma before every digit whose
distance from the end is a positive multiple of three. Read the other way,
the digits are cut into groups from the right: the first group holds one to
three digits and every later group exactly three (`ThousandsGroups`).

The main statement is `formatCount_eq_iff_thousands`: removing the commas
from the text of a count gives its plain decimal text, and that text is the
only one with the right sign whose comma-separated groups are thousands
groups of the count's digits. It holds for every integer, so the magnitude of
the least 64-bit value needs no signed counterpart.

It rests on two facts about the cut. Taking three digits off the end of a
longer list takes one group off the grouped text (`groupDigits_append_three`),
so the grouped digits are thousands groups joined by commas
(`groupDigits_eq_intercalate`). And the lengths of thousands groups are fixed
by the number of digits, so digits are cut into them in one way only
(`ThousandsGroups.eq_of_flatten_eq`).
-/

namespace BackupRotation.Text

/-- Groups of digits as thousands separators lay them out: the first of one
to three digits, every later one of exactly three. -/
def ThousandsGroups : List (List Char) → Prop
  | [] => False
  | first :: rest => 1 ≤ first.length ∧ first.length ≤ 3 ∧ ∀ group ∈ rest, group.length = 3

/-! ### Grouping from the right -/

/-- The digit at an index of `count` digits, with the comma that goes before it. -/
def digitWithSeparator (count : Nat) (entry : Char × Nat) : List Char :=
  if entry.2 > 0 && (count - entry.2) % 3 == 0 then [',', entry.1] else [entry.1]

theorem groupDigits_eq_flatten (digits : List Char) :
    groupDigits digits = (digits.zipIdx.map (digitWithSeparator digits.length)).flatten := rfl

theorem groupDigits_of_length_le_three {digits : List Char} (short : digits.length ≤ 3) :
    groupDigits digits = digits := by
  -- no digit of a short list stands a positive multiple of three from its end
  have plain : ∀ entry ∈ digits.zipIdx, digitWithSeparator digits.length entry = [entry.1] := by
    rintro ⟨c, index⟩ inside
    have bound := (List.mem_zipIdx inside).2.1
    have apart : ¬ (0 < index ∧ (digits.length - index) % 3 = 0) := by omega
    simpa [digitWithSeparator] using apart
  rw [groupDigits_eq_flatten, List.map_congr_left plain, ← List.flatMap_def, ← List.map_eq_flatMap,
    List.zipIdx_map_fst]

/-- Three more digits at the end add one group behind a comma. -/
theorem groupDigits_append_three {front back : List Char} (nonempty : front ≠ []) (three : back.length = 3) :
    groupDigits (front ++ back) = groupDigits front ++ ',' :: back := by
  obtain ⟨x, y, z, rfl⟩ := List.length_eq_three.mp three
  have positive : 0 < front.length := List.length_pos_of_ne_nil nonempty
  rw [groupDigits_eq_flatten, groupDigits_eq_flatten, List.zipIdx_append, List.map_append,
    List.flatten_append, List.length_append]
  congr 1
  · -- three more digits behind keep the remainder of every distance from the end
    congr 1
    apply List.map_congr_left
    rintro ⟨c, index⟩ inside
    have bound := (List.mem_zipIdx inside).2.1
    have same : (front.length + [x, y, z].length - index) % 3 = (front.length - index) % 3 := by
      simp only [List.length_cons, List.length_nil] at bound ⊢
      omega
    simp only [digitWithSeparator, same]
  · -- of the three last digits only the first stands a multiple of three from the end
    simp [List.zipIdx_cons, digitWithSeparator, positive]

theorem intercalate_append_singleton {separator last : List Char} {groups : List (List Char)}
    (nonempty : groups ≠ []) :
    separator.intercalate (groups ++ [last]) = separator.intercalate groups ++ separator ++ last := by
  induction groups with
  | nil => exact absurd rfl nonempty
  | cons group rest ih =>
      cases rest with
      | nil => simp [List.intercalate_cons_cons]
      | cons next more =>
          rw [List.cons_append, List.cons_append, List.intercalate_cons_cons, ← List.cons_append,
            ih (List.cons_ne_nil _ _), List.intercalate_cons_cons]
          simp only [List.append_assoc]

theorem ThousandsGroups.append_three {groups : List (List Char)} {last : List Char}
    (layout : ThousandsGroups groups) (three : last.length = 3) : ThousandsGroups (groups ++ [last]) := by
  cases groups with
  | nil => exact layout.elim
  | cons first rest =>
      obtain ⟨long, short, full⟩ := layout
      refine ⟨long, short, fun group inside => ?_⟩
      rcases List.mem_append.mp inside with old | new
      · exact full group old
      · rw [List.mem_singleton.mp new, three]

/-- The grouped digits are the digits cut into thousands groups and joined
by commas. -/
theorem groupDigits_eq_intercalate {digits : List Char} (nonempty : digits ≠ []) :
    ∃ groups, ThousandsGroups groups ∧ groups.flatten = digits ∧ groupDigits digits = [','].intercalate groups := by
  -- strong induction on the number of digits, taking the last three off a longer list
  induction size : digits.length using Nat.strongRecOn generalizing digits with
  | _ count ih =>
      by_cases short : count ≤ 3
      · have positive : 0 < count := size ▸ List.length_pos_of_ne_nil nonempty
        refine ⟨[digits], ⟨by omega, by omega, by simp⟩, by simp, ?_⟩
        rw [groupDigits_of_length_le_three (by omega), List.intercalate_singleton]
      · have split : digits.take (count - 3) ++ digits.drop (count - 3) = digits := List.take_append_drop _ _
        have backLength : (digits.drop (count - 3)).length = 3 := by simp only [List.length_drop]; omega
        have frontLength : (digits.take (count - 3)).length = count - 3 := by simp only [List.length_take]; omega
        have frontNonempty : digits.take (count - 3) ≠ [] := List.ne_nil_of_length_pos (by omega)
        obtain ⟨groups, layout, flat, spelled⟩ := ih (count - 3) (by omega) frontNonempty frontLength
        have groupsNonempty : groups ≠ [] := by rintro rfl; exact layout
        refine ⟨groups ++ [digits.drop (count - 3)], layout.append_three backLength, by simp [flat, split], ?_⟩
        rw [← split, groupDigits_append_three frontNonempty backLength, spelled,
          intercalate_append_singleton groupsNonempty]
        simp

/-! ### One way to cut -/

/-- The length of each group is fixed by the number of digits. -/
theorem ThousandsGroups.map_length {groups : List (List Char)} (layout : ThousandsGroups groups) :
    groups.map List.length =
      ((groups.flatten.length + 2) % 3 + 1) :: List.replicate ((groups.flatten.length - 1) / 3) 3 := by
  cases groups with
  | nil => exact layout.elim
  | cons first rest =>
      obtain ⟨long, short, full⟩ := layout
      have lengths : rest.map List.length = List.replicate rest.length 3 :=
        List.eq_replicate_iff.mpr ⟨by simp, by simpa using full⟩
      have restLength : rest.flatten.length = 3 * rest.length := by
        rw [List.length_flatten, lengths, List.sum_replicate_nat, Nat.mul_comm]
      rw [List.map_cons, lengths, List.flatten_cons, List.length_append, restLength]
      congr 2 <;> omega

/-- Digits are cut into thousands groups in one way only. -/
theorem ThousandsGroups.eq_of_flatten_eq {groups others : List (List Char)} (layout : ThousandsGroups groups)
    (otherLayout : ThousandsGroups others) (same : groups.flatten = others.flatten) : groups = others :=
  List.eq_iff_flatten_eq.mpr ⟨same, by rw [layout.map_length, otherLayout.map_length, same]⟩

/-! ### Commas and digits -/

/-- Removing the commas from comma-free groups joined by commas runs the
groups together. -/
theorem filter_intercalate_comma {groups : List (List Char)} (plain : ∀ group ∈ groups, ',' ∉ group) :
    ([','].intercalate groups).filter (· ≠ ',') = groups.flatten := by
  induction groups with
  | nil => rfl
  | cons group rest ih =>
      have kept : group.filter (· ≠ ',') = group :=
        List.filter_eq_self.mpr fun c inside => by
          have : c ≠ ',' := fun same => plain group List.mem_cons_self (same ▸ inside)
          simpa using this
      cases rest with
      | nil => simpa using kept
      | cons next more =>
          rw [List.intercalate_cons_cons, List.filter_append, List.filter_append,
            ih fun other inside => plain other (List.mem_cons_of_mem _ inside), kept]
          simp

/-- The decimal digits of a number, cut into thousands groups. -/
theorem decimal_thousandsGroups (n : Nat) :
    ∃ groups, ThousandsGroups groups ∧ groups.flatten = (toString n).toList ∧
      (∀ group ∈ groups, ',' ∉ group) ∧ groupDigits (toString n).toList = [','].intercalate groups := by
  obtain ⟨groups, layout, flat, spelled⟩ := groupDigits_eq_intercalate (@Nat.toDigits_ne_nil n 10)
  refine ⟨groups, layout, by simpa [Nat.toList_repr] using flat, ?_, by simpa [Nat.toList_repr] using spelled⟩
  -- every character of a group is a decimal digit, and a comma is none
  intro group inside comma
  have digit : ','.isDigit = true :=
    Nat.isDigit_of_mem_toDigits (by decide) (by decide) (flat ▸ List.mem_flatten_of_mem inside comma)
  exact absurd digit (by decide)

/-- The grouped digits of a number are the one text whose commas, removed,
leave the digits, and whose comma-separated groups are thousands groups. -/
theorem groupDigits_decimal_eq_iff (n : Nat) (body : List Char) :
    groupDigits (toString n).toList = body ↔
      body.filter (· ≠ ',') = (toString n).toList ∧ ThousandsGroups (splitChars ',' body) := by
  obtain ⟨groups, layout, flat, plain, spelled⟩ := decimal_thousandsGroups n
  have groupsNonempty : groups ≠ [] := by rintro rfl; exact layout
  rw [spelled]
  constructor
  · rintro rfl
    have split : splitChars ',' ([','].intercalate groups) = groups :=
      splitChars_eq_iff |>.mpr ⟨groupsNonempty, plain, rfl⟩
    refine ⟨by rw [filter_intercalate_comma plain, flat], ?_⟩
    rw [split]
    exact layout
  · rintro ⟨digitsOnly, bodyLayout⟩
    obtain ⟨-, bodyPlain, joined⟩ := splitChars_eq_iff |>.mp (rfl : splitChars ',' body = _)
    -- both cuts run together to the same digits, so they are one cut
    have same : splitChars ',' body = groups := by
      refine bodyLayout.eq_of_flatten_eq layout ?_
      rw [← filter_intercalate_comma bodyPlain, ← joined, digitsOnly, flat]
    rw [joined, same]

/-! ### The text of a count -/

theorem toString_int_toList (value : Int) :
    (toString value).toList =
      if value < 0 then '-' :: (toString value.natAbs).toList else (toString value.natAbs).toList := by
  cases value <;> simp [toString, Int.repr]

theorem formatCount_toList_eq (value : Int) :
    (formatCount value).toList =
      if value < 0 then '-' :: groupDigits (toString value.natAbs).toList
      else groupDigits (toString value.natAbs).toList := by
  unfold formatCount
  split <;> simp

/-- A count is written as its sign and then its digits in thousands groups:
removing the commas gives the plain decimal text of the count, and the text
of a count is the one text with a minus sign exactly for a negative count,
followed by comma-separated groups of the digits of its magnitude, the first
of one to three digits and every later one of exactly three. -/
theorem formatCount_eq_iff_thousands (value : Int) :
    (formatCount value).toList.filter (· ≠ ',') = (toString value).toList ∧
      ∀ text : String, formatCount value = text ↔
        ∃ body, text.toList = (if value < 0 then '-' :: body else body) ∧
          body.filter (· ≠ ',') = (toString value.natAbs).toList ∧ ThousandsGroups (splitChars ',' body) := by
  obtain ⟨digitsOnly, -⟩ := (groupDigits_decimal_eq_iff value.natAbs _).mp rfl
  constructor
  · rw [formatCount_toList_eq, toString_int_toList]
    split
    · rw [List.filter_cons_of_pos (by decide), digitsOnly]
    · exact digitsOnly
  · intro text
    rw [← String.toList_inj, formatCount_toList_eq]
    constructor
    · intro spelled
      exact ⟨_, spelled.symm, (groupDigits_decimal_eq_iff value.natAbs _).mp rfl⟩
    · rintro ⟨body, spelled, grouped⟩
      rw [spelled, (groupDigits_decimal_eq_iff value.natAbs body).mpr grouped]

example : formatCount (-9223372036854775808) = "-9,223,372,036,854,775,808" := by decide

end BackupRotation.Text
