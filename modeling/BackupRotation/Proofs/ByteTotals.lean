import Mathlib
import BackupRotation.Report.Console
import BackupRotation.Report.Status
/-!
# Byte totals and 64-bit counts

Byte counts are unsigned 64-bit numbers, as `du` reports them. The console
and the status text print them through `formatCount` after a cast to a
signed 64-bit integer, and the difference in a byte-total line is taken
between the cast values, wrapping like machine arithmetic. A count from
`2^63` on therefore prints as a negative number.

This file says exactly when the printed numbers are the counts themselves
(`counts_print_exactly_iff`): a byte-total line shows its two counts and their
difference exactly, and the status text shows every count exactly, if and
only if each count is below `2^63`. Below that bound the difference cannot
wrap either.

The step is `formatCount_wrap_append_iff`: text that goes on with a count
printed after the cast agrees with text that goes on with the count printed
exactly if and only if the count is below `2^63` and what follows agrees. A
cast count from `2^63` on is negative, so its text starts with `-` where
the exact text starts with a digit.
-/

namespace BackupRotation.Report

open Text

/-! ### Casting a count -/

theorem wrapToInt64_of_lt {count : Nat} (small : count < 2 ^ 63) : wrapToInt64 count = count := by
  have low : count % 18446744073709551616 = count := Nat.mod_eq_of_lt (by omega)
  simp only [wrapToInt64, low]
  rw [if_neg (by omega)]

theorem wrapToInt64_neg {count : Nat} (big : 2 ^ 63 ≤ count) (fits : count < 2 ^ 64) : wrapToInt64 count < 0 := by
  have low : count % 18446744073709551616 = count := Nat.mod_eq_of_lt (by omega)
  simp only [wrapToInt64, low]
  rw [if_pos (by omega)]
  omega

/-- Between counts below `2^63` the wrapping difference is the difference. -/
theorem wrapDifference_of_lt {minuend subtrahend : Nat} (smallMinuend : minuend < 2 ^ 63)
    (smallSubtrahend : subtrahend < 2 ^ 63) :
    wrapDifference minuend subtrahend = (minuend - subtrahend : Int) := by
  simp only [wrapDifference, wrapToInt64]
  split <;> omega

/-! ### Printing a count -/

/-- Grouping keeps the first digit in front. -/
theorem groupDigits_cons (first : Char) (rest : List Char) :
    ∃ grouped, groupDigits (first :: rest) = first :: grouped := by
  simp only [groupDigits, List.zipIdx_cons, List.map_cons, List.flatten_cons]
  exact ⟨_, rfl⟩

/-- The text of a count starts with `-` exactly when the count is negative. -/
theorem formatCount_toList (value : Int) :
    ∃ first rest, (formatCount value).toList = first :: rest ∧ (first = '-' ↔ value < 0) := by
  unfold formatCount
  split
  · rename_i negative
    have minus : "-".toList = ['-'] := by decide
    exact ⟨'-', _, by rw [String.toList_append, minus, List.singleton_append], iff_of_true rfl negative⟩
  · rename_i nonnegative
    -- the decimal digits of the magnitude: at least one, and each a digit
    obtain ⟨first, rest, digits⟩ := List.exists_cons_of_ne_nil
      (@Nat.toDigits_ne_nil value.natAbs 10)
    have isDigit : first.isDigit = true :=
      Nat.isDigit_of_mem_toDigits (by decide) (by decide) (digits ▸ List.mem_cons_self)
    obtain ⟨grouped, front⟩ := groupDigits_cons first rest
    refine ⟨first, grouped, by simp [Nat.toList_repr, digits, front], iff_of_false ?_ nonnegative⟩
    rintro rfl
    exact absurd isDigit (by decide)

/-- Text that goes on with a count printed after the cast agrees with text
that goes on with the count printed exactly just when the count is below
`2^63` and the rest agrees. -/
theorem formatCount_wrap_append_iff {count : Nat} (fits : count < 2 ^ 64) (rest other : List Char) :
    (formatCount (wrapToInt64 count)).toList ++ rest = (formatCount count).toList ++ other ↔
      count < 2 ^ 63 ∧ rest = other := by
  by_cases small : count < 2 ^ 63
  · rw [wrapToInt64_of_lt small, List.append_cancel_left_eq]
    exact ⟨fun same => ⟨small, same⟩, And.right⟩
  · -- the cast count is negative, so one text starts with `-` and the other does not
    obtain ⟨first, tail, cast, castSign⟩ := formatCount_toList (wrapToInt64 count)
    obtain ⟨first', tail', exact, exactSign⟩ := formatCount_toList count
    have minus : first = '-' := castSign.mpr (wrapToInt64_neg (by omega) fits)
    have notMinus : first' ≠ '-' := fun same => by have := exactSign.mp same; omega
    simp only [small, false_and, iff_false, cast, exact, List.cons_append, List.cons.injEq, not_and]
    intro same
    exact absurd (same ▸ minus) notMinus

/-! ### Byte-total lines -/

/-- A console that is not quiet tells lines apart. -/
theorem Console.line_inj (console : Console) (loud : console.verbosity ≠ .quiet) {text other : String} :
    console.line text = console.line other ↔ text = other := by
  have written : console.written ++ text ++ "\n" = console.written ++ other ++ "\n" ↔ text = other := by
    simp [← String.toList_inj, String.toList_append]
  simp [Console.line, loud, written]

theorem Console.lines_eq_iff {text other : String} :
    (∀ console : Console, console.line text = console.line other) ↔ text = other :=
  ⟨fun same => (Console.line_inj (Console.empty .normal) (by decide)).mp (same _), fun equal _ => equal ▸ rfl⟩

/-- A byte-total line with both counts and the difference printed exactly. -/
def exactTotalsLine (before after : Nat) (label : String) (difference : Int) : String :=
  "  Before: " ++ formatCount before ++ " After: " ++ formatCount after ++ " " ++ label ++ ": " ++
    formatCount difference ++ " bytes"

/-- A byte-total line shows its counts exactly just when both are below
`2^63`, given that the difference it prints is exact for such counts. -/
theorem Console.byteTotals_exact_iff {before after : Nat} (fitsBefore : before < 2 ^ 64)
    (fitsAfter : after < 2 ^ 64) (label : String) {printed difference : Int}
    (agree : before < 2 ^ 63 → after < 2 ^ 63 → printed = difference) :
    (∀ console : Console, console.byteTotals before after label printed =
        console.line (exactTotalsLine before after label difference)) ↔
      before < 2 ^ 63 ∧ after < 2 ^ 63 := by
  unfold Console.byteTotals exactTotalsLine
  rw [Console.lines_eq_iff, ← String.toList_inj]
  simp only [String.toList_append, List.append_assoc, List.append_cancel_left_eq,
    formatCount_wrap_append_iff fitsBefore, formatCount_wrap_append_iff fitsAfter]
  constructor
  · rintro ⟨small, smallAfter, -⟩
    exact ⟨small, smallAfter⟩
  · rintro ⟨small, smallAfter⟩
    exact ⟨small, smallAfter, by rw [agree small smallAfter]⟩

theorem Console.recovered_exact_iff {before after : Nat} (fitsBefore : before < 2 ^ 64)
    (fitsAfter : after < 2 ^ 64) :
    (∀ console : Console, console.recovered before after =
        console.line (exactTotalsLine before after "Total Recovered" (before - after))) ↔
      before < 2 ^ 63 ∧ after < 2 ^ 63 :=
  Console.byteTotals_exact_iff fitsBefore fitsAfter _ fun small smallAfter => by
    rw [wrapToInt64_of_lt small, wrapToInt64_of_lt smallAfter, wrapDifference_of_lt small smallAfter]

theorem Console.used_exact_iff {before after : Nat} (fitsBefore : before < 2 ^ 64)
    (fitsAfter : after < 2 ^ 64) :
    (∀ console : Console, console.used before after =
        console.line (exactTotalsLine before after "Used" (after - before))) ↔
      before < 2 ^ 63 ∧ after < 2 ^ 63 :=
  Console.byteTotals_exact_iff fitsBefore fitsAfter _ fun small smallAfter => by
    rw [wrapToInt64_of_lt small, wrapToInt64_of_lt smallAfter, wrapDifference_of_lt smallAfter small]

/-! ### The status text -/

/-- The status text with every count printed exactly. -/
def exactStatusText (report : StatusReport) : String :=
  "Backup Sets: " ++ formatCount report.backupSets ++ "\n" ++
    "Total Bytes: " ++ formatCount report.totalBytes ++ "\n\n" ++
    String.join (report.snapshots.map fun size => size.name ++ ": " ++ formatCount size.bytes ++ "\n")

/-- The lines of the snapshots show their sizes exactly just when each size
is below `2^63`. -/
theorem snapshotLines_exact_iff {sizes : List SnapshotSize} (fits : ∀ size ∈ sizes, size.bytes < 2 ^ 64) :
    String.join (sizes.map fun size => size.name ++ ": " ++ formatCount (wrapToInt64 size.bytes) ++ "\n") =
        String.join (sizes.map fun size => size.name ++ ": " ++ formatCount size.bytes ++ "\n") ↔
      ∀ size ∈ sizes, size.bytes < 2 ^ 63 := by
  induction sizes with
  | nil => simp
  | cons size sizes ih =>
      have later := ih fun other inside => fits other (List.mem_cons_of_mem _ inside)
      rw [← String.toList_inj] at later ⊢
      simp only [List.map_cons, String.join_cons, String.toList_append, List.append_assoc,
        List.append_cancel_left_eq, formatCount_wrap_append_iff (fits size List.mem_cons_self), later,
        List.forall_mem_cons]

theorem StatusReport.text_exact_iff {report : StatusReport} (fitsSets : report.backupSets < 2 ^ 64)
    (fitsTotal : report.totalBytes < 2 ^ 64) (fitsSizes : ∀ size ∈ report.snapshots, size.bytes < 2 ^ 64) :
    report.text = exactStatusText report ↔
      report.backupSets < 2 ^ 63 ∧ report.totalBytes < 2 ^ 63 ∧ ∀ size ∈ report.snapshots, size.bytes < 2 ^ 63 := by
  have sizes := snapshotLines_exact_iff fitsSizes
  rw [← String.toList_inj] at sizes
  unfold StatusReport.text exactStatusText
  rw [← String.toList_inj]
  simp only [String.toList_append, List.append_assoc, List.append_cancel_left_eq,
    formatCount_wrap_append_iff fitsSets, formatCount_wrap_append_iff fitsTotal, sizes]

/-! ### Every count at once -/

/-- The byte-total lines of the console and the status text show every
count exactly, the difference included, if and only if each count is below
`2^63`; a larger count prints negative. -/
theorem counts_print_exactly_iff (before after : Nat) (fitsBefore : before < 2 ^ 64) (fitsAfter : after < 2 ^ 64)
    (report : StatusReport) (fitsSets : report.backupSets < 2 ^ 64) (fitsTotal : report.totalBytes < 2 ^ 64)
    (fitsSizes : ∀ size ∈ report.snapshots, size.bytes < 2 ^ 64) :
    ((∀ console : Console, console.recovered before after =
        console.line (exactTotalsLine before after "Total Recovered" (before - after))) ↔
      before < 2 ^ 63 ∧ after < 2 ^ 63) ∧
    ((∀ console : Console, console.used before after =
        console.line (exactTotalsLine before after "Used" (after - before))) ↔
      before < 2 ^ 63 ∧ after < 2 ^ 63) ∧
    (report.text = exactStatusText report ↔
      report.backupSets < 2 ^ 63 ∧ report.totalBytes < 2 ^ 63 ∧ ∀ size ∈ report.snapshots, size.bytes < 2 ^ 63) :=
  ⟨Console.recovered_exact_iff fitsBefore fitsAfter, Console.used_exact_iff fitsBefore fitsAfter,
    StatusReport.text_exact_iff fitsSets fitsTotal fitsSizes⟩

/-- The figures of an ordinary run print exactly. -/
theorem recovered_exact_ordinaryRun :
    (Console.empty .normal).recovered 5000000 1250000 =
      (Console.empty .normal).line
        (exactTotalsLine 5000000 1250000 "Total Recovered" ((5000000 : Nat) - (1250000 : Nat) : Int)) :=
  (counts_print_exactly_iff 5000000 1250000 (by decide) (by decide) ⟨"/b", 1, 0, []⟩ (by decide) (by decide)
    (by simp)).1.mpr ⟨by decide, by decide⟩ (Console.empty .normal)

/-- Two counts of `2^63` bytes print as negative numbers, where the exact
line would show them as they are. -/
theorem recovered_twoPow63_prints_negative :
    ((Console.empty .normal).recovered 9223372036854775808 9223372036854775808).written =
        "  Before: -9,223,372,036,854,775,808 After: -9,223,372,036,854,775,808 Total Recovered: 0 bytes\n" ∧
      ((Console.empty .normal).line
          (exactTotalsLine 9223372036854775808 9223372036854775808 "Total Recovered" 0)).written =
        "  Before: 9,223,372,036,854,775,808 After: 9,223,372,036,854,775,808 Total Recovered: 0 bytes\n" := by
  constructor <;> decide

end BackupRotation.Report
