import BackupRotation.Retention.Classify
import BackupRotation.Proofs.Civil
/-!
# The retention sweep against its specification

`classify` decides removals in one pass from the newest snapshot back, looking
only at a cursor on the last snapshot it kept. The rule it implements is
stated without any cursor: a snapshot goes when it is not after the hourly
cutoff and some later snapshot lies in its bucket, the local calendar day when
it is after the daily cutoff and the ISO week otherwise.

The two agree on every list of times that is chronological, with instants
ascending and local dates never going back. The proof keeps one invariant of
the sweep, `CursorInvariant`: every snapshot already met is no older than the
cursor or was removed as a duplicate of it. Since calendar days and ISO weeks
are intervals of the day line (`Proofs.Civil`), a later snapshot in the bucket
of a candidate forces the cursor into that bucket too.
-/

namespace BackupRotation.Retention

open Calendar

/-- Two stamps show the same local calendar day exactly when their day
numbers agree. -/
theorem sameCalendarDay_iff (first second : Stamp) :
    sameCalendarDay first second = true ↔ first.dayNumber = second.dayNumber := by
  unfold sameCalendarDay
  rw [Stamp.date_eq first, Stamp.date_eq second, ← civilFromDays_sameDay_iff]
  simp

/-- Two stamps fall in the same ISO week exactly when their day numbers lie in
the same Monday-to-Sunday week. -/
theorem sameIsoWeek_iff (first second : Stamp) :
    sameIsoWeek first second = true ↔ weekIndex first.dayNumber = weekIndex second.dayNumber := by
  unfold sameIsoWeek
  rw [Stamp.date_eq first, Stamp.date_eq second, ← isoWeek_civilFromDays_eq_iff]
  simp

/-- Times in the order a target lists its snapshots once their names are read:
instants ascending and local dates never going back. -/
def Chronological (times : List Stamp) : Prop :=
  times.Pairwise fun earlier later =>
    earlier.instant ≤ later.instant ∧ earlier.dayNumber ≤ later.dayNumber

instance (times : List Stamp) : Decidable (Chronological times) :=
  inferInstanceAs (Decidable (times.Pairwise _))

/-- Whether `other` lies in the retention bucket of `entry`: its local calendar
day when `entry` is after the daily cutoff, its ISO week otherwise. -/
def inBucket (daily entry other : Stamp) : Bool :=
  if daily.instant < entry.instant then sameCalendarDay entry other else sameIsoWeek entry other

/-- Whether the retention rule removes `entry`, given the entries after it: it
is not after the hourly cutoff and a later entry lies in its bucket. -/
def redundant (hourly daily entry : Stamp) (later : List Stamp) : Bool :=
  decide (entry.instant ≤ hourly.instant) && later.any (inBucket daily entry)

/-- The removal flags the retention rule asks for, oldest entry first. -/
def redundancyFlags (hourly daily : Stamp) : List Stamp → List Bool
  | [] => []
  | entry :: later => redundant hourly daily entry later :: redundancyFlags hourly daily later

/-- The flags of the entries `older`, met newest first after the entries
`seen`. -/
def redundancyFlagsAfter (hourly daily : Stamp) : List Stamp → List Stamp → List Bool
  | _, [] => []
  | seen, candidate :: older =>
      redundant hourly daily candidate seen :: redundancyFlagsAfter hourly daily (candidate :: seen) older

/-- A bucket, read as arithmetic on day numbers. -/
theorem inBucket_iff (daily entry other : Stamp) :
    inBucket daily entry other = true ↔
      (daily.instant < entry.instant ∧ entry.dayNumber = other.dayNumber) ∨
        (entry.instant ≤ daily.instant ∧
          weekIndex entry.dayNumber = weekIndex other.dayNumber) := by
  unfold inBucket
  by_cases after : daily.instant < entry.instant
  · have notBefore : ¬ entry.instant ≤ daily.instant := fun before => before after
    simp [after, notBefore, sameCalendarDay_iff]
  · have before : entry.instant ≤ daily.instant := after
    simp [after, before, sameIsoWeek_iff]

/-- The duplicate test of the sweep is the bucket test read from the
candidate: the cursor duplicates it when it lies in the candidate's bucket. -/
theorem duplicates_iff (hourly daily cursor candidate : Stamp) :
    duplicates hourly daily cursor candidate = true ↔
      candidate.instant ≤ hourly.instant ∧ inBucket daily candidate cursor = true := by
  unfold duplicates inBucket
  by_cases recent : hourly.instant < candidate.instant
  · have notOld : ¬ candidate.instant ≤ hourly.instant := fun old => old recent
    simp [recent, notOld]
  · have old : candidate.instant ≤ hourly.instant := recent
    by_cases late : daily.instant < candidate.instant
    · simp only [recent, late, ↓reduceIte, sameCalendarDay_iff, old, true_and]
      exact eq_comm
    · simp only [recent, late, ↓reduceIte, sameIsoWeek_iff, old, true_and]
      exact eq_comm

/-- What the sweep keeps true of its cursor: the cursor is among the entries
met, and each entry met is no older than the cursor, in instant and in local
date, or was removed as its duplicate. -/
def CursorInvariant (hourly daily cursor : Stamp) (seen : List Stamp) : Prop :=
  cursor ∈ seen ∧ ∀ entry ∈ seen,
    (cursor.instant ≤ entry.instant ∧ cursor.dayNumber ≤ entry.dayNumber) ∨
      duplicates hourly daily cursor entry = true

/-- The sweep's test on a candidate older than everything met agrees with the
rule: the cursor duplicates the candidate exactly when some entry met lies in
the candidate's bucket. -/
theorem duplicates_eq_redundant {hourly daily cursor candidate : Stamp} {seen : List Stamp}
    (invariant : CursorInvariant hourly daily cursor seen)
    (oldest : ∀ entry ∈ seen,
      candidate.instant ≤ entry.instant ∧ candidate.dayNumber ≤ entry.dayNumber) :
    duplicates hourly daily cursor candidate = redundant hourly daily candidate seen := by
  obtain ⟨cursorSeen, seenEntries⟩ := invariant
  apply Bool.eq_iff_iff.mpr
  rw [duplicates_iff]
  simp only [redundant, Bool.and_eq_true, decide_eq_true_eq, List.any_eq_true]
  constructor
  · rintro ⟨old, bucket⟩
    exact ⟨old, cursor, cursorSeen, bucket⟩
  · rintro ⟨old, entry, entrySeen, bucket⟩
    refine ⟨old, ?_⟩
    have cursorLater := oldest cursor cursorSeen
    have entryLater := oldest entry entrySeen
    rw [inBucket_iff] at bucket ⊢
    rcases seenEntries entry entrySeen with between | duplicate
    · -- the cursor lies between the candidate and the entry, so in their bucket
      simp only [weekIndex, Instant.le_iff, Instant.lt_iff] at between cursorLater entryLater bucket ⊢
      omega
    · -- the entry went as a duplicate of the cursor, so its bucket holds the cursor
      rw [duplicates_iff, inBucket_iff] at duplicate
      simp only [weekIndex, Instant.le_iff, Instant.lt_iff] at duplicate cursorLater entryLater bucket ⊢
      omega

/-- One step of the sweep keeps the invariant: a removed candidate joins the
duplicates of the cursor, a kept one becomes the cursor, no older than any
entry met. -/
theorem cursorInvariant_step {hourly daily cursor candidate : Stamp} {seen : List Stamp}
    (invariant : CursorInvariant hourly daily cursor seen)
    (oldest : ∀ entry ∈ seen,
      candidate.instant ≤ entry.instant ∧ candidate.dayNumber ≤ entry.dayNumber) :
    CursorInvariant hourly daily
      (if duplicates hourly daily cursor candidate then cursor else candidate) (candidate :: seen) := by
  obtain ⟨cursorSeen, seenEntries⟩ := invariant
  by_cases duplicate : duplicates hourly daily cursor candidate = true
  · rw [if_pos duplicate]
    refine ⟨List.mem_cons_of_mem _ cursorSeen, ?_⟩
    intro entry entrySeen
    rcases List.mem_cons.mp entrySeen with rfl | entrySeen
    · exact Or.inr duplicate
    · exact seenEntries entry entrySeen
  · rw [if_neg duplicate]
    refine ⟨List.mem_cons_self, ?_⟩
    intro entry entrySeen
    rcases List.mem_cons.mp entrySeen with rfl | entrySeen
    · exact Or.inl ⟨by simp [Instant.le_iff], Int.le_refl _⟩
    · exact Or.inl (oldest entry entrySeen)

/-- On chronological times the sweep from a cursor that keeps the invariant
computes the flags of the rule. -/
theorem sweep_eq_redundancyFlagsAfter (hourly daily : Stamp) (older : List Stamp) :
    ∀ (cursor : Stamp) (seen : List Stamp), CursorInvariant hourly daily cursor seen →
      Chronological (older.reverse ++ seen) →
      sweep hourly daily cursor older = redundancyFlagsAfter hourly daily seen older := by
  induction older with
  | nil => intro _ _ _ _; rfl
  | cons candidate older ih =>
      intro cursor seen invariant chronological
      rw [List.reverse_cons, List.append_assoc, List.singleton_append] at chronological
      have oldest : ∀ entry ∈ seen,
          candidate.instant ≤ entry.instant ∧ candidate.dayNumber ≤ entry.dayNumber :=
        (List.pairwise_cons.mp (List.pairwise_append.mp chronological).2.1).1
      simp only [sweep, redundancyFlagsAfter]
      rw [ih _ _ (cursorInvariant_step invariant oldest) chronological,
        duplicates_eq_redundant invariant oldest]

/-- The flags of a list split into entries met newest first and the entries
after them. -/
theorem redundancyFlags_reverse_append (hourly daily : Stamp) (older : List Stamp) :
    ∀ seen : List Stamp, redundancyFlags hourly daily (older.reverse ++ seen) =
      (redundancyFlagsAfter hourly daily seen older).reverse ++ redundancyFlags hourly daily seen := by
  induction older with
  | nil => intro seen; rfl
  | cons candidate older ih =>
      intro seen
      rw [List.reverse_cons, List.append_assoc, List.singleton_append, ih]
      simp [redundancyFlagsAfter, redundancyFlags]

/-- On chronological times the one-pass classifier computes exactly the
removal flags of the rule. -/
theorem classify_eq_redundancyFlags (times : List Stamp) (hourly daily : Stamp)
    (chronological : Chronological times) :
    classify times hourly daily = redundancyFlags hourly daily times := by
  unfold classify
  cases reversed : times.reverse with
  | nil =>
      rw [List.reverse_eq_nil_iff] at reversed
      subst reversed
      rfl
  | cons newest older =>
      have split : times = older.reverse ++ [newest] := by
        rw [← List.reverse_reverse times, reversed, List.reverse_cons]
      rw [split] at chronological ⊢
      have start : CursorInvariant hourly daily newest [newest] :=
        ⟨List.mem_singleton_self newest, fun entry entrySeen => by
          rw [List.mem_singleton.mp entrySeen]
          exact Or.inl ⟨by simp [Instant.le_iff], Int.le_refl _⟩⟩
      dsimp only
      rw [redundancyFlags_reverse_append, sweep_eq_redundancyFlagsAfter hourly daily older newest [newest]
        start chronological]
      simp [redundancyFlags, redundant]

/-- The rule gives one flag per entry. -/
theorem length_redundancyFlags (hourly daily : Stamp) (times : List Stamp) :
    (redundancyFlags hourly daily times).length = times.length := by
  induction times with
  | nil => rfl
  | cons entry later ih => simp [redundancyFlags, ih]

/-- The flag of an entry looks at the entries after it. -/
theorem getElem?_redundancyFlags (hourly daily : Stamp) (times : List Stamp) (index : Nat)
    (inside : index < times.length) :
    (redundancyFlags hourly daily times)[index]? =
      some (redundant hourly daily times[index] (times.drop (index + 1))) := by
  induction times generalizing index with
  | nil => simp at inside
  | cons entry later ih =>
      cases index with
      | zero => simp [redundancyFlags]
      | succ index => simp [redundancyFlags, ih index (by simpa using inside)]

/-- The rule removes an entry not after the hourly cutoff that has a later
entry in its bucket. -/
theorem redundant_iff (hourly daily entry : Stamp) (later : List Stamp) :
    redundant hourly daily entry later = true ↔
      entry.instant ≤ hourly.instant ∧ ∃ other ∈ later, inBucket daily entry other = true := by
  simp [redundant]

/-- On chronological times, `classify` flags an entry for removal exactly when
it is not after the hourly cutoff and some later entry lies in its bucket: the
same local calendar day when it is after the daily cutoff, the same ISO week
otherwise. -/
theorem classify_removes_iff_later_in_bucket (times : List Stamp) (hourly daily : Stamp)
    (chronological : Chronological times) :
    (classify times hourly daily).length = times.length ∧
      ∀ (index : Nat) (inside : index < times.length),
        ((classify times hourly daily)[index]? = some true ↔
          times[index].instant ≤ hourly.instant ∧
            ∃ (later : Nat) (within : later < times.length),
              index < later ∧ inBucket daily times[index] times[later] = true) := by
  rw [classify_eq_redundancyFlags times hourly daily chronological]
  refine ⟨length_redundancyFlags hourly daily times, fun index inside => ?_⟩
  rw [getElem?_redundancyFlags hourly daily times index inside, Option.some.injEq, redundant_iff]
  apply and_congr_right
  intro _
  constructor
  · rintro ⟨other, otherLater, bucket⟩
    obtain ⟨offset, within, rfl⟩ := List.mem_drop_iff_getElem.mp otherLater
    exact ⟨index + 1 + offset, by omega, by omega, bucket⟩
  · rintro ⟨later, within, after, bucket⟩
    refine ⟨times[later], List.mem_drop_iff_getElem.mpr ⟨later - (index + 1), by omega, ?_⟩, bucket⟩
    congr 1
    omega

/-- The example of the source's documentation: two snapshots of 1 January 2024
and one of 3 January, before an hourly cutoff at the start of 2 January. -/
def documentedTimes : List Stamp :=
  [⟨⟨1704099600, 0⟩, 0⟩, ⟨⟨1704132000, 0⟩, 0⟩, ⟨⟨1704272400, 0⟩, 0⟩]

/-- The documented times are chronological, so the rule applies to them. -/
theorem classify_documentedTimes :
    Chronological documentedTimes ∧
      ((classify documentedTimes ⟨⟨1704153600, 0⟩, 0⟩ ⟨⟨1701388800, 0⟩, 0⟩).length =
          documentedTimes.length ∧
        ∀ (index : Nat) (inside : index < documentedTimes.length),
          ((classify documentedTimes ⟨⟨1704153600, 0⟩, 0⟩ ⟨⟨1701388800, 0⟩, 0⟩)[index]? = some true ↔
            documentedTimes[index].instant ≤ (⟨1704153600, 0⟩ : Instant) ∧
              ∃ (later : Nat) (within : later < documentedTimes.length),
                index < later ∧
                  inBucket ⟨⟨1701388800, 0⟩, 0⟩ documentedTimes[index] documentedTimes[later] = true)) :=
  have chronological : Chronological documentedTimes := by decide
  ⟨chronological, classify_removes_iff_later_in_bucket documentedTimes _ _ chronological⟩

end BackupRotation.Retention
