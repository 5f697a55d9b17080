import BackupRotation.Proofs.Classify
/-!
# The retention sweep on any input

`classify` sweeps its input from the newest end, but each flag depends on one
thing only: the cursor the sweep holds when it reaches the entry, which is
the oldest entry kept among those after it. Read from the oldest end, the
sweep is therefore a plain recursion on the list: the flag of the first
entry is its duplicate test against the oldest kept entry of the rest, and
that entry, or the first one when it is kept, is the oldest kept entry of
the whole (`classify_cons`, `oldestKept_cons`).

Everything below follows from these two equations by induction on the list,
with no assumption on the input: it need not be sorted, may repeat times, and
may mix offsets. Every flag has an entry, the newest entry and every entry
after the hourly cutoff are kept, a removed entry always has a kept entry
after it in its own bucket, and a kept entry before the hourly cutoff shares
no bucket with the next kept entry.
-/

namespace BackupRotation.Retention

open Calendar

/-- The cursor a sweep ends on. -/
def lastCursor (hourly daily : Stamp) : Stamp → List Stamp → Stamp
  | cursor, [] => cursor
  | cursor, candidate :: older =>
      lastCursor hourly daily (if duplicates hourly daily cursor candidate then cursor else candidate) older

/-- The oldest entry a classification keeps, none for an empty list: the
cursor the sweep holds when it reaches an entry placed before them all. -/
def oldestKept (hourly daily : Stamp) (times : List Stamp) : Option Stamp :=
  match times.reverse with
  | [] => none
  | newest :: older => some (lastCursor hourly daily newest older)

section Sweep

variable (hourly daily : Stamp)

/-- One more candidate at the old end of a sweep is tested against the
cursor the sweep ended on. -/
theorem sweep_append_singleton :
    ∀ (cursor : Stamp) (older : List Stamp) (entry : Stamp),
      sweep hourly daily cursor (older ++ [entry]) =
        sweep hourly daily cursor older ++ [duplicates hourly daily (lastCursor hourly daily cursor older) entry]
  | cursor, [], entry => rfl
  | cursor, candidate :: older, entry => by
      simp only [List.cons_append, sweep, lastCursor, List.cons.injEq, true_and]
      exact sweep_append_singleton _ older entry

theorem lastCursor_append_singleton :
    ∀ (cursor : Stamp) (older : List Stamp) (entry : Stamp),
      lastCursor hourly daily cursor (older ++ [entry]) =
        if duplicates hourly daily (lastCursor hourly daily cursor older) entry then
          lastCursor hourly daily cursor older
        else entry
  | cursor, [], entry => rfl
  | cursor, candidate :: older, entry => by
      simp only [List.cons_append, lastCursor]
      exact lastCursor_append_singleton _ older entry

/-- The flag of the oldest entry is its duplicate test against the oldest
kept entry after it; the flags after it do not depend on it. -/
theorem classify_cons (entry : Stamp) (later : List Stamp) :
    classify (entry :: later) hourly daily =
      (oldestKept hourly daily later).any (duplicates hourly daily · entry) :: classify later hourly daily := by
  unfold classify oldestKept
  rw [List.reverse_cons]
  cases later.reverse with
  | nil => rfl
  | cons newest older =>
      simp only [List.cons_append, sweep_append_singleton, List.reverse_cons, List.reverse_append,
        Option.any_some]
      simp

/-- The oldest entry is the oldest kept one unless it duplicates the oldest
kept entry after it. -/
theorem oldestKept_cons (entry : Stamp) (later : List Stamp) :
    oldestKept hourly daily (entry :: later) =
      if (oldestKept hourly daily later).any (duplicates hourly daily · entry) then
        oldestKept hourly daily later
      else some entry := by
  unfold oldestKept
  rw [List.reverse_cons]
  cases later.reverse with
  | nil => rfl
  | cons newest older =>
      simp only [List.cons_append, lastCursor_append_singleton, Option.any_some]
      split <;> rfl

/-- An entry after the hourly cutoff duplicates no cursor. -/
theorem duplicates_of_recent {cursor candidate : Stamp} (recent : hourly.instant < candidate.instant) :
    duplicates hourly daily cursor candidate = false := by
  simp [duplicates, recent]

theorem length_classify : ∀ times : List Stamp, (classify times hourly daily).length = times.length
  | [] => rfl
  | entry :: later => by
      rw [classify_cons, List.length_cons, List.length_cons, length_classify later]

/-- The newest entry is kept. -/
theorem getLast?_classify (times : List Stamp) :
    (classify times hourly daily).getLast? = times.getLast?.map fun _ => false := by
  unfold classify
  rw [← List.head?_reverse, ← List.head?_reverse]
  cases times.reverse with
  | nil => rfl
  | cons newest older => simp

theorem oldestKept_isSome {times : List Stamp} (nonempty : times ≠ []) :
    ∃ kept, oldestKept hourly daily times = some kept := by
  unfold oldestKept
  cases reversed : times.reverse with
  | nil => exact absurd (List.reverse_eq_nil_iff.mp reversed) nonempty
  | cons newest older => exact ⟨_, rfl⟩

/-- The oldest kept entry is kept, and every entry before it is removed. -/
theorem oldestKept_spec :
    ∀ {times : List Stamp} {kept : Stamp}, oldestKept hourly daily times = some kept →
      ∃ position : Nat, times[position]? = some kept ∧ (classify times hourly daily)[position]? = some false ∧
        ∀ earlier < position, (classify times hourly daily)[earlier]? = some true
  | [], kept, found => by simp [oldestKept] at found
  | entry :: later, kept, found => by
      rw [oldestKept_cons] at found
      cases duplicate : (oldestKept hourly daily later).any (duplicates hourly daily · entry) with
      | false =>
          -- the first entry is kept, so it is the oldest kept
          rw [duplicate] at found
          cases found
          exact ⟨0, rfl, by rw [classify_cons, duplicate]; rfl, fun _ none => absurd none (Nat.not_lt_zero _)⟩
      | true =>
          rw [duplicate] at found
          obtain ⟨position, at_, keptAt, before⟩ := oldestKept_spec found
          refine ⟨position + 1, at_, by rw [classify_cons]; exact keptAt, fun earlier below => ?_⟩
          rw [classify_cons]
          cases earlier with
          | zero => rw [duplicate]; rfl
          | succ earlier => exact before earlier (by omega)

/-- An entry kept with only removed entries before it is the oldest kept. -/
theorem oldestKept_eq_of_first {times : List Stamp} {position : Nat} {kept : Stamp}
    (at_ : times[position]? = some kept) (keptAt : (classify times hourly daily)[position]? = some false)
    (before : ∀ earlier < position, (classify times hourly daily)[earlier]? = some true) :
    oldestKept hourly daily times = some kept := by
  have nonempty : times ≠ [] := by
    rintro rfl
    simp at at_
  obtain ⟨oldest, found⟩ := oldestKept_isSome hourly daily nonempty
  obtain ⟨first, firstAt, firstKept, firstBefore⟩ := oldestKept_spec hourly daily found
  -- two kept entries, each with only removed entries before it, are one entry
  have same : first = position := by
    rcases Nat.lt_trichotomy first position with earlier | same | later
    · rw [before first earlier] at firstKept
      cases firstKept
    · exact same
    · rw [firstBefore position later] at keptAt
      cases keptAt
  rw [found, ← Option.some.injEq, ← firstAt, ← at_, same]

/-- An entry after the hourly cutoff is kept. -/
theorem classify_keeps_recent :
    ∀ (times : List Stamp) (position : Nat) (entry : Stamp), times[position]? = some entry →
      hourly.instant < entry.instant → (classify times hourly daily)[position]? = some false
  | [], _, _, at_, _ => by simp at at_
  | first :: later, 0, entry, at_, recent => by
      cases at_
      rw [classify_cons]
      cases oldestKept hourly daily later <;> simp [duplicates_of_recent hourly daily recent]
  | first :: later, position + 1, entry, at_, recent => by
      rw [classify_cons]
      exact classify_keeps_recent later position entry at_ recent

/-- A removed entry has a kept entry after it in its own bucket: the cursor it
was removed against. -/
theorem classify_removed_has_kept_in_bucket :
    ∀ (times : List Stamp) (position : Nat) (entry : Stamp), times[position]? = some entry →
      (classify times hourly daily)[position]? = some true →
      ∃ (kept : Nat) (keeper : Stamp), position < kept ∧ times[kept]? = some keeper ∧
        (classify times hourly daily)[kept]? = some false ∧ inBucket daily entry keeper = true
  | [], _, _, at_, _ => by simp at at_
  | first :: later, 0, entry, at_, removed => by
      cases at_
      rw [classify_cons] at removed
      cases found : oldestKept hourly daily later with
      | none =>
          rw [found] at removed
          cases removed
      | some keeper =>
          rw [found] at removed
          have duplicate : duplicates hourly daily keeper first = true := by simpa using removed
          obtain ⟨kept, keptAt, keptFlag, -⟩ := oldestKept_spec hourly daily found
          refine ⟨kept + 1, keeper, Nat.succ_pos kept, keptAt, ?_, ((duplicates_iff _ _ _ _).mp duplicate).2⟩
          rw [classify_cons]
          exact keptFlag
  | first :: later, position + 1, entry, at_, removed => by
      rw [classify_cons] at removed
      obtain ⟨kept, keeper, after, keptAt, keptFlag, inside⟩ :=
        classify_removed_has_kept_in_bucket later position entry at_ removed
      refine ⟨kept + 1, keeper, by omega, keptAt, ?_, inside⟩
      rw [classify_cons]
      exact keptFlag

/-- A kept entry not after the hourly cutoff shares no bucket with the next
kept entry: that entry was the cursor it was tested against. -/
theorem classify_next_kept_outside_bucket :
    ∀ (times : List Stamp) (position next : Nat) (first second : Stamp), position < next →
      times[position]? = some first → times[next]? = some second →
      (classify times hourly daily)[position]? = some false → (classify times hourly daily)[next]? = some false →
      (∀ between, position < between → between < next → (classify times hourly daily)[between]? = some true) →
      first.instant ≤ hourly.instant → inBucket daily first second = false
  | [], _, _, _, _, _, at_, _, _, _, _, _ => by simp at at_
  | _ :: _, _, 0, _, _, ordered, _, _, _, _, _, _ => absurd ordered (Nat.not_lt_zero _)
  | head :: later, 0, next + 1, first, second, _, at_, nextAt, kept, nextKept, between, old => by
      cases at_
      rw [classify_cons] at kept nextKept
      -- the next kept entry is the oldest kept entry after the first
      have cursor : oldestKept hourly daily later = some second := by
        refine oldestKept_eq_of_first hourly daily nextAt nextKept fun earlier below => ?_
        have removed := between (earlier + 1) (Nat.succ_pos earlier) (by omega)
        rw [classify_cons] at removed
        exact removed
      rw [cursor] at kept
      have fresh : duplicates hourly daily second head = false := by simpa using kept
      cases inside : inBucket daily head second
      · rfl
      · have duplicate := (duplicates_iff hourly daily second head).mpr ⟨old, inside⟩
        rw [fresh] at duplicate
        cases duplicate
  | head :: later, position + 1, next + 1, first, second, ordered, at_, nextAt, kept, nextKept, between, old => by
      rw [classify_cons] at kept nextKept
      refine classify_next_kept_outside_bucket later position next first second (by omega) at_ nextAt kept
        nextKept (fun inner above below => ?_) old
      have removed := between (inner + 1) (by omega) (by omega)
      rw [classify_cons] at removed
      exact removed

end Sweep

/-- What the sweep guarantees on any list of times, sorted or not: one flag
per entry; the newest entry kept; every entry after the hourly cutoff kept;
every removed entry with a kept entry after it in its bucket, its local day
when it is after the daily cutoff and its ISO week otherwise; and, between a
kept entry and the next kept one, no shared local day when the first lies
between the two cutoffs, and no shared ISO week when it is after neither. -/
theorem classify_guarantees_any_input (times : List Stamp) (hourly daily : Stamp) :
    (classify times hourly daily).length = times.length ∧
    (∀ last ∈ (classify times hourly daily).getLast?, last = false) ∧
    (∀ (position : Nat) (entry : Stamp), times[position]? = some entry →
      hourly.instant < entry.instant → (classify times hourly daily)[position]? = some false) ∧
    (∀ (position : Nat) (entry : Stamp), times[position]? = some entry →
      (classify times hourly daily)[position]? = some true →
      ∃ (kept : Nat) (keeper : Stamp), position < kept ∧ times[kept]? = some keeper ∧
        (classify times hourly daily)[kept]? = some false ∧ inBucket daily entry keeper = true) ∧
    (∀ (position next : Nat) (first second : Stamp), position < next →
      times[position]? = some first → times[next]? = some second →
      (classify times hourly daily)[position]? = some false → (classify times hourly daily)[next]? = some false →
      (∀ between, position < between → between < next → (classify times hourly daily)[between]? = some true) →
      (daily.instant < first.instant → first.instant ≤ hourly.instant → sameCalendarDay first second = false) ∧
      (first.instant ≤ daily.instant → first.instant ≤ hourly.instant → sameIsoWeek first second = false)) := by
  refine ⟨length_classify hourly daily times, fun last found => ?_, classify_keeps_recent hourly daily times,
    classify_removed_has_kept_in_bucket hourly daily times, ?_⟩
  · rw [getLast?_classify] at found
    simp only [Option.mem_def, Option.map_eq_some_iff] at found
    obtain ⟨_, -, rfl⟩ := found
    rfl
  · intro position next first second ordered at_ nextAt kept nextKept between
    constructor
    · intro late old
      have outside := classify_next_kept_outside_bucket hourly daily times position next first second ordered
        at_ nextAt kept nextKept between old
      simpa [inBucket, late] using outside
    · intro early old
      have outside := classify_next_kept_outside_bucket hourly daily times position next first second ordered
        at_ nextAt kept nextKept between old
      have notLate : ¬ daily.instant < first.instant := fun late => early late
      simpa [inBucket, notLate] using outside

/-- Monday 1 January 2024 at 11:00, 9:00 and 10:00 UTC, out of order. -/
def mondayShuffled : List Stamp := [⟨⟨1704106800, 0⟩, 0⟩, ⟨⟨1704099600, 0⟩, 0⟩, ⟨⟨1704103200, 0⟩, 0⟩]

/-- With both cutoffs far from Monday, the first entry, the latest in time,
is removed, and the entry kept in its day is the last one listed. -/
theorem classify_guarantees_any_input_shuffled :
    mondayShuffled[0]? = some ⟨⟨1704106800, 0⟩, 0⟩ ∧
    (classify mondayShuffled ⟨⟨1704153600, 0⟩, 0⟩ ⟨⟨1703980800, 0⟩, 0⟩)[0]? = some true ∧
    ∃ (kept : Nat) (keeper : Stamp), 0 < kept ∧ mondayShuffled[kept]? = some keeper ∧
      (classify mondayShuffled ⟨⟨1704153600, 0⟩, 0⟩ ⟨⟨1703980800, 0⟩, 0⟩)[kept]? = some false ∧
      inBucket ⟨⟨1703980800, 0⟩, 0⟩ ⟨⟨1704106800, 0⟩, 0⟩ keeper = true :=
  ⟨rfl, by decide,
    (classify_guarantees_any_input mondayShuffled _ _).2.2.2.1 0 _ rfl (by decide)⟩

/-- Monday 1 January 2024 at 10:00 and 11:00 UTC. -/
def mondayMorning : List Stamp := [⟨⟨1704103200, 0⟩, 0⟩, ⟨⟨1704106800, 0⟩, 0⟩]

/-- With the daily cutoff after the hourly one, which the sweep's callers
never pass, two entries between the cutoffs are both kept although both are
at or before the daily cutoff and share an ISO week. -/
theorem classify_inverted_cutoffs_keep_week_twice :
    classify mondayMorning ⟨⟨1704067200, 0⟩, 0⟩ ⟨⟨1704153600, 0⟩, 0⟩ = [false, false] ∧
    (∀ entry ∈ mondayMorning, entry.instant ≤ (⟨⟨1704153600, 0⟩, 0⟩ : Stamp).instant) ∧
    sameIsoWeek ⟨⟨1704103200, 0⟩, 0⟩ ⟨⟨1704106800, 0⟩, 0⟩ = true := by
  decide

end BackupRotation.Retention
