import BackupRotation.Retention.Policy
import BackupRotation.Proofs.Civil
/-!
# Cutoffs move with the clock

Subtracting a span from an instant that is not a leap second is exact: the
result is the nanosecond count of the instant less the span, and is itself
not a leap second. The cutoffs of a policy are two such subtractions, so they
move forward whenever `now` does, as long as neither `now` is a leap second.

During a leap second the time library treats the instant as the first second
of the next day for a backward step of whole seconds, so its cutoffs lie
later than those of the instant right after it.
-/

namespace BackupRotation.Calendar

/-- An instant as a count of nanoseconds since the epoch; exact away from
leap seconds. -/
def Instant.totalNanos (instant : Instant) : Int :=
  instant.seconds * nanosPerSecond + instant.nanos

/-- Away from leap seconds instants are ordered by their nanosecond counts. -/
theorem Instant.le_iff_totalNanos {first second : Instant}
    (firstRegular : first.nanos < nanosPerSecond) (secondRegular : second.nanos < nanosPerSecond) :
    first ≤ second ↔ first.totalNanos ≤ second.totalNanos := by
  rw [Instant.le_iff]
  simp only [Instant.totalNanos, nanosPerSecond] at *
  constructor
  · intro before
    omega
  · intro before
    omega

/-- The last step of a subtraction: the whole days carried out of the time of
day move the date, and the instant is the new day plus the time of day. -/
theorem carryDays_eq_some {day seconds frac : Int} {result : Instant}
    (carried : (if (seconds - seconds % 86400).natAbs > 9223372036854775 then none
      else if dayInRange (day + (seconds - seconds % 86400) / 86400) = true then
        some { seconds := (day + (seconds - seconds % 86400) / 86400) * 86400 + seconds % 86400,
               nanos := frac.toNat }
      else none) = some result) :
    result.seconds = day * 86400 + seconds ∧ result.nanos = frac.toNat := by
  split at carried
  · cases carried
  · split at carried
    · obtain ⟨rfl⟩ := Option.some.inj carried
      constructor
      · simp only
        omega
      · rfl
    · cases carried

/-- Subtracting a span from an instant that is not a leap second subtracts
its nanoseconds exactly and lands on an instant that is not one either. -/
theorem Instant.totalNanos_minusSpan {instant result : Instant} {span : Span}
    (regular : instant.nanos < nanosPerSecond) (moved : instant.minusSpan? span = some result) :
    result.nanos < nanosPerSecond ∧ result.totalNanos = instant.totalNanos - span.nanos := by
  have positive : (0 : Int) < nanosPerSecond := by decide
  have whole := Int.tmod_add_tdiv_mul (-span.nanos) nanosPerSecond
  have low := Int.lt_tmod_of_pos (-span.nanos) positive
  have high := Int.tmod_lt_of_pos (-span.nanos) positive
  unfold Instant.minusSpan? at moved
  simp only [Span.wholeSeconds, Span.subsecNanos,
    show ¬ ((instant.nanos : Int) ≥ nanosPerSecond) by omega, ↓reduceIte] at moved
  unfold secondsPerDay at moved
  unfold Instant.totalNanos
  -- the three ways of normalising the nanoseconds: borrow a second, carry one, or neither
  by_cases borrow : (instant.nanos : Int) + (-span.nanos).tmod nanosPerSecond < 0
  · simp only [borrow, ↓reduceIte] at moved
    obtain ⟨seconds, nanos⟩ := carryDays_eq_some moved
    simp only [nanosPerSecond] at *
    omega
  · by_cases carry : (instant.nanos : Int) + (-span.nanos).tmod nanosPerSecond ≥ nanosPerSecond
    · simp only [borrow, carry, ↓reduceIte] at moved
      obtain ⟨seconds, nanos⟩ := carryDays_eq_some moved
      simp only [nanosPerSecond] at *
      omega
    · simp only [borrow, carry, ↓reduceIte] at moved
      obtain ⟨seconds, nanos⟩ := carryDays_eq_some moved
      simp only [nanosPerSecond] at *
      omega

end BackupRotation.Calendar

namespace BackupRotation.Retention

open Calendar

/-- The cutoffs of a policy are the two spans subtracted from `now`. -/
theorem Policy.minusSpan_of_cutoffs {policy : Policy} {zone : Zone} {now hourly daily : Stamp}
    (cut : policy.cutoffs zone now = some (hourly, daily)) :
    now.instant.minusSpan? policy.keepHourly = some hourly.instant ∧
      now.instant.minusSpan? policy.keepDaily = some daily.instant := by
  simp only [Policy.cutoffs, Option.bind_eq_bind, Option.bind_eq_some_iff, Option.pure_def,
    Option.some.injEq, Prod.mk.injEq] at cut
  obtain ⟨hourlyInstant, hourlyMoved, dailyInstant, dailyMoved, rfl, rfl⟩ := cut
  exact ⟨hourlyMoved, dailyMoved⟩

/-- Subtracting one span from two instants away from leap seconds keeps their
order. -/
theorem minusSpan_le_minusSpan {now laterNow moved laterMoved : Instant} {span : Span}
    (regular : now.nanos < nanosPerSecond) (laterRegular : laterNow.nanos < nanosPerSecond)
    (before : now ≤ laterNow) (cut : now.minusSpan? span = some moved)
    (laterCut : laterNow.minusSpan? span = some laterMoved) :
    moved ≤ laterMoved := by
  obtain ⟨movedRegular, movedNanos⟩ := Instant.totalNanos_minusSpan regular cut
  obtain ⟨laterMovedRegular, laterMovedNanos⟩ := Instant.totalNanos_minusSpan laterRegular laterCut
  rw [Instant.le_iff_totalNanos regular laterRegular] at before
  rw [Instant.le_iff_totalNanos movedRegular laterMovedRegular]
  omega

/-- Away from leap seconds the cutoffs of a policy move forward with `now`. -/
theorem Policy.cutoffs_mono (policy : Policy) (zone : Zone) {now laterNow : Stamp}
    {hourly daily laterHourly laterDaily : Stamp}
    (regular : now.instant.nanos < nanosPerSecond)
    (laterRegular : laterNow.instant.nanos < nanosPerSecond)
    (before : now.instant ≤ laterNow.instant)
    (cut : policy.cutoffs zone now = some (hourly, daily))
    (laterCut : policy.cutoffs zone laterNow = some (laterHourly, laterDaily)) :
    hourly.instant ≤ laterHourly.instant ∧ daily.instant ≤ laterDaily.instant := by
  obtain ⟨hourlyCut, dailyCut⟩ := Policy.minusSpan_of_cutoffs cut
  obtain ⟨laterHourlyCut, laterDailyCut⟩ := Policy.minusSpan_of_cutoffs laterCut
  exact ⟨minusSpan_le_minusSpan regular laterRegular before hourlyCut laterHourlyCut,
    minusSpan_le_minusSpan regular laterRegular before dailyCut laterDailyCut⟩

end BackupRotation.Retention
