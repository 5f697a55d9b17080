import BackupRotation.Schedule
/-!
# The pause between daemon runs

The loop of `nextHourIn` raises a wake-up time an hour at a time until it
reaches the end of the run plus the minimum pause. Its run lemma
(`raiseWake_eq`) says that the loop stops after the least number of added
hours that reaches its goal, and that no sum on the way passes the longest
duration as long as that final wake-up time does not.

That least number is a ceiling, `wakeHours`: the least whole number of
hours, one at least, that reaches the end of the run plus 31 minutes. The main
statement (`nextHourIn_least_whole_hours`) says that whenever `elapsed` plus
91 minutes is a duration, the pause is exactly `wakeHours elapsed` hours
minus `elapsed`, so it lies between 31 and 91 minutes and the next run starts
a whole number of hours after the previous one started.
-/

namespace BackupRotation

/-- The hours from the start of a run to the start of the next: the least
whole number of hours, one at least, that reaches the end of the run plus the
minimum pause. -/
def wakeHours (elapsed : Nat) : Nat :=
  max 1 ((elapsed + minimumPauseNanos + hourNanos - 1) / hourNanos)

theorem one_le_wakeHours (elapsed : Nat) : 1 ≤ wakeHours elapsed := Nat.le_max_left _ _

theorem le_wakeHours_mul (elapsed : Nat) : elapsed + minimumPauseNanos ≤ wakeHours elapsed * hourNanos := by
  have hour := hourNanos_pos
  -- the ceiling: write the rounded-up numerator as quotient and remainder
  have split := Nat.div_add_mod (elapsed + minimumPauseNanos + hourNanos - 1) hourNanos
  have remainder := Nat.mod_lt (elapsed + minimumPauseNanos + hourNanos - 1) hour
  have raise : (elapsed + minimumPauseNanos + hourNanos - 1) / hourNanos * hourNanos ≤
      wakeHours elapsed * hourNanos :=
    Nat.mul_le_mul_right _ (Nat.le_max_right _ _)
  rw [Nat.mul_comm] at split
  omega

theorem wakeHours_le {elapsed hours : Nat} (positive : 1 ≤ hours)
    (enough : elapsed + minimumPauseNanos ≤ hours * hourNanos) : wakeHours elapsed ≤ hours := by
  have hour := hourNanos_pos
  have ceiling : (elapsed + minimumPauseNanos + hourNanos - 1) / hourNanos < hours + 1 := by
    rw [Nat.div_lt_iff_lt_mul hour, Nat.add_mul, Nat.one_mul]
    omega
  exact Nat.max_le.mpr ⟨positive, by omega⟩

theorem wakeHours_mul_lt (elapsed : Nat) :
    wakeHours elapsed * hourNanos < elapsed + minimumPauseNanos + hourNanos := by
  have pause : 0 < minimumPauseNanos := by decide
  -- one hour less would not reach the goal, unless a single hour already does
  rcases Nat.lt_or_ge 1 (wakeHours elapsed) with more | single
  · obtain ⟨fewer, same⟩ : ∃ fewer, wakeHours elapsed = fewer + 1 := ⟨wakeHours elapsed - 1, by omega⟩
    have short : ¬ elapsed + minimumPauseNanos ≤ fewer * hourNanos := fun enough =>
      absurd (wakeHours_le (by omega) enough) (by omega)
    rw [same, Nat.add_mul, Nat.one_mul]
    omega
  · have one : wakeHours elapsed = 1 := Nat.le_antisymm single (one_le_wakeHours elapsed)
    rw [one, Nat.one_mul]
    omega

/-- The loop stops after the least number of added hours that reaches
`needed`, as long as that wake-up time is a duration: every earlier sum is
smaller, so none of them passes the longest duration either. -/
theorem raiseWake_eq {needed wake hours : Nat} (enough : needed ≤ wake + hours * hourNanos)
    (least : ∀ other, needed ≤ wake + other * hourNanos → hours ≤ other)
    (fits : wake + hours * hourNanos ≤ durationLimit) :
    raiseWake needed wake = some (wake + hours * hourNanos) := by
  -- induction along the loop: each turn adds one hour and needs one hour fewer
  fun_induction raiseWake needed wake generalizing hours with
  | case1 wake short room ih =>
      obtain ⟨fewer, rfl⟩ : ∃ fewer, hours = fewer + 1 := by
        cases hours with
        | zero => exact absurd enough (by omega)
        | succ fewer => exact ⟨fewer, rfl⟩
      have same : wake + (fewer + 1) * hourNanos = wake + hourNanos + fewer * hourNanos := by
        rw [Nat.add_mul, Nat.one_mul]
        omega
      rw [same] at enough fits ⊢
      refine ih enough (fun other reaches => ?_) fits
      have := least (other + 1) (by rw [Nat.add_mul, Nat.one_mul]; omega)
      omega
  | case2 wake short overflow =>
      have : 1 ≤ hours := by
        cases hours with
        | zero => exact absurd enough (by omega)
        | succ => omega
      have : hourNanos ≤ hours * hourNanos := Nat.le_mul_of_pos_left _ this
      omega
  | case3 wake reached =>
      have none : hours = 0 := Nat.le_zero.mp (least 0 (by omega))
      rw [none, Nat.zero_mul, Nat.add_zero]

/-- Where `elapsed` plus the minimum pause and one more hour is a duration,
the pause is `wakeHours elapsed` hours less `elapsed`. -/
theorem nextHourIn_eq {elapsed : Nat} (fits : elapsed + minimumPauseNanos + hourNanos ≤ durationLimit) :
    nextHourIn elapsed = some (wakeHours elapsed * hourNanos - elapsed) := by
  have positive := one_le_wakeHours elapsed
  have enough := le_wakeHours_mul elapsed
  have below := wakeHours_mul_lt elapsed
  -- the loop starts at one hour, so it adds one hour fewer than `wakeHours`
  have start : hourNanos + (wakeHours elapsed - 1) * hourNanos = wakeHours elapsed * hourNanos := by
    rw [Nat.sub_mul, Nat.one_mul]
    have : hourNanos ≤ wakeHours elapsed * hourNanos := Nat.le_mul_of_pos_left _ positive
    omega
  have loop : raiseWake (elapsed + minimumPauseNanos) hourNanos = some (wakeHours elapsed * hourNanos) := by
    rw [← start]
    refine raiseWake_eq (by omega) (fun other reaches => ?_) (by omega)
    have bound : elapsed + minimumPauseNanos ≤ (other + 1) * hourNanos := by
      rw [Nat.add_mul, Nat.one_mul]
      omega
    have := wakeHours_le (Nat.le_add_left 1 other) bound
    omega
  unfold nextHourIn
  rw [if_pos (by omega), loop, Option.map_some]

/-- The daemon's pause, for every run whose length plus 91 minutes is a
duration: it is `hours` hours less the run's length, for the least `hours` of
at least one whose hours reach the run's length plus 31 minutes. So it lasts
at least 31 and less than 91 minutes, and the next run starts a positive
whole number of hours after the previous one started. -/
theorem nextHourIn_least_whole_hours (elapsed : Nat)
    (fits : elapsed + minimumPauseNanos + hourNanos ≤ durationLimit) :
    ∃ hours, 1 ≤ hours ∧ elapsed + minimumPauseNanos ≤ hours * hourNanos ∧
      (∀ other, 1 ≤ other → elapsed + minimumPauseNanos ≤ other * hourNanos → hours ≤ other) ∧
      nextHourIn elapsed = some (hours * hourNanos - elapsed) ∧
      minimumPauseNanos ≤ hours * hourNanos - elapsed ∧
      hours * hourNanos - elapsed < minimumPauseNanos + hourNanos ∧
      elapsed + (hours * hourNanos - elapsed) = hours * hourNanos := by
  have enough := le_wakeHours_mul elapsed
  have below := wakeHours_mul_lt elapsed
  refine ⟨wakeHours elapsed, one_le_wakeHours elapsed, enough, fun _ => wakeHours_le,
    nextHourIn_eq fits, ?_, ?_, ?_⟩ <;> omega

/-- A run of half an hour waits an hour and a half. -/
theorem nextHourIn_least_whole_hours_halfHour :
    1800000000000 + minimumPauseNanos + hourNanos ≤ durationLimit ∧
      ∃ hours, 1 ≤ hours ∧ 1800000000000 + minimumPauseNanos ≤ hours * hourNanos ∧
        (∀ other, 1 ≤ other → 1800000000000 + minimumPauseNanos ≤ other * hourNanos → hours ≤ other) ∧
        nextHourIn 1800000000000 = some (hours * hourNanos - 1800000000000) ∧
        minimumPauseNanos ≤ hours * hourNanos - 1800000000000 ∧
        hours * hourNanos - 1800000000000 < minimumPauseNanos + hourNanos ∧
        1800000000000 + (hours * hourNanos - 1800000000000) = hours * hourNanos :=
  ⟨by decide, nextHourIn_least_whole_hours _ (by decide)⟩

end BackupRotation
