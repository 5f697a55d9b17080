/-!
# Waiting for the next hour

In daemon mode a snapshot is taken every hour. After a run that took
`elapsed`, the pause is found by a loop: it starts from one hour and adds
an hour at a time while less than `elapsed` plus 31 minutes has been
reached, then subtracts `elapsed`. The next run so starts a whole number of
hours after the previous one started, and at least 31 minutes after that
one ended.

Durations are counted in nanoseconds. A duration holds whole seconds in 64
bits and nanoseconds below a second, so none exceeds `durationLimit`; a sum
that passes it panics, which is `none` here.
-/

namespace BackupRotation

/-- One hour in nanoseconds. -/
def hourNanos : Nat := 3600 * 1000000000

/-- The shortest pause after a run, in nanoseconds: 31 minutes. -/
def minimumPauseNanos : Nat := 1860 * 1000000000

/-- The longest duration, in nanoseconds: `2^64 - 1` seconds and
999,999,999 nanoseconds. -/
def durationLimit : Nat := 18446744073709551615 * 1000000000 + 999999999

/-- What the standard library panics with when a sum of durations passes
the longest one. -/
def durationOverflow : String := "overflow when adding durations"

theorem hourNanos_pos : 0 < hourNanos := by decide

/-- The loop of the pause: while `wake` is short of `needed`, add an hour. -/
def raiseWake (needed wake : Nat) : Option Nat :=
  if wake < needed then
    if wake + hourNanos ≤ durationLimit then raiseWake needed (wake + hourNanos) else none
  else some wake
termination_by needed - wake
decreasing_by
  have := hourNanos_pos
  omega

/-- The pause after a run that took `elapsed` nanoseconds. The loop ends at
or past `elapsed` plus the minimum pause, so the subtraction is exact. -/
def nextHourIn (elapsed : Nat) : Option Nat :=
  let needed := elapsed + minimumPauseNanos
  if needed ≤ durationLimit then (raiseWake needed hourNanos).map (· - elapsed) else none

end BackupRotation
