import BackupRotation.Calendar.Span
import BackupRotation.Calendar.Zone
import BackupRotation.Failure
/-!
# Retention policies

A policy is two lengths of time: `keepHourly`, how long every snapshot is
kept, and `keepDaily`, how long one snapshot per day is kept. A policy is
accepted when `keepHourly` is at least a day, `keepDaily` at least two days,
and `keepDaily` longer than `keepHourly`; these bounds make the daily window
a real extension of the hourly one.

The cutoffs of a policy at a moment `now` are the two instants that far in
the past. They exist for every `now` a snapshot can carry; only absurd
policies pushed to the edge of the calendar fail to produce them.
-/

namespace BackupRotation.Retention

open Calendar

/-- Fewest hours `keepHourly` may span. -/
def minKeepHourlyHours : Int := 24

/-- Fewest hours `keepDaily` may span. -/
def minKeepDailyHours : Int := 48

/-- A validated retention policy. -/
structure Policy where
  keepHourly : Span
  keepDaily : Span
deriving DecidableEq, Repr

/-- Nanoseconds in an hour. -/
def nanosPerHour : Int := 3600 * 1000000000

/-- Check the three bounds, in order, and build the policy. -/
def Policy.make (keepHourly keepDaily : Span) : Outcome Policy :=
  if keepHourly.nanos < minKeepHourlyHours * nanosPerHour then
    .error (.invalidRetention "keepHourly" keepHourly.render
      ("must be at least " ++ toString minKeepHourlyHours ++ " hours"))
  else if keepDaily.nanos < minKeepDailyHours * nanosPerHour then
    .error (.invalidRetention "keepDaily" keepDaily.render
      ("must be at least " ++ toString minKeepDailyHours ++ " hours"))
  else if keepDaily.nanos ≤ keepHourly.nanos then
    .error (.invalidRetention "keepDaily" keepDaily.render
      ("must be longer than keepHourly (" ++ keepHourly.render ++ ")"))
  else .ok { keepHourly := keepHourly, keepDaily := keepDaily }

/-- The hourly and daily cutoffs at `now`, shown in the zone; `none` when
either leaves the calendar. -/
def Policy.cutoffs (policy : Policy) (zone : Zone) (now : Stamp) : Option (Stamp × Stamp) := do
  let hourly ← now.instant.minusSpan? policy.keepHourly
  let daily ← now.instant.minusSpan? policy.keepDaily
  pure (zone.stamp hourly, zone.stamp daily)

end BackupRotation.Retention
