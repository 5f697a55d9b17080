import BackupRotation.Calendar.Civil
/-!
# Instants and wall-clock readings

An `Instant` is a point on the UTC time line: whole Unix seconds plus a
nanosecond part. The nanosecond part may reach up to two seconds, but only on
the last second of a minute: that is how an inserted leap second is written,
so that `23:59:59` followed by `1.5 s` of nanoseconds reads as `23:59:60.5`.
Ordering is lexicographic on the pair, which puts the leap second after the
second it extends and before the next minute.

A `WallTime` is what a clock on the wall shows: a date, the second of the
day and the nanoseconds, with no zone attached. A `Stamp` is an instant
together with the offset at which it is read; two stamps of the same instant
may show different wall times.
-/

namespace BackupRotation.Calendar

/-- Seconds in one day. -/
def secondsPerDay : Int := 86400

/-- Nanoseconds in one second. -/
def nanosPerSecond : Nat := 1000000000

/-- A point in time: Unix seconds (floor) and nanoseconds. The nanoseconds
lie below `2 * nanosPerSecond`; values of one second or more mark a leap
second. -/
structure Instant where
  seconds : Int
  nanos : Nat
deriving DecidableEq, Repr, Inhabited

namespace Instant

/-- Strict order of instants: seconds first, then nanoseconds. -/
def before (first second : Instant) : Bool :=
  first.seconds < second.seconds ||
    (first.seconds == second.seconds && first.nanos < second.nanos)

instance : LT Instant := ⟨fun first second => before first second = true⟩

instance (first second : Instant) : Decidable (first < second) :=
  inferInstanceAs (Decidable (before first second = true))

instance : LE Instant := ⟨fun first second => ¬ second < first⟩

instance (first second : Instant) : Decidable (first ≤ second) :=
  inferInstanceAs (Decidable (¬ second < first))

end Instant

/-- A wall-clock reading without a zone: a date, the second of that day
(0 to 86399) and the nanoseconds, which exceed one second during a leap
second. -/
structure WallTime where
  date : Date
  second : Nat
  nanos : Nat
deriving DecidableEq, Repr, Inhabited

namespace WallTime

/-- Hour of the day. -/
def hour (wall : WallTime) : Nat := wall.second / 3600

/-- Minute of the hour. -/
def minute (wall : WallTime) : Nat := wall.second % 3600 / 60

/-- Second of the minute as a clock shows it: 60 during a leap second. -/
def secondOfMinute (wall : WallTime) : Nat :=
  wall.second % 60 + wall.nanos / nanosPerSecond

/-- Seconds since the epoch of the reading taken as if it were UTC, the
nanoseconds dropped. -/
def epochSeconds (wall : WallTime) : Int :=
  daysFromCivil wall.date * secondsPerDay + wall.second

/-- The wall time shown at an instant by a clock set `offset` seconds east
of UTC. -/
def ofInstant (instant : Instant) (offset : Int) : WallTime :=
  let shifted := instant.seconds + offset
  { date := civilFromDays (shifted / secondsPerDay)
    second := (shifted % secondsPerDay).toNat
    nanos := instant.nanos }

/-- The instant at which a clock set `offset` seconds east of UTC shows the
reading. -/
def toInstant (wall : WallTime) (offset : Int) : Instant :=
  { seconds := wall.epochSeconds - offset, nanos := wall.nanos }

end WallTime

/-- An instant together with the UTC offset, in seconds east, at which it is
displayed. Comparisons look at the instant only. -/
structure Stamp where
  instant : Instant
  offset : Int
deriving DecidableEq, Repr, Inhabited

namespace Stamp

/-- The wall time the stamp shows. -/
def wall (stamp : Stamp) : WallTime := WallTime.ofInstant stamp.instant stamp.offset

/-- The local date the stamp shows. -/
def date (stamp : Stamp) : Date := stamp.wall.date

end Stamp

/-- Earliest date a time value may have: January 1st of year -262143. -/
def minDate : Date := { year := -262143, month := 1, day := 1 }

/-- Latest date a time value may have: December 31st of year 262142. -/
def maxDate : Date := { year := 262142, month := 12, day := 31 }

/-- Whether a day count lies within the representable dates. -/
def dayInRange (days : Int) : Bool :=
  daysFromCivil minDate ≤ days && days ≤ daysFromCivil maxDate

/-- Build an instant from Unix seconds and nanoseconds, refusing dates out of
range and leap nanoseconds anywhere but on the last second of a minute. -/
def Instant.ofUnix? (seconds : Int) (nanos : Nat) : Option Instant :=
  if nanos < 2 * nanosPerSecond && dayInRange (seconds / secondsPerDay) &&
      (nanos < nanosPerSecond || seconds % 60 == 59) then
    some { seconds := seconds, nanos := nanos }
  else
    none

end BackupRotation.Calendar
