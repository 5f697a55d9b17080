import BackupRotation.Calendar.Instant
/-!
# Signed spans of time

A `Span` is a signed length of time counted in nanoseconds. Spans are
bounded: their magnitude never exceeds `2^63 - 1` milliseconds, the range of
a signed 64-bit millisecond count. Constructors that could leave the range
return `none` instead.

Subtracting a span from an instant follows the wall-clock rules of the time
library the retention policy was specified against: a leap second is left as
soon as the span moves by a whole second, and the result must stay within the
representable dates.
-/

namespace BackupRotation.Calendar

/-- Largest magnitude of a span, in nanoseconds: `2^63 - 1` milliseconds. -/
def spanLimit : Int := 9223372036854775807 * 1000000

/-- Bounds of a signed 64-bit integer. -/
def int64Min : Int := -9223372036854775808

/-- Upper bound of a signed 64-bit integer. -/
def int64Max : Int := 9223372036854775807

/-- Whether an integer fits a signed 64-bit integer. -/
def fitsInt64 (value : Int) : Bool := int64Min ≤ value && value ≤ int64Max

/-- A signed length of time in nanoseconds, within `± spanLimit`. -/
structure Span where
  nanos : Int
deriving DecidableEq, Repr, Inhabited

namespace Span

instance : LT Span := ⟨fun first second => first.nanos < second.nanos⟩

instance (first second : Span) : Decidable (first < second) :=
  inferInstanceAs (Decidable (first.nanos < second.nanos))

instance : LE Span := ⟨fun first second => first.nanos ≤ second.nanos⟩

instance (first second : Span) : Decidable (first ≤ second) :=
  inferInstanceAs (Decidable (first.nanos ≤ second.nanos))

/-- A span of the given nanoseconds, if it lies in range. -/
def ofNanos? (nanos : Int) : Option Span :=
  if -spanLimit ≤ nanos && nanos ≤ spanLimit then some ⟨nanos⟩ else none

/-- A span of whole seconds plus a sub-second part below one second. -/
def ofParts? (seconds : Int) (nanos : Nat) : Option Span :=
  if nanos < nanosPerSecond then ofNanos? (seconds * nanosPerSecond + nanos) else none

/-- A span of whole seconds, if in range. -/
def ofSeconds? (seconds : Int) : Option Span := ofParts? seconds 0

/-- A span of whole hours. The hour count times 3600 must itself fit a
64-bit integer before the range is checked. -/
def ofHours? (hours : Int) : Option Span :=
  if fitsInt64 (hours * 3600) then ofSeconds? (hours * 3600) else none

/-- A span of whole days, with the same two checks as `ofHours?`. -/
def ofDays? (days : Int) : Option Span :=
  if fitsInt64 (days * 86400) then ofSeconds? (days * 86400) else none

/-- Whole seconds of the span, rounded toward zero. -/
def wholeSeconds (span : Span) : Int := span.nanos.tdiv nanosPerSecond

/-- The sub-second remainder, carrying the sign of the span. -/
def subsecNanos (span : Span) : Int := span.nanos.tmod nanosPerSecond

/-- Whether the span is shorter than zero. -/
def isNegative (span : Span) : Bool := span.nanos < 0

end Span

/-- Append a count and its unit to a rendering, separated from what came
before by one space; zero counts are left out. -/
private def appendUnit (parts : List String) (count : Nat) (unit : String) (plural : Bool) :
    List String :=
  if count = 0 then parts
  else parts ++ [toString count ++ unit ++ (if plural && count > 1 then "s" else "")]

/-- Human rendering of a non-negative duration: years of 365.25 days, months
of 30.44 days, days, then `h`, `m`, `s`, `ms`, `us` and `ns`, leaving out zero
parts and writing `0s` for nothing at all. -/
def renderDuration (seconds : Nat) (nanos : Nat) : String :=
  if seconds = 0 && nanos = 0 then "0s"
  else
    let years := seconds / 31557600
    let yearRest := seconds % 31557600
    let months := yearRest / 2630016
    let monthRest := yearRest % 2630016
    let days := monthRest / 86400
    let daySeconds := monthRest % 86400
    let parts := appendUnit [] years "year" true
    let parts := appendUnit parts months "month" true
    let parts := appendUnit parts days "day" true
    let parts := appendUnit parts (daySeconds / 3600) "h" false
    let parts := appendUnit parts (daySeconds % 3600 / 60) "m" false
    let parts := appendUnit parts (daySeconds % 60) "s" false
    let parts := appendUnit parts (nanos / 1000000) "ms" false
    let parts := appendUnit parts (nanos / 1000 % 1000) "us" false
    let parts := appendUnit parts (nanos % 1000) "ns" false
    " ".intercalate parts

/-- Rendering of a span as the retention settings show it: the human
rendering for a span of zero or more, and whole seconds rounded toward zero
followed by `s` for a negative span. -/
def Span.render (span : Span) : String :=
  if span.nanos < 0 then toString span.wholeSeconds ++ "s"
  else renderDuration (span.nanos / nanosPerSecond).toNat (span.nanos % nanosPerSecond).toNat

/-- The instant a span before the given one, or `none` when the result leaves
the representable dates. The time of day is moved first, keeping a leap
second only while the span stays within it; whole days carried out of the
time of day then move the date. -/
def Instant.minusSpan? (instant : Instant) (span : Span) : Option Instant :=
  let day := instant.seconds / secondsPerDay
  let timeOfDay := instant.seconds % secondsPerDay
  let step : Span := ⟨-span.nanos⟩
  let addSeconds := step.wholeSeconds
  let addNanos := step.subsecNanos
  let frac : Int := instant.nanos
  let shifted : Option (Int × Int) :=
    if frac ≥ nanosPerSecond then
      if addSeconds > 0 || (addNanos > 0 && frac ≥ 2 * nanosPerSecond - addNanos) then
        some (timeOfDay, frac - nanosPerSecond)
      else if addSeconds < 0 then
        some (timeOfDay + 1, frac - nanosPerSecond)
      else
        none
    else
      some (timeOfDay, frac)
  match shifted with
  | none =>
      some { seconds := instant.seconds, nanos := (frac + addNanos).toNat }
  | some (seconds, frac) =>
      let seconds := seconds + addSeconds
      let frac := frac + addNanos
      let (seconds, frac) :=
        if frac < 0 then (seconds - 1, frac + nanosPerSecond)
        else if frac ≥ nanosPerSecond then (seconds + 1, frac - nanosPerSecond)
        else (seconds, frac)
      let secondOfDay := seconds % secondsPerDay
      let carried := seconds - secondOfDay
      if carried.natAbs > 9223372036854775 then none
      else
        let newDay := day + carried / secondsPerDay
        if dayInRange newDay then
          some { seconds := newDay * secondsPerDay + secondOfDay, nanos := frac.toNat }
        else none

end BackupRotation.Calendar
