/-!
# Civil calendar arithmetic

Dates of the proleptic Gregorian calendar, counted in days from
1970-01-01. Everything here is integer arithmetic with floor division, so the
same formulas serve years before the epoch and years with a minus sign.

The module supplies what snapshot names and the retention rules read from a
date: the day count, the ordinal day of the year, the weekday and the ISO
week. It knows nothing about time zones; a date is always a local date that
some other module has already computed.
-/

namespace BackupRotation.Calendar

/-- A date of the proleptic Gregorian calendar. The month runs from 1 to 12
and the day from 1 to the length of the month. -/
structure Date where
  year : Int
  month : Nat
  day : Nat
deriving DecidableEq, Repr, Inhabited

/-- Gregorian leap years: every fourth year, except centuries not divisible
by four hundred. -/
def isLeapYear (year : Int) : Bool :=
  (year % 4 == 0 && year % 100 != 0) || year % 400 == 0

/-- Number of days of a month; February follows the leap rule. -/
def monthLength (year : Int) (month : Nat) : Nat :=
  match month with
  | 1 => 31 | 2 => if isLeapYear year then 29 else 28 | 3 => 31 | 4 => 30
  | 5 => 31 | 6 => 30 | 7 => 31 | 8 => 31 | 9 => 30 | 10 => 31 | 11 => 30
  | _ => 31

/-- Whether year, month and day name a real date. -/
def Date.isValid (date : Date) : Bool :=
  1 ≤ date.month && date.month ≤ 12 && 1 ≤ date.day &&
    date.day ≤ monthLength date.year date.month

/-- Days from 1970-01-01 to the date. The year is shifted to start in March,
so that the leap day is the last day of the shifted year and the month
lengths follow the five-month pattern `(153 * m + 2) / 5`. -/
def daysFromCivil (date : Date) : Int :=
  let shifted : Int := if date.month ≤ 2 then date.year - 1 else date.year
  let era := shifted / 400
  let yearOfEra := shifted - era * 400
  let marchMonth : Int := ((date.month : Int) + 9) % 12
  let dayOfYear := (153 * marchMonth + 2) / 5 + (date.day : Int) - 1
  let dayOfEra := yearOfEra * 365 + yearOfEra / 4 - yearOfEra / 100 + dayOfYear
  era * 146097 + dayOfEra - 719468

/-- The date that lies the given number of days after 1970-01-01; the inverse
of `daysFromCivil` on valid dates. -/
def civilFromDays (days : Int) : Date :=
  let shifted := days + 719468
  let era := shifted / 146097
  let dayOfEra := shifted - era * 146097
  let yearOfEra := (dayOfEra - dayOfEra / 1460 + dayOfEra / 36524 - dayOfEra / 146096) / 365
  let dayOfYear := dayOfEra - (365 * yearOfEra + yearOfEra / 4 - yearOfEra / 100)
  let marchMonth := (5 * dayOfYear + 2) / 153
  let day := dayOfYear - (153 * marchMonth + 2) / 5 + 1
  let month := if marchMonth < 10 then marchMonth + 3 else marchMonth - 9
  let year := yearOfEra + era * 400
  { year := if month ≤ 2 then year + 1 else year, month := month.toNat, day := day.toNat }

/-- Day of the week of a day count, Monday being 0 and Sunday 6.
1970-01-01 was a Thursday. -/
def weekdayFromMonday (days : Int) : Nat :=
  ((days + 3) % 7).toNat

/-- Day of the week of a day count, Sunday being 0 and Saturday 6. -/
def weekdayFromSunday (days : Int) : Nat :=
  ((days + 4) % 7).toNat

/-- Position of the date within its year, 1 for January 1st. -/
def Date.ordinal (date : Date) : Nat :=
  (daysFromCivil date - daysFromCivil { year := date.year, month := 1, day := 1 } + 1).toNat

/-- An ISO 8601 week: the year it belongs to and its number, 1 to 53. -/
structure IsoWeek where
  year : Int
  week : Nat
deriving DecidableEq, Repr

/-- Number of ISO weeks of a year: 53 when January 1st is a Thursday, or a
Wednesday of a leap year, and 52 otherwise. -/
def isoWeeksInYear (year : Int) : Nat :=
  let firstDay := weekdayFromMonday (daysFromCivil { year := year, month := 1, day := 1 })
  if firstDay == 3 || (firstDay == 2 && isLeapYear year) then 53 else 52

/-- The ISO week of a date. Weeks start on Monday and week 1 is the week
holding the year's first Thursday, so the first and last days of a year can
belong to the neighbouring ISO year. -/
def Date.isoWeek (date : Date) : IsoWeek :=
  let weekday : Int := weekdayFromMonday (daysFromCivil date) + 1
  let week : Int := ((date.ordinal : Int) - weekday + 10) / 7
  if week < 1 then
    { year := date.year - 1, week := isoWeeksInYear (date.year - 1) }
  else if week > isoWeeksInYear date.year then
    { year := date.year + 1, week := 1 }
  else
    { year := date.year, week := week.toNat }

/-- Full English weekday names, Monday first. -/
def weekdayNames : List String :=
  ["Monday", "Tuesday", "Wednesday", "Thursday", "Friday", "Saturday", "Sunday"]

/-- Three-letter English month names, January first. -/
def monthAbbreviations : List String :=
  ["Jan", "Feb", "Mar", "Apr", "May", "Jun", "Jul", "Aug", "Sep", "Oct", "Nov", "Dec"]

end BackupRotation.Calendar
