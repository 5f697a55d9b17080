import BackupRotation.Calendar.Instant
/-!
# Writing dates and times

The three layouts the program prints: the compact stamp inside snapshot
names (`20240309_140507`), the full timestamp with nanoseconds and offset
(`2024-03-09T14:05:07.123400000+00:00`), and the long form used in purge
reports (`Saturday, 09-Mar-24 14:05:07 +00:00`).

Years from 0 to 9999 are written with four digits; any other year carries an
explicit sign and at least four digits, so that the written form of a date
never reads as a different date.
-/

namespace BackupRotation.Calendar

/-- Decimal digits of a natural number, left-padded with zeros to a width. -/
def padNat (width : Nat) (value : Nat) : String :=
  let digits := toString value
  String.ofList (List.replicate (width - digits.length) '0') ++ digits

/-- A year as a four-digit field: plain for 0 to 9999, signed otherwise. -/
def renderYear (year : Int) : String :=
  if 0 ≤ year && year ≤ 9999 then padNat 4 year.toNat
  else (if year < 0 then "-" else "+") ++ padNat 4 year.natAbs

/-- An offset as `+hh:mm`, with `:ss` appended when it has seconds. -/
def renderOffset (offset : Int) : String :=
  let magnitude := offset.natAbs
  let sign := if offset < 0 then "-" else "+"
  let base := sign ++ padNat 2 (magnitude / 3600) ++ ":" ++ padNat 2 (magnitude % 3600 / 60)
  if magnitude % 60 = 0 then base else base ++ ":" ++ padNat 2 (magnitude % 60)

/-- An offset as `+hh:mm`, rounded to the nearest minute with half a minute
rounded away from zero; the sign is the offset's own, so an offset of half a
minute west is `-00:01` and one of a few seconds west is `-00:00`. -/
def renderOffsetMinutes (offset : Int) : String :=
  let minutes := (offset.natAbs + 30) / 60
  (if offset < 0 then "-" else "+") ++ padNat 2 (minutes / 60) ++ ":" ++ padNat 2 (minutes % 60)

namespace WallTime

/-- `YYYYmmdd_HHMMSS`, the date and time part of a snapshot name. -/
def renderCompact (wall : WallTime) : String :=
  renderYear wall.date.year ++ padNat 2 wall.date.month ++ padNat 2 wall.date.day ++ "_" ++
    padNat 2 wall.hour ++ padNat 2 wall.minute ++ padNat 2 wall.secondOfMinute

/-- `YYYY-mm-ddTHH:MM:SS.nnnnnnnnn`, nanoseconds always written in full. -/
def renderIso (wall : WallTime) : String :=
  renderYear wall.date.year ++ "-" ++ padNat 2 wall.date.month ++ "-" ++ padNat 2 wall.date.day ++
    "T" ++ padNat 2 wall.hour ++ ":" ++ padNat 2 wall.minute ++ ":" ++
    padNat 2 wall.secondOfMinute ++ "." ++ padNat 9 (wall.nanos % nanosPerSecond)

end WallTime

namespace Stamp

/-- The full timestamp with nanoseconds and offset, as answers show times. -/
def renderIso (stamp : Stamp) : String :=
  stamp.wall.renderIso ++ renderOffsetMinutes stamp.offset

/-- The long form of purge reports: weekday, day, month, two-digit year,
time and offset, as in `Monday, 02-Mar-20 01:00:00 +00:00`. -/
def renderLong (stamp : Stamp) : String :=
  let wall := stamp.wall
  let days := daysFromCivil wall.date
  let weekday := weekdayNames.getD (weekdayFromMonday days) ""
  let month := monthAbbreviations.getD (wall.date.month - 1) ""
  weekday ++ ", " ++ padNat 2 wall.date.day ++ "-" ++ month ++ "-" ++
    padNat 2 (wall.date.year % 100).toNat ++ " " ++ padNat 2 wall.hour ++ ":" ++
    padNat 2 wall.minute ++ ":" ++ padNat 2 wall.secondOfMinute ++ " " ++
    renderOffset stamp.offset

end Stamp

end BackupRotation.Calendar
