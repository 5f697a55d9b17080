import BackupRotation.Calendar.Zone
import BackupRotation.Text.Decimal
/-!
# Reading written times

Times arrive either as RFC 3339 text with an offset
(`2024-03-09T14:05:07.1234+01:00`) or as a local reading without one
(`2024-03-09T14:05:07`), which is placed in a zone the way snapshot names
are: the first listed offset of a repeated reading, nothing for a skipped
one.

RFC 3339 text is read strictly: four digits of year, two of every other
field, `T`, `t` or a space between date and time, and an offset that is `Z`,
`z` or a sign (`+`, `-` or the minus sign `−`) with two-digit hours and
minutes joined by a colon, less than a day either way.

A local reading is read field by field, each field a number of one to two
digits (the year up to four, or any number after an explicit sign) that
may be preceded by white space; each separator must follow its field at
once, and nothing may follow the last field. A reading that cannot be taken apart is refused
with the reason the first failing field gives: a character that does not
fit, input ending early, input left over, or a field out of range. Each
field is checked as soon as it is read (month 1 to 12, day 1 to 31, hour
0 to 23, minute 0 to 59, second 0 to 60), the date as a whole afterwards.
A second of 60 is a leap second, kept as a second 59 that is more than a
second long.
-/

namespace BackupRotation.Calendar

open Text

/-- Why a written time was refused. -/
inductive ReadFailure where
  | invalid
  | tooShort
  | tooLong
  | outOfRange
  /-- The local reading does not occur in the zone, or only at an instant
  out of range. -/
  | skipped
deriving DecidableEq, Repr

/-- The sentence each refusal is reported with. -/
def ReadFailure.describe : ReadFailure → String
  | .invalid => "input contains invalid characters"
  | .tooShort => "premature end of input"
  | .tooLong => "trailing input"
  | .outOfRange => "input is out of range"
  | .skipped => "no such local time"

/-- The length of some characters in UTF-8 bytes, which is what a field
needs enough of before its digits are looked at. -/
def byteLength (chars : List Char) : Nat := chars.foldl (fun total c => total + c.utf8Size) 0

/-- The value of a run of decimal digits. -/
def digitsToNat (digits : List Char) : Nat :=
  digits.foldl (fun acc c => acc * 10 + (c.toNat - '0'.toNat)) 0

/-- Read at least `least` and at most `most` ASCII digits at the front.
Fewer than `least` bytes left is input ending early; a non-digit among the
first `least` characters does not fit. -/
def scanNumber (least most : Nat) (chars : List Char) : Except ReadFailure (Nat × List Char) :=
  if byteLength chars < least then .error .tooShort
  else
    let digits := (spanChars Char.isDigit chars).1.take most
    if digits.length < least then .error .invalid
    else .ok (digitsToNat digits, chars.drop digits.length)

/-- Expect one character: none left is too short, another does not fit. -/
def scanChar (expected : Char) : List Char → Except ReadFailure (List Char)
  | [] => .error .tooShort
  | c :: rest => if c == expected then .ok rest else .error .invalid

/-- Keep a field's value if it lies between two bounds. -/
def checkRange (low high value : Nat) : Except ReadFailure Nat :=
  if low ≤ value && value ≤ high then .ok value else .error .outOfRange

/-- Read a fraction of a second after its dot, as nanoseconds: one to nine
digits are used, digits past the ninth are skipped. -/
def scanFraction (chars : List Char) : Except ReadFailure (Nat × List Char) := do
  let (value, rest) ← scanNumber 1 9 chars
  let used := chars.length - rest.length
  pure (value * Nat.pow 10 (9 - used), rest.dropWhile Char.isDigit)

/-- A fraction of a second if a dot comes next, else none. -/
def scanOptionalFraction : List Char → Except ReadFailure (Nat × List Char)
  | '.' :: rest => scanFraction rest
  | chars => .ok (0, chars)

/-- The fields of a written time, each checked on its own. -/
structure Fields where
  year : Int
  month : Nat
  day : Nat
  hour : Nat
  minute : Nat
  second : Nat
  nanos : Nat
deriving DecidableEq, Repr

/-- The wall reading the fields name: the date must exist and lie in the
supported range; a second of 60 is a leap second. -/
def Fields.wall (fields : Fields) : Except ReadFailure WallTime :=
  let date : Date := { year := fields.year, month := fields.month, day := fields.day }
  if !date.isValid || !dayInRange (daysFromCivil date) then .error .outOfRange
  else
    let (second, nanos) :=
      if fields.second = 60 then (59, fields.nanos + nanosPerSecond) else (fields.second, fields.nanos)
    .ok { date := date, second := fields.hour * 3600 + fields.minute * 60 + second, nanos := nanos }

/-! ## RFC 3339 -/

/-- Two ASCII digits at the front. -/
private def twoDigits? : List Char → Option (Nat × List Char)
  | a :: b :: rest => if a.isDigit && b.isDigit then some (digitsToNat [a, b], rest) else none
  | _ => none

/-- An RFC 3339 offset in seconds east: `Z`, `z`, or a sign, two digits of
hours, a colon and two digits of minutes below 60. -/
private def rfcOffset? : List Char → Option (Int × List Char)
  | 'Z' :: rest | 'z' :: rest => some (0, rest)
  | sign :: rest => do
      let negative ← if sign == '+' then some false
        else if sign == '-' || sign == '−' then some true else none
      let (hours, rest) ← twoDigits? rest
      let rest ← match rest with | ':' :: rest => some rest | _ => none
      let (minutes, rest) ← twoDigits? rest
      if minutes ≥ 60 then none
      else
        let magnitude : Int := hours * 3600 + minutes * 60
        some (if negative then -magnitude else magnitude, rest)
  | [] => none

/-- The fields and offset of RFC 3339 text, if it is exactly that. -/
def rfc3339Fields? (chars : List Char) : Option (Fields × Int) :=
  let read : Except ReadFailure (Fields × List Char) := do
    let (year, rest) ← scanNumber 4 4 chars
    let rest ← scanChar '-' rest
    let (month, rest) ← scanNumber 2 2 rest
    let month ← checkRange 1 12 month
    let rest ← scanChar '-' rest
    let (day, rest) ← scanNumber 2 2 rest
    let day ← checkRange 1 31 day
    let rest ← match rest with
      | c :: rest => if c == 'T' || c == 't' || c == ' ' then .ok rest else .error .invalid
      | [] => .error .tooShort
    let (hour, rest) ← scanNumber 2 2 rest
    let hour ← checkRange 0 23 hour
    let rest ← scanChar ':' rest
    let (minute, rest) ← scanNumber 2 2 rest
    let minute ← checkRange 0 59 minute
    let rest ← scanChar ':' rest
    let (second, rest) ← scanNumber 2 2 rest
    let second ← checkRange 0 60 second
    let (nanos, rest) ← scanOptionalFraction rest
    pure ({ year := year, month := month, day := day, hour := hour, minute := minute,
            second := second, nanos := nanos }, rest)
  match read with
  | .ok (fields, rest) =>
      match rfcOffset? rest with
      | some (offset, []) => if offsetFits offset then some (fields, offset) else none
      | _ => none
  | .error _ => none

/-- The instant of RFC 3339 text, if the text is one and the instant lies in
the supported range. -/
def readRfc3339? (text : String) : Option Instant := do
  let (fields, offset) ← rfc3339Fields? text.toList
  match fields.wall with
  | .ok wall =>
      let instant := wall.toInstant offset
      if dayInRange (instant.seconds / secondsPerDay) then some instant else none
  | .error _ => none

/-! ## Local readings -/

/-- Skip white space at the front. -/
def skipSpace (chars : List Char) : List Char := chars.dropWhile isWhite

/-- A year: a sign and any number of digits, or one to four digits; it must
fit in 32 bits. -/
def scanYear (chars : List Char) : Except ReadFailure (Int × List Char) := do
  let (year, rest) ← match chars with
    | '-' :: after => do
        let (value, rest) ← scanNumber 1 after.length after
        pure (-(value : Int), rest)
    | '+' :: after => do
        let (value, rest) ← scanNumber 1 after.length after
        pure ((value : Int), rest)
    | _ => do
        let (value, rest) ← scanNumber 1 4 chars
        pure ((value : Int), rest)
  if -2147483648 ≤ year && year ≤ 2147483647 then pure (year, rest) else throw .outOfRange

/-- A one- or two-digit field after optional white space, within bounds. -/
def scanField (low high : Nat) (chars : List Char) : Except ReadFailure (Nat × List Char) := do
  let (value, rest) ← scanNumber 1 2 (skipSpace chars)
  let value ← checkRange low high value
  pure (value, rest)

/-- A separator, right after the field before it. -/
def scanSeparator (expected : Char) (chars : List Char) : Except ReadFailure (List Char) :=
  scanChar expected chars

/-- The fields of a local reading `Y-m-dTH:M:S[.f]`. -/
def localFields (chars : List Char) : Except ReadFailure Fields := do
  let (year, rest) ← scanYear (skipSpace chars)
  let rest ← scanSeparator '-' rest
  let (month, rest) ← scanField 1 12 rest
  let rest ← scanSeparator '-' rest
  let (day, rest) ← scanField 1 31 rest
  let rest ← scanSeparator 'T' rest
  let (hour, rest) ← scanField 0 23 rest
  let rest ← scanSeparator ':' rest
  let (minute, rest) ← scanField 0 59 rest
  let rest ← scanSeparator ':' rest
  let (second, rest) ← scanField 0 60 rest
  let (nanos, rest) ← scanOptionalFraction rest
  if !rest.isEmpty then throw .tooLong
  pure { year := year, month := month, day := day, hour := hour, minute := minute,
         second := second, nanos := nanos }

/-- The wall reading of a local reading. -/
def readWall (text : String) : Except ReadFailure WallTime := do
  (← localFields text.toList).wall

/-- Read a time written either as RFC 3339 text or as a local reading in the
given zone, and show it in that zone. A local reading that the zone skips,
or whose instant falls out of range, is refused as skipped. -/
def readStamp (zone : Zone) (text : String) : Except ReadFailure Stamp :=
  match readRfc3339? text with
  | some instant => .ok (zone.stamp instant)
  | none => do
      let wall ← readWall text
      match zone.stampOfWall? wall with
      | some stamp =>
          if dayInRange (stamp.instant.seconds / secondsPerDay) then .ok stamp else .error .skipped
      | none => .error .skipped

end BackupRotation.Calendar
