import BackupRotation.Calendar.Instant
/-!
# Time zones from POSIX rule strings

A zone is a standard offset and, optionally, a daylight-saving offset with
the two yearly rules that switch between them, as written in a POSIX `TZ`
string such as `EST5EDT,M3.2.0,M11.1.0` or `<+1030>-10:30<+11>-11,M10.1.0,M4.1.0`.
Offsets are kept in seconds east of UTC, the opposite sign of the string.

Two questions are answered. `Zone.offsetAt` gives the offset in force at an
instant. `Zone.resolve` maps a wall-clock reading back to offsets: one offset
normally, none for a reading skipped when clocks go forward, and two for a
reading that occurs twice when they go back. The rules for both follow the
time library snapshot names were defined with, including its choice of
listing the smaller offset first for a repeated reading, which is the offset
clocks were set back to.

A rule string is read after trimming ASCII white space around it. Each zone
name must have three to seven letters, digits, `+` or `-`, and each offset
must stay within a day; a string that breaks any of this, or cannot be read
at all, leaves the zone at UTC.
-/

namespace BackupRotation.Calendar

/-- The day of the year a switch happens, in the three POSIX forms. -/
inductive RuleDay where
  /-- `Jn`: day 1 to 365, February 29th never counted. -/
  | julianNoLeap (day : Nat)
  /-- `n`: day 0 to 365, February 29th counted in leap years. -/
  | julianWithLeap (day : Nat)
  /-- `Mm.w.d`: weekday `d` (0 is Sunday) of week `w` (5 meaning the last) of
  month `m`. -/
  | monthWeekday (month week weekday : Nat)
deriving DecidableEq, Repr

/-- Days before each month of a year of 365 days. -/
def cumulativeDays : List Nat := [0, 31, 59, 90, 120, 151, 181, 212, 243, 273, 304, 334]

/-- Month holding the zero-based day `day` of the year, with the month
starts given, and the day of that month. -/
private def monthOfDay (starts : List Nat) (day : Nat) : Nat × Nat :=
  let month := (starts.filter (fun start => start ≤ day)).length
  let start := starts.getD (month - 1) 0
  (month, day - start + 1)

/-- Month and day of a switch in a given year. -/
def RuleDay.date (rule : RuleDay) (year : Int) : Nat × Nat :=
  match rule with
  | .julianNoLeap day => monthOfDay cumulativeDays (day - 1)
  | .julianWithLeap day =>
      let leap := if isLeapYear year then 1 else 0
      let starts := cumulativeDays.mapIdx fun index start => if index ≥ 2 then start + leap else start
      monthOfDay starts day
  | .monthWeekday month week weekday =>
      let first := daysFromCivil { year := year, month := month, day := 1 }
      let firstWeekday : Int := weekdayFromSunday first
      let firstOccurrence : Int := 1 + ((weekday : Int) - firstWeekday) % 7
      let candidate := firstOccurrence + ((week : Int) - 1) * 7
      let day := if candidate > monthLength year month then candidate - 7 else candidate
      (month, day.toNat)

/-- Unix seconds of the start of the switch day in a given year, plus a time
of day that may be negative or exceed a day. -/
def RuleDay.unixTime (rule : RuleDay) (year : Int) (timeOfDay : Int) : Int :=
  let (month, day) := rule.date year
  daysFromCivil { year := year, month := month, day := day } * secondsPerDay + timeOfDay

/-- Daylight-saving time: its offset and the rules that start and end it.
The switch times are local wall-clock times of the switch day, in seconds. -/
structure Daylight where
  offset : Int
  start : RuleDay
  startTime : Int
  stop : RuleDay
  stopTime : Int
deriving DecidableEq, Repr

/-- A time zone: a standard offset and perhaps daylight-saving time. -/
structure Zone where
  standard : Int
  daylight : Option Daylight
deriving DecidableEq, Repr

/-- Coordinated Universal Time. -/
def Zone.utc : Zone := { standard := 0, daylight := none }

/-- Whether daylight-saving time is in force at Unix time `now`. The switch
instants of the year of `now` are compared first; the neighbouring years are
consulted when `now` falls before the first or after the last switch, which
is how a daylight period running over New Year is found. -/
def Daylight.activeAt (daylight : Daylight) (standard : Int) (now : Int) : Bool :=
  let year := (civilFromDays (now / secondsPerDay)).year
  let startUtc := daylight.startTime - standard
  let stopUtc := daylight.stopTime - daylight.offset
  let start := fun year => daylight.start.unixTime year startUtc
  let stop := fun year => daylight.stop.unixTime year stopUtc
  if start year ≤ stop year then
    if now < start year then
      now < stop (year - 1) && start (year - 1) ≤ now
    else if now < stop year then true
    else start (year + 1) ≤ now && now < stop (year + 1)
  else
    if now < stop year then
      if now < start (year - 1) then now < stop (year - 1) else true
    else if now < start year then false
    else if stop (year + 1) ≤ now then start (year + 1) ≤ now else true

/-- The offset in force at an instant. -/
def Zone.offsetAt (zone : Zone) (instant : Instant) : Int :=
  match zone.daylight with
  | none => zone.standard
  | some daylight =>
      if daylight.activeAt zone.standard instant.seconds then daylight.offset else zone.standard

/-- The offsets under which a wall-clock reading occurs. -/
inductive Resolution where
  /-- The reading is skipped when clocks go forward. -/
  | skipped
  /-- The reading occurs once, at this offset. -/
  | single (offset : Int)
  /-- The reading occurs twice; `first` is the offset listed first. -/
  | repeated (first second : Int)
deriving DecidableEq, Repr

/-- The offset chosen for a reading that may be repeated: the first listed. -/
def Resolution.earliest : Resolution → Option Int
  | .skipped => none
  | .single offset => some offset
  | .repeated first _ => some first

/-- Offsets under which a local reading, given as seconds since the epoch
read as UTC, occurs in a zone with daylight-saving time. The switch
intervals are computed in local time for the year of the reading; which of
the two switches comes first in that year decides the shape of the answer. -/
def Daylight.resolve (daylight : Daylight) (standard : Int) (localTime : Int) (year : Int) :
    Resolution :=
  let startDay := daylight.start.unixTime year 0
  let stopDay := daylight.stop.unixTime year 0
  let startBegins := startDay + daylight.startTime
  let startEnds := startDay + daylight.startTime + daylight.offset - standard
  let stopBegins := stopDay + daylight.stopTime
  let stopEnds := stopDay + daylight.stopTime + standard - daylight.offset
  let startFirst := (daylight.start.date year).1 < (daylight.stop.date year).1
  if standard = daylight.offset then .single standard
  else if standard < daylight.offset then
    if startFirst then
      if localTime ≤ startBegins then .single standard
      else if localTime < startEnds then .skipped
      else if localTime < stopEnds then .single daylight.offset
      else if localTime ≤ stopBegins then .repeated standard daylight.offset
      else .single standard
    else
      if localTime < stopEnds then .single daylight.offset
      else if localTime ≤ stopBegins then .repeated standard daylight.offset
      else if localTime < startBegins then .single standard
      else if localTime < startEnds then .skipped
      else .single daylight.offset
  else
    if startFirst then
      if localTime < startEnds then .single standard
      else if localTime ≤ startBegins then .repeated daylight.offset standard
      else if localTime < stopBegins then .single daylight.offset
      else if localTime < stopEnds then .skipped
      else .single standard
    else
      if localTime ≤ stopBegins then .single daylight.offset
      else if localTime < stopEnds then .skipped
      else if localTime < startEnds then .single standard
      else if localTime ≤ startBegins then .repeated daylight.offset standard
      else .single daylight.offset

/-- Offsets under which a wall-clock reading occurs in a zone. -/
def Zone.resolve (zone : Zone) (wall : WallTime) : Resolution :=
  match zone.daylight with
  | none => .single zone.standard
  | some daylight => daylight.resolve zone.standard wall.epochSeconds wall.date.year

/-- The stamp an instant shows in a zone. -/
def Zone.stamp (zone : Zone) (instant : Instant) : Stamp :=
  { instant := instant, offset := zone.offsetAt instant }

/-- The stamp of a wall-clock reading, taking the first listed offset for a
repeated reading and nothing for a skipped one. -/
def Zone.stampOfWall? (zone : Zone) (wall : WallTime) : Option Stamp :=
  (zone.resolve wall).earliest.map fun offset =>
    { instant := wall.toInstant offset, offset := offset }

/-! ## Reading a rule string -/

/-- Split off the longest prefix of characters satisfying a test. -/
def spanChars (keep : Char → Bool) : List Char → List Char × List Char
  | [] => ([], [])
  | c :: rest =>
      if keep c then
        let (taken, left) := spanChars keep rest
        (c :: taken, left)
      else ([], c :: rest)

/-- Read a decimal number at the front, requiring at least one digit. -/
def readNat? (chars : List Char) : Option (Nat × List Char) :=
  let (digits, rest) := spanChars Char.isDigit chars
  if digits.isEmpty then none
  else some (digits.foldl (fun acc c => acc * 10 + (c.toNat - '0'.toNat)) 0, rest)

/-- Whether a zone name is acceptable: three to seven letters, digits, `+`
or `-`. -/
def isZoneName (name : List Char) : Bool :=
  3 ≤ name.length && name.length ≤ 7 && name.all fun c => c.isAlphanum || c == '+' || c == '-'

/-- Read a zone name, letters or anything between angle brackets, and check
it. -/
private def readZoneName? (chars : List Char) : Option (List Char) :=
  let read : Option (List Char × List Char) := match chars with
    | '<' :: rest =>
        let (name, left) := spanChars (fun c => c != '>') rest
        match left with
        | '>' :: after => some (name, after)
        | _ => none
    | chars => some (spanChars Char.isAlpha chars)
  match read with
  | some (name, rest) => if isZoneName name then some rest else none
  | none => none

/-- Read `hh[:mm[:ss]]`. -/
private def readClock? (chars : List Char) : Option ((Nat × Nat × Nat) × List Char) := do
  let (hours, rest) ← readNat? chars
  match rest with
  | ':' :: rest =>
      let (minutes, rest) ← readNat? rest
      match rest with
      | ':' :: rest =>
          let (seconds, rest) ← readNat? rest
          pure ((hours, minutes, seconds), rest)
      | _ => pure ((hours, minutes, 0), rest)
  | _ => pure ((hours, 0, 0), rest)

/-- Read a clock time with hours up to 24, minutes and seconds below 60. -/
private def readBoundedClock? (chars : List Char) : Option (Int × List Char) := do
  let ((hours, minutes, seconds), rest) ← readClock? chars
  if hours ≤ 24 && minutes ≤ 59 && seconds ≤ 59 then
    pure ((hours * 3600 + minutes * 60 + seconds : Nat), rest)
  else none

/-- Read a signed POSIX offset and return it in seconds east of UTC, the
opposite of its written sign. -/
private def readOffset? (chars : List Char) : Option (Int × List Char) :=
  match chars with
  | '+' :: rest => (readBoundedClock? rest).map fun (value, left) => (-value, left)
  | '-' :: rest => readBoundedClock? rest
  | _ => (readBoundedClock? chars).map fun (value, left) => (-value, left)

/-- Read one switch rule with its optional `/time`, which defaults to 02:00. -/
private def readRule? (chars : List Char) : Option ((RuleDay × Int) × List Char) := do
  let (day, rest) ← match chars with
    | 'M' :: rest => do
        let (month, rest) ← readNat? rest
        let rest ← match rest with | '.' :: rest => some rest | _ => none
        let (week, rest) ← readNat? rest
        let rest ← match rest with | '.' :: rest => some rest | _ => none
        let (weekday, rest) ← readNat? rest
        if 1 ≤ month && month ≤ 12 && 1 ≤ week && week ≤ 5 && weekday ≤ 6 then
          some (RuleDay.monthWeekday month week weekday, rest)
        else none
    | 'J' :: rest => do
        let (day, rest) ← readNat? rest
        if 1 ≤ day && day ≤ 365 then some (RuleDay.julianNoLeap day, rest) else none
    | _ => do
        let (day, rest) ← readNat? chars
        if day ≤ 365 then some (RuleDay.julianWithLeap day, rest) else none
  match rest with
  | '/' :: rest =>
      let (time, rest) ← readBoundedClock? rest
      pure ((day, time), rest)
  | _ => pure ((day, 7200), rest)

/-- Whether an offset in seconds is less than a day either way. -/
def offsetFits (offset : Int) : Bool := -86400 < offset && offset < 86400

/-- Whether a character is ASCII white space. -/
def isAsciiSpace (c : Char) : Bool :=
  c == ' ' || c == '\t' || c == '\n' || c == '\x0C' || c == '\r'

/-- A text with ASCII white space removed at both ends. -/
def trimAsciiSpace (chars : List Char) : List Char :=
  ((chars.dropWhile isAsciiSpace).reverse.dropWhile isAsciiSpace).reverse

/-- Read a POSIX `TZ` rule string such as `CET-1CEST,M3.5.0,M10.5.0/3`. -/
def Zone.parse? (text : String) : Option Zone := do
  let rest ← readZoneName? (trimAsciiSpace text.toList)
  let (standard, rest) ← readOffset? rest
  if !offsetFits standard then none
  else if rest.isEmpty then
    pure { standard := standard, daylight := none }
  else
    let rest ← readZoneName? rest
    let (daylightOffset, rest) ← match rest with
      | ',' :: _ => some (standard + 3600, rest)
      | [] => none
      | _ => readOffset? rest
    let rest ← match rest with | ',' :: rest => some rest | _ => none
    let ((start, startTime), rest) ← readRule? rest
    let rest ← match rest with | ',' :: rest => some rest | _ => none
    let ((stop, stopTime), rest) ← readRule? rest
    if rest.isEmpty && offsetFits daylightOffset then
      pure { standard := standard
             daylight := some { offset := daylightOffset, start := start, startTime := startTime,
                                stop := stop, stopTime := stopTime } }
    else none

/-- The zone of a `TZ` string, Coordinated Universal Time when the string
cannot be read. -/
def Zone.ofString (text : String) : Zone := (Zone.parse? text).getD Zone.utc

end BackupRotation.Calendar
