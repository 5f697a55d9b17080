import BackupRotation.Proofs.CivilOrder
import BackupRotation.Proofs.LatestLink
/-!
# Reading a snapshot name back

A snapshot name spells the local reading of its stamp in fixed-width decimal
fields, `YYYYmmdd_HHMMSS.ffff.szb`, and reading a name places that reading
back in the zone. Both directions go through one description of the twenty
bytes before the extension, `stampBytes`: writing a reading gives exactly
these bytes (`encode_renderCompact`), and the only bytes the reader accepts
are these bytes of the reading it returns (`parseStamp?_eq_some`).

What is lost on the way is what a name cannot hold: the nanoseconds below a
tenth of a millisecond, and the offset. The offset is chosen again by the
zone, the first listed one for a reading that occurs twice; so a stamp reads
back as itself, truncated, exactly when the zone resolves its reading to the
stamp's own offset. In the other direction nothing is lost: a name that
reads as a stamp is the name of that stamp.
-/

namespace BackupRotation.Calendar

theorem monthLength_le (year : Int) (month : Nat) : monthLength year month ≤ 31 := by
  unfold monthLength
  split
  all_goals (try split) <;> decide

/-- A reading a snapshot name spells exactly: a real date in a year written
with four plain digits, a second within the day, and no leap second. -/
structure WallTime.Nameable (wall : WallTime) : Prop where
  valid : wall.date.isValid = true
  yearLow : 0 ≤ wall.date.year
  yearHigh : wall.date.year ≤ 9999
  inDay : wall.second < 86400
  notLeap : wall.nanos < nanosPerSecond

/-- A stamp its name can spell: no leap second, and a local year written with
four plain digits. -/
structure Stamp.Nameable (stamp : Stamp) : Prop where
  notLeap : stamp.instant.nanos < nanosPerSecond
  yearLow : 0 ≤ stamp.date.year
  yearHigh : stamp.date.year ≤ 9999

/-- The reading of a nameable stamp is nameable: its date is real and its
second lies within the day whatever the stamp. -/
theorem Stamp.Nameable.wall {stamp : Stamp} (nameable : stamp.Nameable) : stamp.wall.Nameable :=
  ⟨isValid_civilFromDays _, nameable.yearLow, nameable.yearHigh, WallTime.ofInstant_second_lt _ _,
    nameable.notLeap⟩

/-- The fields of a nameable reading fit their widths. -/
theorem WallTime.Nameable.fields {wall : WallTime} (nameable : wall.Nameable) :
    wall.date.year.toNat < 10000 ∧ wall.date.month < 100 ∧ wall.date.day < 100 ∧
      wall.hour < 24 ∧ wall.minute < 60 ∧ wall.secondOfMinute < 60 := by
  obtain ⟨valid, low, high, inDay, notLeap⟩ := nameable
  obtain ⟨-, monthHigh, -, dayHigh⟩ := (Date.isValid_iff _).mp valid
  have longest := monthLength_le wall.date.year wall.date.month
  unfold WallTime.hour WallTime.minute WallTime.secondOfMinute
  have noLeap : wall.nanos / nanosPerSecond = 0 := Nat.div_eq_of_lt notLeap
  simp only [noLeap]
  omega

/-- A nameable reading is its hour, minute and second of the minute. -/
theorem WallTime.Nameable.clock {wall : WallTime} (nameable : wall.Nameable) :
    wall.hour * 3600 + wall.minute * 60 + wall.secondOfMinute = wall.second := by
  have noLeap : wall.nanos / nanosPerSecond = 0 := Nat.div_eq_of_lt nameable.notLeap
  simp only [WallTime.hour, WallTime.minute, WallTime.secondOfMinute, noLeap]
  omega

end BackupRotation.Calendar

namespace BackupRotation.Snapshot

open Calendar Text

/-! ### Decimal fields -/

/-- The byte of a decimal digit. -/
def digitByte (digit : Nat) : UInt8 := UInt8.ofNat (0x30 + digit)

/-- A number written with a fixed count of decimal digits, leading zeros
included; digits beyond the width are dropped. -/
def fieldBytes : Nat → Nat → Bytes
  | 0, _ => []
  | width + 1, value => fieldBytes width (value / 10) ++ [digitByte (value % 10)]

theorem utf8EncodeChar_digitChar : ∀ digit < 10,
    String.utf8EncodeChar (Nat.digitChar digit) = [digitByte digit] := by
  decide

theorem toList_padNat (width value : Nat) :
    (padNat width value).toList =
      List.replicate (width - (Nat.toDigits 10 value).length) '0' ++ Nat.toDigits 10 value := by
  simp [padNat, Nat.toString_eq_repr, ← String.length_toList, Nat.toList_repr]

theorem toList_padNat_one {digit : Nat} (small : digit < 10) :
    (padNat 1 digit).toList = [Nat.digitChar digit] := by
  simp [toList_padNat, Nat.toDigits_of_lt_base small]

/-- The last digit of a padded field comes off its end. -/
theorem toList_padNat_succ {width : Nat} (wide : 1 ≤ width) (value : Nat) :
    (padNat (width + 1) value).toList =
      (padNat width (value / 10)).toList ++ [Nat.digitChar (value % 10)] := by
  rw [toList_padNat, toList_padNat, Nat.toDigits_eq_if (by decide)]
  split
  case isTrue small =>
    -- one digit: the field is all padding but for it
    have zero : value / 10 = 0 := by omega
    rw [zero, Nat.mod_eq_of_lt small, Nat.toDigits_of_lt_base (by decide : 0 < 10)]
    obtain ⟨pad, rfl⟩ : ∃ pad, width = pad + 1 := ⟨width - 1, by omega⟩
    simp [List.replicate_succ']
  case isFalse large =>
    simp

/-- A number that fits its width is written as its field. -/
theorem encode_padNat {width value : Nat} (wide : 1 ≤ width) (fits : value < Nat.pow 10 width) :
    encode (padNat width value) = fieldBytes width value := by
  induction width generalizing value with
  | zero => omega
  | succ width ih =>
      rw [encode_eq_flatMap]
      by_cases single : width = 0
      · subst single
        have small : value < 10 := fits
        rw [toList_padNat_one small]
        simp [fieldBytes, utf8EncodeChar_digitChar value small, Nat.mod_eq_of_lt small]
      · have rest : value / 10 < Nat.pow 10 width := by
          have grown : value < Nat.pow 10 width * 10 := fits
          omega
        rw [toList_padNat_succ (by omega), List.flatMap_append, ← encode_eq_flatMap,
          ih (by omega) rest]
        simp [fieldBytes, utf8EncodeChar_digitChar _ (Nat.mod_lt value (by decide : 10 > 0))]

/-- The twenty bytes a name spells before its extension: the date and the
clock time of a reading, `YYYYmmdd_HHMMSS`, then a dot and four digits of
fraction. -/
def stampBytes (wall : WallTime) (fraction : Nat) : Bytes :=
  fieldBytes 4 wall.date.year.toNat ++ fieldBytes 2 wall.date.month ++ fieldBytes 2 wall.date.day ++
    [0x5F] ++ fieldBytes 2 wall.hour ++ fieldBytes 2 wall.minute ++ fieldBytes 2 wall.secondOfMinute ++
    [0x2E] ++ fieldBytes 4 fraction

/-- Writing a nameable reading and a fraction gives the twenty bytes. -/
theorem encode_renderCompact {wall : WallTime} (nameable : wall.Nameable) {fraction : Nat}
    (small : fraction < 10000) :
    encode (wall.renderCompact ++ "." ++ padNat 4 fraction) = stampBytes wall fraction := by
  obtain ⟨year, month, day, hour, minute, second⟩ := nameable.fields
  have plainYear : renderYear wall.date.year = padNat 4 wall.date.year.toNat := by
    simp [renderYear, nameable.yearLow, nameable.yearHigh]
  simp only [WallTime.renderCompact, plainYear, encode_append]
  rw [encode_padNat (by decide) year, encode_padNat (by decide) month, encode_padNat (by decide) day,
    encode_padNat (by decide) (by omega : wall.hour < 100),
    encode_padNat (by decide) (by omega : wall.minute < 100),
    encode_padNat (by decide) (by omega : wall.secondOfMinute < 100),
    encode_padNat (by decide) small]
  have underscore : encode "_" = [0x5F] := by
    rw [encode_eq_flatMap]
    decide
  have dot : encode "." = [0x2E] := by
    rw [encode_eq_flatMap]
    decide
  rw [underscore, dot]
  rfl

/-- Each field of the twenty bytes sits where the reader takes it from. -/
theorem stampBytes_slices (wall : WallTime) (fraction : Nat) :
    (stampBytes wall fraction).length = 20 ∧ (stampBytes wall fraction).getD 8 0 = 0x5F ∧
      (stampBytes wall fraction).getD 15 0 = 0x2E ∧
      ((stampBytes wall fraction).drop 0).take 4 = fieldBytes 4 wall.date.year.toNat ∧
      ((stampBytes wall fraction).drop 4).take 2 = fieldBytes 2 wall.date.month ∧
      ((stampBytes wall fraction).drop 6).take 2 = fieldBytes 2 wall.date.day ∧
      ((stampBytes wall fraction).drop 9).take 2 = fieldBytes 2 wall.hour ∧
      ((stampBytes wall fraction).drop 11).take 2 = fieldBytes 2 wall.minute ∧
      ((stampBytes wall fraction).drop 13).take 2 = fieldBytes 2 wall.secondOfMinute ∧
      ((stampBytes wall fraction).drop 16).take 4 = fieldBytes 4 fraction := by
  refine ⟨?_, ?_, ?_, ?_, ?_, ?_, ?_, ?_, ?_, ?_⟩ <;> simp [stampBytes, fieldBytes]

/-- The fraction a name writes fits its four digits. -/
theorem fraction_lt {nanos : Nat} (notLeap : nanos < nanosPerSecond) : nanos / 100000 < 10000 :=
  Nat.div_lt_of_lt_mul notLeap

end BackupRotation.Snapshot
