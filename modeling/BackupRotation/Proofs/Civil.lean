import BackupRotation.Calendar.Instant
/-!
# Day counts and the civil calendar

`civilFromDays` turns a count of days since 1970-01-01 into a date by the era
arithmetic of the proleptic Gregorian calendar: 400-year eras of 146097 days,
years counted from March so that the leap day closes the year, and a year of
the era read off the day of the era after its leap days are taken out. The
proofs read that arithmetic through one lemma, `civilFromDays_steps`, which
names each step and the bounds it lies in. This module proves the arithmetic
right where the retention rule depends on it:

* `daysFromCivil` undoes `civilFromDays`, so a date and its day count carry
  the same information;
* a date lies between the first days of its year and of the next, so its
  ordinal day is its offset from 1 January;
* two day counts show the same year and ordinal day exactly when they are
  equal, and the same ISO week exactly when they lie in the same
  Monday-to-Sunday week.

The last two facts make calendar days and ISO weeks intervals of the day
line, which is what a sweep over sorted times needs.
-/

namespace BackupRotation.Calendar

/-- Days from 1 March of the first year of an era to 1 March of its year
`year`, the years counted from 0 to 399. -/
def eraYearStart (year : Int) : Int := 365 * year + year / 4 - year / 100

/-- The days of an era with its leap days taken out, so that 365 of them make
a year. -/
def eraDaysWithoutLeaps (dayOfEra : Int) : Int :=
  dayOfEra - dayOfEra / 1460 + dayOfEra / 36524 - dayOfEra / 146096

/-- A quotient read off a split of the dividend. -/
theorem ediv_eq_of_split {x : Int} (m k t : Int) (hx : x = m * k + t) (low : 0 ≤ t)
    (high : t < m) : x / m = k := by
  rw [hx, Int.add_comm, Int.add_mul_ediv_left _ _ (by omega), Int.ediv_eq_zero_of_lt low high,
    Int.zero_add]

/-- An era splits into four centuries, a century into four-year blocks, and a
block into years; the start of a year of the era is the sum of the parts. -/
theorem eraYearStart_split (century block year : Int) (hblock : 0 ≤ block ∧ block ≤ 24)
    (hyear : 0 ≤ year ∧ year ≤ 3) :
    eraYearStart (100 * century + 4 * block + year) =
      36524 * century + 1461 * block + 365 * year := by
  unfold eraYearStart
  omega

/-- Inside a century, taking out one day in 1460 and giving back one in 36524
leaves every day of a year within its 365-day slot, the leap day falling on
the slot of the day before it. -/
theorem eraDaysWithoutLeaps_div (century block year day : Int)
    (hcentury : 0 ≤ century ∧ century ≤ 3) (hblock : 0 ≤ block ∧ block ≤ 24)
    (hyear : 0 ≤ year ∧ year ≤ 3) (hday : 0 ≤ day ∧ day ≤ 365) (hleap : day = 365 → year = 3)
    (hinside : 1461 * block + 365 * year + day < 36524) :
    eraDaysWithoutLeaps (36524 * century + 1461 * block + 365 * year + day) / 365 =
      100 * century + 4 * block + year := by
  have byBlocks : (36524 * century + 1461 * block + 365 * year + day) / 1460 =
      (24 * century + block + 365 * year + day) / 1460 + (25 * century + block) := by
    rw [← Int.add_mul_ediv_right _ _ (by decide)]
    congr 1
    omega
  have byCenturies : (36524 * century + 1461 * block + 365 * year + day) / 36524 = century :=
    ediv_eq_of_split 36524 century (1461 * block + 365 * year + day) (by omega) (by omega) hinside
  have byEras : (36524 * century + 1461 * block + 365 * year + day) / 146096 = 0 :=
    Int.ediv_eq_zero_of_lt (by omega) (by omega)
  -- the carry is the one leap day a block can push over a multiple of 1460
  have carry := Int.mul_ediv_add_emod (24 * century + block + 365 * year + day) 1460
  have carryLow := Int.emod_nonneg (24 * century + block + 365 * year + day) (by decide : (1460 : Int) ≠ 0)
  have carryHigh := Int.emod_lt_of_pos (24 * century + block + 365 * year + day) (by decide : (0 : Int) < 1460)
  unfold eraDaysWithoutLeaps
  rw [byBlocks, byCenturies, byEras]
  generalize (24 * century + block + 365 * year + day) / 1460 = blocks at carry ⊢
  generalize (24 * century + block + 365 * year + day) % 1460 = rest at carry carryLow carryHigh
  exact ediv_eq_of_split 365 (100 * century + 4 * block + year) (day - blocks) (by omega)
    (by omega) (by omega)

/-- A day of an era splits into centuries, four-year blocks, years and a day
of the March-based year, the leap day closing only the last year of a block
that is not the last block of a century. -/
theorem dayOfEra_split (dayOfEra : Int) (low : 0 ≤ dayOfEra) (high : dayOfEra < 146096) :
    ∃ century block year day, (0 ≤ century ∧ century ≤ 3) ∧ (0 ≤ block ∧ block ≤ 24) ∧
      (0 ≤ year ∧ year ≤ 3) ∧ (0 ≤ day ∧ day ≤ 365) ∧ (day = 365 → year = 3) ∧
      1461 * block + 365 * year + day < 36524 ∧
      dayOfEra = 36524 * century + 1461 * block + 365 * year + day :=
  ⟨dayOfEra / 36524, dayOfEra % 36524 / 1461, min (dayOfEra % 36524 % 1461 / 365) 3,
    dayOfEra % 36524 % 1461 - 365 * min (dayOfEra % 36524 % 1461 / 365) 3,
    by omega, by omega, by omega, by omega, by omega, by omega, by omega⟩

/-- The year of the era `civilFromDays` computes lies in the era, and the day
of the era lies within that year: the start of the year at most, and at most
365 days after it. -/
theorem yearOfEra_bounds (dayOfEra : Int) (low : 0 ≤ dayOfEra) (high : dayOfEra ≤ 146096) :
    0 ≤ eraDaysWithoutLeaps dayOfEra / 365 ∧ eraDaysWithoutLeaps dayOfEra / 365 ≤ 399 ∧
      eraYearStart (eraDaysWithoutLeaps dayOfEra / 365) ≤ dayOfEra ∧
      dayOfEra - eraYearStart (eraDaysWithoutLeaps dayOfEra / 365) ≤ 365 := by
  by_cases last : dayOfEra = 146096
  · subst last
    decide
  · obtain ⟨century, block, year, day, hcentury, hblock, hyear, hday, hleap, hinside, rfl⟩ :=
      dayOfEra_split dayOfEra low (by omega)
    rw [eraDaysWithoutLeaps_div century block year day hcentury hblock hyear hday hleap hinside,
      eraYearStart_split century block year hblock hyear]
    omega

/-- What `civilFromDays` computes, step by step: the era and the day of the
era, the March-based year of the era and the day of that year, the
March-based month, and from them the date; each step within its bounds. -/
theorem civilFromDays_steps (days : Int) :
    ∃ era dayOfEra yearOfEra dayOfYear marchMonth day month year : Int,
      days + 719468 = era * 146097 + dayOfEra ∧ 0 ≤ dayOfEra ∧ dayOfEra ≤ 146096 ∧
      yearOfEra = eraDaysWithoutLeaps dayOfEra / 365 ∧ 0 ≤ yearOfEra ∧ yearOfEra ≤ 399 ∧
      dayOfYear = dayOfEra - eraYearStart yearOfEra ∧ 0 ≤ dayOfYear ∧ dayOfYear ≤ 365 ∧
      marchMonth = (5 * dayOfYear + 2) / 153 ∧ day = dayOfYear - (153 * marchMonth + 2) / 5 + 1 ∧
      month = (if marchMonth < 10 then marchMonth + 3 else marchMonth - 9) ∧ year = yearOfEra + era * 400 ∧
      civilFromDays days =
        { year := if month ≤ 2 then year + 1 else year, month := month.toNat, day := day.toNat } := by
  obtain ⟨yearLow, yearHigh, startLow, startHigh⟩ :=
    yearOfEra_bounds (days + 719468 - (days + 719468) / 146097 * 146097) (by omega) (by omega)
  exact ⟨(days + 719468) / 146097, days + 719468 - (days + 719468) / 146097 * 146097, _, _, _, _, _, _,
    by omega, by omega, by omega, rfl, yearLow, yearHigh, rfl, by omega, startHigh, rfl, rfl, rfl, rfl, rfl⟩

/-- Reading a date back into a day count undoes `civilFromDays`. -/
theorem daysFromCivil_civilFromDays (days : Int) : daysFromCivil (civilFromDays days) = days := by
  obtain ⟨era, dayOfEra, yearOfEra, dayOfYear, marchMonth, day, month, year, hdays, eraLow, eraHigh, hyearOfEra,
    yearLow, yearHigh, hdayOfYear, dayLow, dayHigh, hmarchMonth, hday, hmonth, hyear, shape⟩ := civilFromDays_steps days
  rw [shape]
  unfold eraYearStart at hdayOfYear
  have eraBack : year / 400 = era := by omega
  have yearOfEraBack : year - era * 400 = yearOfEra := by omega
  -- the month and day come back as written, and the March-based year with them
  have hmarch : ((month.toNat : Int) + 9) % 12 = marchMonth := by
    rw [hmonth]
    split <;> omega
  have hdayNat : ((day.toNat : Nat) : Int) = day := by omega
  have hshift : (if month.toNat ≤ 2 then (if month ≤ 2 then year + 1 else year) - 1
      else if month ≤ 2 then year + 1 else year) = year := by
    have hmonthLow : 1 ≤ month := by rw [hmonth]; split <;> omega
    by_cases early : month ≤ 2
    · rw [if_pos early, if_pos (by omega)]
      omega
    · rw [if_neg early, if_neg (by omega)]
  simp only [daysFromCivil, hshift, hmarch, hdayNat, eraBack, yearOfEraBack]
  omega

/-- The day count of 1 January of a year. -/
def yearStart (year : Int) : Int := daysFromCivil { year := year, month := 1, day := 1 }

/-- A year lasts 365 days, and one more in a leap year. -/
theorem yearStart_succ (year : Int) :
    yearStart (year + 1) = yearStart year + 365 + (if isLeapYear year then 1 else 0) := by
  unfold yearStart daysFromCivil isLeapYear
  split <;> simp_all <;> omega

/-- The first of January after the March-based year `yearOfEra` of an era. -/
theorem yearStart_of_era (era yearOfEra : Int) (low : 0 ≤ yearOfEra) (high : yearOfEra ≤ 399) :
    yearStart (yearOfEra + era * 400 + 1) = era * 146097 + eraYearStart yearOfEra + 306 - 719468 := by
  unfold yearStart daysFromCivil eraYearStart
  simp only [show (1 : Nat) ≤ 2 by decide, ↓reduceIte]
  have eraBack : (yearOfEra + era * 400 + 1 - 1) / 400 = era := by omega
  rw [eraBack]
  omega

/-- The date of a day count lies in its year: on or after its 1 January and
before the next. -/
theorem yearStart_le_and_lt (days : Int) :
    yearStart (civilFromDays days).year ≤ days ∧ days < yearStart ((civilFromDays days).year + 1) := by
  obtain ⟨era, dayOfEra, yearOfEra, dayOfYear, marchMonth, day, month, year, hdays, eraLow, eraHigh, hyearOfEra,
    yearLow, yearHigh, hdayOfYear, dayLow, dayHigh, hmarchMonth, hday, hmonth, hyear, shape⟩ := civilFromDays_steps days
  rw [shape]
  have marchYear := yearStart_of_era era yearOfEra yearLow yearHigh
  subst hyear
  simp only
  by_cases early : month ≤ 2
  · -- January and February belong to the year after the March-based one
    rw [if_pos early]
    have next := yearStart_succ (yearOfEra + era * 400 + 1)
    have late : 306 ≤ dayOfYear := by rw [hmonth] at early; split at early <;> omega
    split at next <;> omega
  · rw [if_neg early]
    have previous := yearStart_succ (yearOfEra + era * 400)
    have notLate : dayOfYear < 306 := by rw [hmonth] at early; split at early <;> omega
    split at previous <;> omega

/-- The ordinal day of a date is its distance from 1 January, plus one. -/
theorem ordinal_civilFromDays (days : Int) :
    ((civilFromDays days).ordinal : Int) = days - yearStart (civilFromDays days).year + 1 := by
  have inYear := yearStart_le_and_lt days
  unfold Date.ordinal
  rw [daysFromCivil_civilFromDays]
  unfold yearStart at inYear ⊢
  omega

/-- Two day counts show the same year and ordinal day only when they are the
same day. -/
theorem civilFromDays_sameDay_iff (first second : Int) :
    ((civilFromDays first).year = (civilFromDays second).year ∧
        (civilFromDays first).ordinal = (civilFromDays second).ordinal) ↔ first = second := by
  constructor
  · rintro ⟨sameYear, sameOrdinal⟩
    have firstOrdinal := ordinal_civilFromDays first
    have secondOrdinal := ordinal_civilFromDays second
    rw [sameYear, sameOrdinal] at firstOrdinal
    omega
  · rintro rfl
    exact ⟨rfl, rfl⟩

/-- Weeks since Monday 1969-12-29: the days of one Monday-to-Sunday week, and
only they, share it. -/
def weekIndex (days : Int) : Int := (days + 3) / 7

/-- The week holding 4 January, which is week 1 of the ISO year. -/
def firstIsoWeek (year : Int) : Int := weekIndex (yearStart year + 3)

/-- An ISO year lasts from its first week to the first week of the next. -/
theorem isoWeeksInYear_eq (year : Int) :
    (isoWeeksInYear year : Int) = firstIsoWeek (year + 1) - firstIsoWeek year := by
  have next := yearStart_succ year
  unfold isoWeeksInYear firstIsoWeek weekIndex weekdayFromMonday
  rw [show daysFromCivil { year := year, month := 1, day := 1 } = yearStart year from rfl]
  cases hleap : isLeapYear year <;> simp only [hleap] at next ⊢ <;> split <;> simp_all <;> omega

/-- The ISO week of a day count is its Monday-to-Sunday week, numbered from
the first week of the one ISO year whose weeks hold it. -/
theorem isoWeek_civilFromDays (days : Int) :
    ∃ year, firstIsoWeek year ≤ weekIndex days ∧ weekIndex days < firstIsoWeek (year + 1) ∧
      (civilFromDays days).isoWeek =
        { year := year, week := (weekIndex days - firstIsoWeek year + 1).toNat } := by
  obtain ⟨low, high⟩ := yearStart_le_and_lt days
  have ordinal := ordinal_civilFromDays days
  have weeksPrevious := isoWeeksInYear_eq ((civilFromDays days).year - 1)
  have weeksThis := isoWeeksInYear_eq (civilFromDays days).year
  have stepPrevious := yearStart_succ ((civilFromDays days).year - 1)
  have stepThis := yearStart_succ (civilFromDays days).year
  have stepNext := yearStart_succ ((civilFromDays days).year + 1)
  unfold Date.isoWeek
  rw [daysFromCivil_civilFromDays]
  generalize (civilFromDays days).ordinal = dayOfYear at *
  generalize (civilFromDays days).year = year at *
  rw [Int.sub_add_cancel] at weeksPrevious stepPrevious
  unfold firstIsoWeek weekIndex at *
  unfold weekdayFromMonday
  simp only
  split
  · -- the first days of January before week 1 close the previous ISO year
    refine ⟨year - 1, by split at stepPrevious <;> omega, ?_, ?_⟩
    · rw [Int.sub_add_cancel]
      omega
    · rw [IsoWeek.mk.injEq]
      omega
  · split
    · -- the last days of December after its last week open the next ISO year
      refine ⟨year + 1, by omega, by split at stepNext <;> omega, ?_⟩
      rw [IsoWeek.mk.injEq]
      omega
    · refine ⟨year, by omega, by omega, ?_⟩
      rw [IsoWeek.mk.injEq]
      omega

/-- Later years start later. -/
theorem yearStart_mono {year later : Int} (before : year ≤ later) :
    yearStart year ≤ yearStart later := by
  obtain ⟨gap, rfl⟩ : ∃ gap : Nat, later = year + gap := ⟨(later - year).toNat, by omega⟩
  induction gap with
  | zero => simp
  | succ gap ih =>
      have step := yearStart_succ (year + gap)
      rw [show year + ((gap + 1 : Nat) : Int) = year + gap + 1 by omega]
      split at step <;> omega

/-- ISO years follow each other: a later year starts no earlier week. -/
theorem firstIsoWeek_mono {year later : Int} (before : year ≤ later) :
    firstIsoWeek year ≤ firstIsoWeek later := by
  have starts := yearStart_mono before
  unfold firstIsoWeek weekIndex
  omega

/-- Two day counts fall in the same ISO week exactly when they fall in the
same Monday-to-Sunday week. -/
theorem isoWeek_civilFromDays_eq_iff (first second : Int) :
    (civilFromDays first).isoWeek = (civilFromDays second).isoWeek ↔
      weekIndex first = weekIndex second := by
  obtain ⟨firstYear, firstLow, firstHigh, firstWeek⟩ := isoWeek_civilFromDays first
  obtain ⟨secondYear, secondLow, secondHigh, secondWeek⟩ := isoWeek_civilFromDays second
  rw [firstWeek, secondWeek, IsoWeek.mk.injEq]
  constructor
  · rintro ⟨rfl, sameNumber⟩
    omega
  · intro sameWeek
    -- one week lies in one ISO year, since ISO years do not overlap
    have sameYear : firstYear = secondYear := by
      rcases Int.lt_trichotomy firstYear secondYear with earlier | same | later
      · have := firstIsoWeek_mono (show firstYear + 1 ≤ secondYear by omega)
        omega
      · exact same
      · have := firstIsoWeek_mono (show secondYear + 1 ≤ firstYear by omega)
        omega
    subst sameYear
    omega

/-- Day counts come in the order of the dates they show: by year, then by
ordinal day. -/
theorem le_iff_civilFromDays (first second : Int) :
    first ≤ second ↔ (civilFromDays first).year < (civilFromDays second).year ∨
      ((civilFromDays first).year = (civilFromDays second).year ∧
        (civilFromDays first).ordinal ≤ (civilFromDays second).ordinal) := by
  obtain ⟨firstLow, firstHigh⟩ := yearStart_le_and_lt first
  obtain ⟨secondLow, secondHigh⟩ := yearStart_le_and_lt second
  have firstOrdinal := ordinal_civilFromDays first
  have secondOrdinal := ordinal_civilFromDays second
  generalize (civilFromDays first).year = firstYear at *
  generalize (civilFromDays second).year = secondYear at *
  constructor
  · intro before
    rcases Int.lt_trichotomy firstYear secondYear with earlier | same | later
    · exact Or.inl earlier
    · subst same
      omega
    · have := yearStart_mono (show secondYear + 1 ≤ firstYear by omega)
      omega
  · rintro (earlier | ⟨rfl, ordinal⟩)
    · have := yearStart_mono (show firstYear + 1 ≤ secondYear by omega)
      omega
    · omega

/-- The local date of a stamp as a day count from 1970-01-01; local dates
come in the order of these counts. -/
def Stamp.dayNumber (stamp : Stamp) : Int := daysFromCivil stamp.date

/-- A stamp's day number is its local time in whole days. -/
theorem Stamp.dayNumber_eq (stamp : Stamp) :
    stamp.dayNumber = (stamp.instant.seconds + stamp.offset) / secondsPerDay :=
  daysFromCivil_civilFromDays _

/-- A stamp's local date is the date of its day number. -/
theorem Stamp.date_eq (stamp : Stamp) : stamp.date = civilFromDays stamp.dayNumber := by
  rw [Stamp.dayNumber_eq]
  rfl

/-- Day numbers of stamps are in the order of their local dates, by year and
then by ordinal day. -/
theorem Stamp.dayNumber_le_iff (first second : Stamp) :
    first.dayNumber ≤ second.dayNumber ↔ first.date.year < second.date.year ∨
      (first.date.year = second.date.year ∧ first.date.ordinal ≤ second.date.ordinal) := by
  rw [Stamp.date_eq first, Stamp.date_eq second]
  exact le_iff_civilFromDays _ _

/-- Instants are ordered by their seconds, then by their nanoseconds. -/
theorem Instant.lt_iff (first second : Instant) :
    first < second ↔ first.seconds < second.seconds ∨
      (first.seconds = second.seconds ∧ first.nanos < second.nanos) := by
  show Instant.before first second = true ↔ _
  simp [Instant.before]

/-- The order of instants, read on their parts. -/
theorem Instant.le_iff (first second : Instant) :
    first ≤ second ↔ first.seconds < second.seconds ∨
      (first.seconds = second.seconds ∧ first.nanos ≤ second.nanos) := by
  show ¬ second < first ↔ _
  rw [Instant.lt_iff]
  omega

end BackupRotation.Calendar
