import BackupRotation.Settings.Duration
import BackupRotation.Proofs.PruneCount
import BackupRotation.Proofs.TextEdits
/-!
# Reading a retention length

A retention length is `<amount> <unit>`, split at the first space. The
reader makes five checks in turn and reports the first that fails: there
is a space; the amount is a signed 64-bit integer; the unit, trimmed, is
`hours` or `days`; the length in seconds fits the span range; and it
reaches the minimum number of hours the setting asks for.

`RetentionVerdict` states these checks declaratively, one constructor per
outcome, each with the facts that lead to it and the reason it reports.
Every text has a verdict (`retentionVerdict_exists`), the reader returns it
(`parseRetention_of_verdict`), and since the reader is a function and its
reasons are told apart, the verdict is unique
(`parseRetention_first_failing_check`). So once the minimum itself fits the
span range the reader always answers, accepts exactly the lengths that pass
all five checks, and returns for them the span of the amount times the
unit's seconds.

The reader checks that an amount of hours or days fits 64 bits in seconds
before it checks the span range. The first check adds nothing: a count of
seconds within the span range fits 64 bits (`Span.ofHours?_eq`).
-/

namespace BackupRotation.Settings

open Calendar Text

/-! ### The pieces of a length -/

/-- Text the signed 64-bit reader accepts, with its value: digits with an
optional `+` or `-` in front, for a value within the 64-bit range. -/
def Int64Text (text : List Char) (count : Int) : Prop :=
  int64Min ≤ count ∧ count ≤ int64Max ∧ ∃ digits : List Char, digits ≠ [] ∧ (∀ c ∈ digits, c.isDigit = true) ∧
    ((text = digits ∨ text = '+' :: digits) ∧ count = decimalValue digits ∨
      text = '-' :: digits ∧ count = -(decimalValue digits : Int))

theorem readInt64?_eq_some_iff {text : List Char} {count : Int} :
    readInt64? (String.ofList text) = some count ↔ Int64Text text count := by
  rw [readInt64?, readSigned?_eq_some, String.toList_ofList]
  rfl

/-- The seconds a unit word stands for. -/
def unitSeconds : List Char → Option Int
  | ['h', 'o', 'u', 'r', 's'] => some 3600
  | ['d', 'a', 'y', 's'] => some 86400
  | _ => none

/-- Whole seconds whose span lies in the range spans hold. -/
def SecondsInRange (seconds : Int) : Prop :=
  -spanLimit ≤ seconds * nanosPerSecond ∧ seconds * nanosPerSecond ≤ spanLimit

theorem Span.ofSeconds?_eq_some_iff {seconds : Int} {span : Span} :
    Span.ofSeconds? seconds = some span ↔ SecondsInRange seconds ∧ span = ⟨seconds * nanosPerSecond⟩ := by
  unfold Span.ofSeconds? Span.ofParts? Span.ofNanos? SecondsInRange
  rw [if_pos (by decide)]
  by_cases range : -spanLimit ≤ seconds * nanosPerSecond ∧ seconds * nanosPerSecond ≤ spanLimit
  · simp [range, eq_comm]
  · simp [range]

theorem Span.ofSeconds?_eq_none_iff {seconds : Int} : Span.ofSeconds? seconds = none ↔ ¬ SecondsInRange seconds := by
  unfold Span.ofSeconds? Span.ofParts? Span.ofNanos? SecondsInRange
  rw [if_pos (by decide)]
  by_cases range : -spanLimit ≤ seconds * nanosPerSecond ∧ seconds * nanosPerSecond ≤ spanLimit <;>
    simp [range]

/-- Spans of whole seconds compare as their seconds. -/
theorem Span.seconds_lt_iff {first second : Int} :
    (⟨first * nanosPerSecond⟩ : Span) < ⟨second * nanosPerSecond⟩ ↔ first < second := by
  change first * (nanosPerSecond : Int) < second * nanosPerSecond ↔ _
  simp only [nanosPerSecond]
  omega

/-- Seconds past the 64-bit range are past the span range too. -/
theorem Span.ofSeconds?_of_not_fitsInt64 {seconds : Int} (wide : fitsInt64 seconds = false) :
    Span.ofSeconds? seconds = none := by
  rw [Span.ofSeconds?_eq_none_iff, SecondsInRange, spanLimit, nanosPerSecond]
  rintro ⟨low, high⟩
  have fits : fitsInt64 seconds = true := by
    unfold fitsInt64 int64Min int64Max
    rw [Bool.and_eq_true]
    exact ⟨decide_eq_true (by omega), decide_eq_true (by omega)⟩
  rw [fits] at wide
  cases wide

theorem Span.ofHours?_eq (hours : Int) : Span.ofHours? hours = Span.ofSeconds? (hours * 3600) := by
  unfold Span.ofHours?
  split
  · rfl
  · rename_i wide
    exact (Span.ofSeconds?_of_not_fitsInt64 (Bool.eq_false_iff.mpr wide)).symm

theorem Span.ofDays?_eq (days : Int) : Span.ofDays? days = Span.ofSeconds? (days * 86400) := by
  unfold Span.ofDays?
  split
  · rfl
  · rename_i wide
    exact (Span.ofSeconds?_of_not_fitsInt64 (Bool.eq_false_iff.mpr wide)).symm

/-- The span the reader asks for by unit word: the amount times the unit's
seconds, or nothing for another word. -/
theorem unitSpan_eq (count : Int) (unit : List Char) :
    (if String.ofList unit == "hours" then some (Span.ofHours? count)
      else if String.ofList unit == "days" then some (Span.ofDays? count) else none) =
      (unitSeconds unit).map fun seconds => Span.ofSeconds? (count * seconds) := by
  have spells : ∀ word : String, (String.ofList unit == word) = true ↔ unit = word.toList := fun word => by
    rw [beq_iff_eq, ← String.toList_inj, String.toList_ofList]
  have hoursChars : "hours".toList = ['h', 'o', 'u', 'r', 's'] := by decide
  have daysChars : "days".toList = ['d', 'a', 'y', 's'] := by decide
  by_cases hours : unit = ['h', 'o', 'u', 'r', 's']
  · rw [if_pos ((spells _).mpr (hoursChars ▸ hours)), hours]
    simp [unitSeconds, Span.ofHours?_eq]
  rw [if_neg fun same => hours (hoursChars ▸ (spells _).mp same)]
  by_cases days : unit = ['d', 'a', 'y', 's']
  · rw [if_pos ((spells _).mpr (daysChars ▸ days)), days]
    simp [unitSeconds, Span.ofDays?_eq]
  rw [if_neg fun same => days (daysChars ▸ (spells _).mp same)]
  -- any other word has no seconds
  have other : unitSeconds unit = none := by
    unfold unitSeconds
    split <;> simp_all
  rw [other, Option.map_none]

/-! ### The verdict -/

/-- The verdict on a retention length, check by check: the first check that
fails gives the reason, and a length that passes all five is its span. -/
inductive RetentionVerdict (value : String) (minHours : Int) : Except String Span → Prop
  | unseparated (noSpace : ' ' ∉ value.toList) :
      RetentionVerdict value minHours (.error "expected '<amount> hours|days'")
  | notWhole {amount unit : List Char} (split : value.toList = amount ++ ' ' :: unit) (first : ' ' ∉ amount)
      (unreadable : ∀ count, ¬ Int64Text amount count) :
      RetentionVerdict value minHours (.error ("'" ++ String.ofList amount ++ "' is not a whole number"))
  | unknownUnit {amount unit : List Char} {count : Int} (split : value.toList = amount ++ ' ' :: unit)
      (first : ' ' ∉ amount) (whole : Int64Text amount count) (unknown : unitSeconds (trimChars unit) = none) :
      RetentionVerdict value minHours
        (.error ("unit '" ++ String.ofList (trimChars unit) ++ "' must be 'hours' or 'days'"))
  | outOfRange {amount unit : List Char} {count seconds : Int} (split : value.toList = amount ++ ' ' :: unit)
      (first : ' ' ∉ amount) (whole : Int64Text amount count) (known : unitSeconds (trimChars unit) = some seconds)
      (outside : ¬ SecondsInRange (count * seconds)) :
      RetentionVerdict value minHours (.error "out of range")
  | short {amount unit : List Char} {count seconds : Int} (split : value.toList = amount ++ ' ' :: unit)
      (first : ' ' ∉ amount) (whole : Int64Text amount count) (known : unitSeconds (trimChars unit) = some seconds)
      (inside : SecondsInRange (count * seconds)) (below : count * seconds < minHours * 3600) :
      RetentionVerdict value minHours (.error ("must be at least " ++ toString minHours ++ " hours"))
  | accepted {amount unit : List Char} {count seconds : Int} (split : value.toList = amount ++ ' ' :: unit)
      (first : ' ' ∉ amount) (whole : Int64Text amount count) (known : unitSeconds (trimChars unit) = some seconds)
      (inside : SecondsInRange (count * seconds)) (enough : minHours * 3600 ≤ count * seconds) :
      RetentionVerdict value minHours (.ok ⟨count * seconds * nanosPerSecond⟩)

/-- Every text has a verdict. -/
theorem retentionVerdict_exists (value : String) (minHours : Int) :
    ∃ verdict, RetentionVerdict value minHours verdict := by
  rcases splitting : splitAtFirst ' ' value.toList with _ | ⟨amount, unit⟩
  · exact ⟨_, .unseparated (splitAtFirst_eq_none_iff |>.mp splitting)⟩
  obtain ⟨split, first⟩ := splitAtFirst_eq_some_iff |>.mp splitting
  by_cases readable : ∃ count, Int64Text amount count
  swap
  · exact ⟨_, .notWhole split first fun count whole => readable ⟨count, whole⟩⟩
  obtain ⟨count, whole⟩ := readable
  rcases known : unitSeconds (trimChars unit) with _ | seconds
  · exact ⟨_, .unknownUnit split first whole known⟩
  by_cases inside : SecondsInRange (count * seconds)
  swap
  · exact ⟨_, .outOfRange split first whole known inside⟩
  by_cases below : count * seconds < minHours * 3600
  · exact ⟨_, .short split first whole known inside below⟩
  · exact ⟨_, .accepted split first whole known inside (Int.not_lt.mp below)⟩

/-- The reader returns the verdict, its reason given as a refused setting. -/
theorem parseRetention_of_verdict (key : String) {value : String} {minHours : Int}
    (fits : (Span.ofHours? minHours).isSome) {verdict : Except String Span}
    (judged : RetentionVerdict value minHours verdict) :
    parseRetention key value minHours = some (verdict.mapError (Failure.invalidRetention key value)) := by
  obtain ⟨minimum, minimumAt⟩ := Option.isSome_iff_exists.mp fits
  obtain ⟨-, rfl⟩ := Span.ofSeconds?_eq_some_iff |>.mp ((Span.ofHours?_eq minHours) ▸ minimumAt)
  unfold parseRetention
  cases judged with
  | unseparated noSpace =>
      simp only [splitAtFirst_eq_none_iff |>.mpr noSpace]
      rfl
  | @notWhole amount unit split first unreadable =>
      have unread : readInt64? (String.ofList amount) = none :=
        Option.eq_none_iff_forall_ne_some.mpr fun count read => unreadable count (readInt64?_eq_some_iff |>.mp read)
      simp only [splitAtFirst_eq_some_iff |>.mpr ⟨split, first⟩, unread]
      rfl
  | unknownUnit split first whole unknown =>
      simp only [splitAtFirst_eq_some_iff |>.mpr ⟨split, first⟩, readInt64?_eq_some_iff |>.mpr whole, unitSpan_eq,
        unknown, Option.map_none]
      rfl
  | outOfRange split first whole known outside =>
      simp only [splitAtFirst_eq_some_iff |>.mpr ⟨split, first⟩, readInt64?_eq_some_iff |>.mpr whole, unitSpan_eq,
        known, Option.map_some, Span.ofSeconds?_eq_none_iff |>.mpr outside]
      rfl
  | short split first whole known inside below =>
      simp only [splitAtFirst_eq_some_iff |>.mpr ⟨split, first⟩, readInt64?_eq_some_iff |>.mpr whole, unitSpan_eq,
        known, Option.map_some, Span.ofSeconds?_eq_some_iff |>.mpr ⟨inside, rfl⟩, minimumAt,
        if_pos (Span.seconds_lt_iff |>.mpr below)]
      rfl
  | accepted split first whole known inside enough =>
      simp only [splitAtFirst_eq_some_iff |>.mpr ⟨split, first⟩, readInt64?_eq_some_iff |>.mpr whole, unitSpan_eq,
        known, Option.map_some, Span.ofSeconds?_eq_some_iff |>.mpr ⟨inside, rfl⟩, minimumAt,
        if_neg (mt (Span.seconds_lt_iff |>.mp) (Int.not_lt.mpr enough))]
      rfl

theorem Except.mapError_injective {ε ε' α : Type} {f : ε → ε'} (injective : Function.Injective f) :
    Function.Injective (Except.mapError f : Except ε α → Except ε' α) := by
  intro first second same
  cases first <;> cases second <;> simp only [Except.mapError, Except.error.injEq, Except.ok.injEq,
    reduceCtorEq] at same ⊢
  · exact injective same
  · exact same

/-- The reader answers every retention length once the minimum fits the span
range, with the one verdict its checks give: the reason of the first check
that fails, or the length's span when all pass. -/
theorem parseRetention_first_failing_check (key value : String) (minHours : Int)
    (fits : (Span.ofHours? minHours).isSome) :
    ∃ verdict, parseRetention key value minHours = some (verdict.mapError (Failure.invalidRetention key value)) ∧
      ∀ other, RetentionVerdict value minHours other ↔ other = verdict := by
  obtain ⟨verdict, judged⟩ := retentionVerdict_exists value minHours
  have read := parseRetention_of_verdict key fits judged
  refine ⟨verdict, read, fun other => ⟨fun judgedOther => ?_, fun same => same ▸ judged⟩⟩
  -- the reader is a function, and its refusals keep their reasons apart
  have readOther := parseRetention_of_verdict key fits judgedOther
  exact Except.mapError_injective (fun _ _ same => (Failure.invalidRetention.inj same).2.2)
    (Option.some.inj (readOther.symm.trans read))

theorem parseRetention_first_failing_check_thirtyDays :
    (Span.ofHours? 48).isSome ∧
      ∃ verdict, parseRetention "keepDaily" "30 days" 48 =
          some (verdict.mapError (Failure.invalidRetention "keepDaily" "30 days")) ∧
        ∀ other, RetentionVerdict "30 days" 48 other ↔ other = verdict :=
  ⟨by decide, parseRetention_first_failing_check "keepDaily" "30 days" 48 (by decide)⟩

end BackupRotation.Settings
