import BackupRotation.Calendar.Span
import BackupRotation.Failure
/-!
# Retention lengths in settings

A retention length is written `<amount> hours` or `<amount> days`. The text
is split at its first space; the amount is a signed decimal integer and the
unit, surrounding whitespace removed, one of the two words. The length must
fit the span range and reach the minimum the setting requires.

The minimum itself is a number of hours that must fit the span range; a
minimum outside it is a programming error rather than bad input, and is
reported as `none`, separately from the reasons a setting is refused.
-/

namespace BackupRotation.Settings

open Calendar Text

/-- Read a retention length for a setting with a minimum in hours. The
result is `none` only when the text is a valid length and the minimum does
not fit the span range. -/
def parseRetention (key value : String) (minHours : Int) : Option (Outcome Span) :=
  let invalid := fun reason => some (Except.error (Failure.invalidRetention key value reason))
  match splitAtFirst ' ' value.toList with
  | none => invalid "expected '<amount> hours|days'"
  | some (amount, unit) =>
      match readInt64? (String.ofList amount) with
      | none => invalid ("'" ++ String.ofList amount ++ "' is not a whole number")
      | some count =>
          let unit := String.ofList (trimChars unit)
          let span? : Option (Option Span) :=
            if unit == "hours" then some (Span.ofHours? count)
            else if unit == "days" then some (Span.ofDays? count)
            else none
          match span? with
          | none => invalid ("unit '" ++ unit ++ "' must be 'hours' or 'days'")
          | some none => invalid "out of range"
          | some (some span) =>
              match Span.ofHours? minHours with
              | none => none
              | some minimum =>
                  if span < minimum then
                    invalid ("must be at least " ++ toString minHours ++ " hours")
                  else some (.ok span)

end BackupRotation.Settings
