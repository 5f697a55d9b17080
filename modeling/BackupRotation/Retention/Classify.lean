import BackupRotation.Calendar.Instant
/-!
# The decaying retention rule

Snapshots are classified newest first. The newest is always kept and
becomes the *cursor*, the most recent snapshot kept so far. Each older
snapshot is then compared with the cursor:

* taken after the hourly cutoff, it is kept whatever else holds;
* taken after the daily cutoff, it is removed when it falls on the same
  local calendar day as the cursor;
* older still, it is removed when it falls in the same ISO week.

A kept snapshot becomes the new cursor. The effect is that recent history is
kept in full, then thinned to one snapshot per day, then to one per week;
the one kept for a day or week is the latest of it, since the sweep meets it
first.

The rule reads calendar days and weeks off each stamp's own offset, so it is
meaningful in any zone; it never looks at the order of its input, which need
not be sorted.
-/

namespace BackupRotation.Retention

open Calendar

/-- Whether two stamps show the same local calendar day. -/
def sameCalendarDay (first second : Stamp) : Bool :=
  first.date.year == second.date.year && first.date.ordinal == second.date.ordinal

/-- Whether two stamps fall in the same ISO week of their local dates. -/
def sameIsoWeek (first second : Stamp) : Bool :=
  first.date.isoWeek == second.date.isoWeek

/-- Whether `candidate` duplicates the kept snapshot `cursor` under the two
cutoffs. -/
def duplicates (hourly daily cursor candidate : Stamp) : Bool :=
  if hourly.instant < candidate.instant then false
  else if daily.instant < candidate.instant then sameCalendarDay cursor candidate
  else sameIsoWeek cursor candidate

/-- Removal flags for snapshots met from newer to older, starting from the
kept snapshot `cursor`. -/
def sweep (hourly daily : Stamp) : Stamp → List Stamp → List Bool
  | _, [] => []
  | cursor, candidate :: older =>
      let duplicate := duplicates hourly daily cursor candidate
      duplicate :: sweep hourly daily (if duplicate then cursor else candidate) older

/-- Removal flags for a list of snapshot times, oldest first: one flag per
time, the last one always `false`. -/
def classify (times : List Stamp) (hourly daily : Stamp) : List Bool :=
  match times.reverse with
  | [] => []
  | newest :: older => (false :: sweep hourly daily newest older).reverse

end BackupRotation.Retention
