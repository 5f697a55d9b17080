import Mathlib.Data.List.Induction
import BackupRotation.Proofs.Classify
import BackupRotation.Proofs.Cutoffs
/-!
# Trimming in several steps

A target is trimmed after every snapshot, each time against the clock. This
module shows that the schedule of those trims does not matter: trimming a
chronological history once with some cutoffs, appending newer snapshots and
trimming again with cutoffs no earlier leaves exactly what one trim of the
whole history with the second cutoffs leaves.

The proof reads the classifier through its specification (`Proofs.Classify`).
Two facts carry it. A trim with earlier cutoffs removes no more than one with
later cutoffs, since a bucket only widens from a day to a week as its cutoff
moves. And the newest entry of a bucket always survives, so an entry removed
early never was the only later entry of a bucket.

A run of a target appends snapshots and trims them against the clock, step
after step. Since the cutoffs of a policy move forward with the clock away
from leap seconds (`Proofs.Cutoffs`), such a run ends with what one trim at
its last instant keeps. At a leap second the cutoffs jump ahead of those of
the next instant, and a trim there can remove what the later trim would have
kept.
-/

namespace BackupRotation.Retention

open Calendar

/-- The entries a trim with these cutoffs keeps: those whose removal flag is
down. -/
def survivors (times : List Stamp) (hourly daily : Stamp) : List Stamp :=
  ((times.zip (classify times hourly daily)).filter fun pair => !pair.2).map Prod.fst

/-- The entries the retention rule keeps, read off the rule itself. -/
def retained (hourly daily : Stamp) : List Stamp → List Stamp
  | [] => []
  | entry :: later =>
      if redundant hourly daily entry later then retained hourly daily later
      else entry :: retained hourly daily later

/-- Keeping the entries whose rule flag is down is keeping what the rule keeps. -/
theorem keep_zip_redundancyFlags (hourly daily : Stamp) (times : List Stamp) :
    ((times.zip (redundancyFlags hourly daily times)).filter fun pair => !pair.2).map Prod.fst =
      retained hourly daily times := by
  induction times with
  | nil => rfl
  | cons entry later ih =>
      by_cases removed : redundant hourly daily entry later = true
      · simp [redundancyFlags, retained, removed, ih]
      · simp [redundancyFlags, retained, removed, ih]

/-- On chronological times a trim keeps what the rule keeps. -/
theorem survivors_eq_retained (times : List Stamp) (hourly daily : Stamp)
    (chronological : Chronological times) :
    survivors times hourly daily = retained hourly daily times := by
  rw [survivors, classify_eq_redundancyFlags times hourly daily chronological,
    keep_zip_redundancyFlags]

/-- What the rule keeps is a part of the history, in order. -/
theorem retained_sublist (hourly daily : Stamp) (times : List Stamp) :
    (retained hourly daily times).Sublist times := by
  induction times with
  | nil => exact List.Sublist.slnil
  | cons entry later ih =>
      unfold retained
      split
      · exact ih.cons entry
      · exact ih.cons_cons entry

/-- A part of a chronological history, in order, is chronological. -/
theorem Chronological.sublist {part times : List Stamp} (inside : part.Sublist times)
    (chronological : Chronological times) : Chronological part :=
  List.Pairwise.sublist inside chronological

/-- A later daily cutoff only widens a bucket, from a calendar day to the ISO
week around it. -/
theorem inBucket_of_le {earlier later entry other : Stamp}
    (before : earlier.instant ≤ later.instant) (bucket : inBucket earlier entry other = true) :
    inBucket later entry other = true := by
  rw [inBucket_iff] at bucket ⊢
  simp only [weekIndex, Instant.le_iff, Instant.lt_iff] at before bucket ⊢
  omega

/-- Buckets chain forward: an entry in the bucket of an older one, with a
newer entry in its own bucket under an earlier cutoff, brings that entry into
the older one's bucket. -/
theorem inBucket_trans {earlier later first second third : Stamp}
    (before : earlier.instant ≤ later.instant) (ordered : first.instant ≤ second.instant)
    (firstBucket : inBucket later first second = true)
    (secondBucket : inBucket earlier second third = true) :
    inBucket later first third = true := by
  rw [inBucket_iff] at firstBucket secondBucket ⊢
  simp only [weekIndex, Instant.le_iff, Instant.lt_iff] at before ordered firstBucket secondBucket ⊢
  omega

/-- What a trim with earlier cutoffs removes, one with later cutoffs removes
too. -/
theorem redundant_of_le {hourly daily laterHourly laterDaily entry : Stamp} {later : List Stamp}
    (hourlyBefore : hourly.instant ≤ laterHourly.instant)
    (dailyBefore : daily.instant ≤ laterDaily.instant)
    (removed : redundant hourly daily entry later = true) :
    redundant laterHourly laterDaily entry later = true := by
  rw [redundant_iff] at removed ⊢
  obtain ⟨old, other, otherLater, bucket⟩ := removed
  refine ⟨?_, other, otherLater, inBucket_of_le dailyBefore bucket⟩
  simp only [Instant.le_iff] at old hourlyBefore ⊢
  omega

/-- The newest entry of a bucket survives: if some entry after `first` lies in
its bucket under the later cutoff, then some entry the earlier trim keeps
does. -/
theorem exists_retained_inBucket (hourly daily laterDaily first : Stamp)
    (dailyBefore : daily.instant ≤ laterDaily.instant) (later : List Stamp)
    (chronological : Chronological (first :: later))
    (found : ∃ other ∈ later, inBucket laterDaily first other = true) :
    ∃ other ∈ retained hourly daily later, inBucket laterDaily first other = true := by
  induction later with
  | nil => simp at found
  | cons next rest ih =>
      have firstBeforeAll := (List.pairwise_cons.mp chronological).1
      have restChronological : Chronological (first :: rest) :=
        chronological.sublist (List.Sublist.cons_cons first (List.sublist_cons_self next rest))
      by_cases inRest : ∃ other ∈ rest, inBucket laterDaily first other = true
      · obtain ⟨other, otherKept, bucket⟩ := ih restChronological inRest
        refine ⟨other, ?_, bucket⟩
        unfold retained
        split
        · exact otherKept
        · exact List.mem_cons_of_mem next otherKept
      · -- only `next` lies in the bucket, so no later entry can make it redundant
        have nextBucket : inBucket laterDaily first next = true := by
          obtain ⟨other, otherLater, bucket⟩ := found
          rcases List.mem_cons.mp otherLater with rfl | otherRest
          · exact bucket
          · exact absurd ⟨other, otherRest, bucket⟩ inRest
        have kept : redundant hourly daily next rest = false := by
          apply Bool.eq_false_iff.mpr
          intro removed
          obtain ⟨_, other, otherRest, bucket⟩ := (redundant_iff _ _ _ _).mp removed
          exact inRest ⟨other, otherRest, inBucket_trans dailyBefore
            (firstBeforeAll next List.mem_cons_self).1 nextBucket bucket⟩
        refine ⟨next, ?_, nextBucket⟩
        simp [retained, kept]

/-- Trimming part of the history early does not change what the rule keeps
once newer entries are appended and the whole is trimmed with cutoffs no
earlier. -/
theorem retained_retained_append {hourly daily laterHourly laterDaily : Stamp}
    (hourlyBefore : hourly.instant ≤ laterHourly.instant)
    (dailyBefore : daily.instant ≤ laterDaily.instant) (newer : List Stamp) (older : List Stamp) :
    Chronological (older ++ newer) →
      retained laterHourly laterDaily (retained hourly daily older ++ newer) =
        retained laterHourly laterDaily (older ++ newer) := by
  induction older with
  | nil => intro _; rfl
  | cons first rest ih =>
      intro chronological
      have restChronological : Chronological (rest ++ newer) :=
        chronological.sublist (List.sublist_cons_self first _)
      have tail := ih restChronological
      by_cases removed : redundant hourly daily first rest = true
      · -- removed early, and removed by the later trim anyway
        have removedLater : redundant laterHourly laterDaily first (rest ++ newer) = true :=
          redundant_of_le hourlyBefore dailyBefore
            ((redundant_iff _ _ _ _).mpr (by
              obtain ⟨old, other, otherRest, bucket⟩ := (redundant_iff _ _ _ _).mp removed
              exact ⟨old, other, List.mem_append_left newer otherRest, bucket⟩))
        simp only [retained, removed, ↓reduceIte, List.cons_append, removedLater, tail]
      · -- kept early: the later trim sees the same bucket members among the survivors
        have sameTest : redundant laterHourly laterDaily first (retained hourly daily rest ++ newer) =
            redundant laterHourly laterDaily first (rest ++ newer) := by
          apply Bool.eq_iff_iff.mpr
          rw [redundant_iff, redundant_iff]
          apply and_congr_right
          intro _
          constructor
          · rintro ⟨other, otherLater, bucket⟩
            exact ⟨other, ((retained_sublist hourly daily rest).append (List.Sublist.refl newer)).subset
              otherLater, bucket⟩
          · rintro ⟨other, otherLater, bucket⟩
            rcases List.mem_append.mp otherLater with otherRest | otherNewer
            · obtain ⟨kept, keptRest, keptBucket⟩ := exists_retained_inBucket hourly daily laterDaily
                first dailyBefore rest
                (chronological.sublist ((List.sublist_append_left rest newer).cons_cons first))
                ⟨other, otherRest, bucket⟩
              exact ⟨kept, List.mem_append_left newer keptRest, keptBucket⟩
            · exact ⟨other, List.mem_append_right _ otherNewer, bucket⟩
        simp only [retained, removed, Bool.false_eq_true, ↓reduceIte, List.cons_append, sameTest, tail]

/-- Trim schedules do not matter: trimming a chronological history, appending
newer entries and trimming again with cutoffs no earlier keeps exactly what
one trim of the whole history with the later cutoffs keeps. -/
theorem survivors_survivors_append (older newer : List Stamp)
    {hourly daily laterHourly laterDaily : Stamp} (chronological : Chronological (older ++ newer))
    (hourlyBefore : hourly.instant ≤ laterHourly.instant)
    (dailyBefore : daily.instant ≤ laterDaily.instant) :
    survivors (survivors older hourly daily ++ newer) laterHourly laterDaily =
      survivors (older ++ newer) laterHourly laterDaily := by
  have olderChronological : Chronological older :=
    chronological.sublist (List.sublist_append_left older newer)
  rw [survivors_eq_retained older hourly daily olderChronological]
  have trimmedChronological : Chronological (retained hourly daily older ++ newer) :=
    chronological.sublist ((retained_sublist hourly daily older).append (List.Sublist.refl newer))
  rw [survivors_eq_retained _ _ _ trimmedChronological, survivors_eq_retained _ _ _ chronological,
    retained_retained_append hourlyBefore dailyBefore newer older chronological]

/-- One step in the life of a target: snapshots appended in time order, or a
trim against the clock. -/
inductive Step where
  | append (entries : List Stamp)
  | trim (now : Stamp)
deriving Repr

/-- The snapshots a step adds. -/
def Step.entries : Step → List Stamp
  | .append entries => entries
  | .trim _ => []

/-- A step whose trim, if it is one, happens away from leap seconds and no
later than `now`. -/
def Step.trimsBy (now : Stamp) : Step → Bool
  | .append _ => true
  | .trim earlier =>
      decide (earlier.instant.nanos < nanosPerSecond) && decide (earlier.instant ≤ now.instant)

/-- The snapshots left after one step. A trim whose cutoffs leave the calendar
stops before touching anything. -/
def Step.apply (policy : Policy) (zone : Zone) (times : List Stamp) : Step → List Stamp
  | .append entries => times ++ entries
  | .trim now =>
      match policy.cutoffs zone now with
      | some (hourly, daily) => survivors times hourly daily
      | none => times

/-- The snapshots left after a run of steps on an empty target. -/
def run (policy : Policy) (zone : Zone) (steps : List Step) : List Stamp :=
  steps.foldl (Step.apply policy zone) []

theorem run_append_singleton (policy : Policy) (zone : Zone) (steps : List Step) (step : Step) :
    run policy zone (steps ++ [step]) = Step.apply policy zone (run policy zone steps) step := by
  simp [run]

theorem flatMap_entries_append_singleton (steps : List Step) (step : Step) :
    (steps ++ [step]).flatMap Step.entries = steps.flatMap Step.entries ++ step.entries := by
  simp

/-- A trim keeps a part of the history, in order. -/
theorem survivors_sublist (times : List Stamp) (hourly daily : Stamp)
    (chronological : Chronological times) : (survivors times hourly daily).Sublist times := by
  rw [survivors_eq_retained times hourly daily chronological]
  exact retained_sublist hourly daily times

/-- What a run leaves is a part of what it appended, in order. -/
theorem run_sublist (policy : Policy) (zone : Zone) (steps : List Step)
    (chronological : Chronological (steps.flatMap Step.entries)) :
    (run policy zone steps).Sublist (steps.flatMap Step.entries) := by
  induction steps using List.reverseRecOn with
  | nil => exact List.Sublist.slnil
  | append_singleton steps step ih =>
      rw [flatMap_entries_append_singleton] at chronological ⊢
      have earlier := ih (chronological.sublist (List.sublist_append_left _ _))
      rw [run_append_singleton]
      cases step with
      | append entries => exact earlier.append (List.Sublist.refl entries)
      | trim now =>
          simp only [Step.apply, Step.entries, List.append_nil]
          split
          · exact (survivors_sublist _ _ _
              ((chronological.sublist (List.sublist_append_left _ _)).sublist earlier)).trans earlier
          · exact earlier

/-- The invariant of a run: against the cutoffs of a later trim, what the run
left trims to what everything it appended trims to, whatever newer snapshots
follow. -/
theorem survivors_run_append (policy : Policy) (zone : Zone) {now hourly daily : Stamp}
    (nowRegular : now.instant.nanos < nanosPerSecond)
    (cut : policy.cutoffs zone now = some (hourly, daily)) (steps : List Step)
    (trimsBefore : ∀ step ∈ steps, step.trimsBy now = true) (newer : List Stamp)
    (chronological : Chronological (steps.flatMap Step.entries ++ newer)) :
    survivors (run policy zone steps ++ newer) hourly daily =
      survivors (steps.flatMap Step.entries ++ newer) hourly daily := by
  induction steps using List.reverseRecOn generalizing newer with
  | nil => rfl
  | append_singleton steps step ih =>
      have earlierTrims : ∀ step ∈ steps, step.trimsBy now = true :=
        fun earlier inside => trimsBefore earlier (List.mem_append_left _ inside)
      rw [flatMap_entries_append_singleton] at chronological ⊢
      rw [run_append_singleton]
      cases step with
      | append entries =>
          simp only [Step.apply, Step.entries, List.append_assoc] at chronological ⊢
          exact ih earlierTrims (entries ++ newer) chronological
      | trim earlier =>
          have regularBefore := trimsBefore (.trim earlier) (List.mem_append_right _ (List.mem_singleton_self _))
          simp only [Step.trimsBy, Bool.and_eq_true, decide_eq_true_eq] at regularBefore
          simp only [Step.apply, Step.entries, List.append_nil] at chronological ⊢
          split
          · -- an earlier trim with cutoffs no later than the last ones changes nothing
            rename_i earlierHourly earlierDaily earlierCut
            obtain ⟨hourlyBefore, dailyBefore⟩ := Policy.cutoffs_mono policy zone regularBefore.1
              nowRegular regularBefore.2 earlierCut cut
            have leftChronological : Chronological (run policy zone steps ++ newer) :=
              chronological.sublist ((run_sublist policy zone steps
                (chronological.sublist (List.sublist_append_left _ _))).append (List.Sublist.refl newer))
            rw [survivors_survivors_append _ _ leftChronological hourlyBefore dailyBefore]
            exact ih earlierTrims newer chronological
          · exact ih earlierTrims newer chronological

/-- Trims at instants up to the last one, away from leap seconds, leave what
one trim at the last instant leaves. -/
theorem run_trim_eq_survivors (policy : Policy) (zone : Zone) (steps : List Step)
    {now hourly daily : Stamp} (chronological : Chronological (steps.flatMap Step.entries))
    (trimsBefore : ∀ step ∈ steps, step.trimsBy now = true)
    (nowRegular : now.instant.nanos < nanosPerSecond)
    (cut : policy.cutoffs zone now = some (hourly, daily)) :
    run policy zone (steps ++ [.trim now]) = survivors (steps.flatMap Step.entries) hourly daily := by
  rw [run_append_singleton]
  simp only [Step.apply, cut]
  have invariant := survivors_run_append policy zone nowRegular cut steps trimsBefore []
    (by simpa using chronological)
  simpa using invariant

/-- Trim schedules do not matter away from leap seconds: a second trim with
cutoffs no earlier undoes nothing the first one did, the cutoffs of a policy
move forward with a clock that is not in a leap second, and so a run of
appends and trims ends with what one trim at its last instant keeps. -/
theorem trim_schedule_irrelevant :
    (∀ (older newer : List Stamp) (hourly daily laterHourly laterDaily : Stamp),
      Chronological (older ++ newer) → hourly.instant ≤ laterHourly.instant →
        daily.instant ≤ laterDaily.instant →
          survivors (survivors older hourly daily ++ newer) laterHourly laterDaily =
            survivors (older ++ newer) laterHourly laterDaily) ∧
    (∀ (policy : Policy) (zone : Zone) (now laterNow hourly daily laterHourly laterDaily : Stamp),
      now.instant.nanos < nanosPerSecond → laterNow.instant.nanos < nanosPerSecond →
        now.instant ≤ laterNow.instant → policy.cutoffs zone now = some (hourly, daily) →
          policy.cutoffs zone laterNow = some (laterHourly, laterDaily) →
            hourly.instant ≤ laterHourly.instant ∧ daily.instant ≤ laterDaily.instant) ∧
    (∀ (policy : Policy) (zone : Zone) (steps : List Step) (now hourly daily : Stamp),
      Chronological (steps.flatMap Step.entries) → (∀ step ∈ steps, step.trimsBy now = true) →
        now.instant.nanos < nanosPerSecond → policy.cutoffs zone now = some (hourly, daily) →
          run policy zone (steps ++ [.trim now]) =
            survivors (steps.flatMap Step.entries) hourly daily) := by
  refine ⟨?_, ?_, ?_⟩
  · intro older newer hourly daily laterHourly laterDaily chronological hourlyBefore dailyBefore
    exact survivors_survivors_append older newer chronological hourlyBefore dailyBefore
  · intro policy zone now laterNow hourly daily laterHourly laterDaily regular laterRegular before
      cut laterCut
    exact Policy.cutoffs_mono policy zone regular laterRegular before cut laterCut
  · intro policy zone steps now hourly daily chronological trimsBefore nowRegular cut
    exact run_trim_eq_survivors policy zone steps chronological trimsBefore nowRegular cut

/-- A policy keeping every snapshot for a day and one a day for two. -/
def dayPolicy : Policy := { keepHourly := ⟨86400000000000⟩, keepDaily := ⟨172800000000000⟩ }

/-- The leap second at the end of 2016, nine tenths in. -/
def leapSecond : Stamp := ⟨⟨1483228799, 1900000000⟩, 0⟩

/-- The first instant of 2017. -/
def afterLeapSecond : Stamp := ⟨⟨1483228800, 0⟩, 0⟩

/-- Two snapshots half a second into the last day of 2016. -/
def lastDayEntries : List Stamp := [⟨⟨1483142400, 500000000⟩, 0⟩, ⟨⟨1483142400, 600000000⟩, 0⟩]

/-- The schedule law on the last day of 2016: two trims with equal cutoffs,
the cutoffs of the last second before the leap second and of the first
instant after it, and a run that trims once at that instant. -/
theorem trim_schedule_irrelevant_lastDay :
    survivors (survivors [⟨⟨1483142400, 500000000⟩, 0⟩] ⟨⟨1483142400, 0⟩, 0⟩ ⟨⟨1483056000, 0⟩, 0⟩ ++
        [⟨⟨1483142400, 600000000⟩, 0⟩]) ⟨⟨1483142400, 0⟩, 0⟩ ⟨⟨1483056000, 0⟩, 0⟩ =
      survivors lastDayEntries ⟨⟨1483142400, 0⟩, 0⟩ ⟨⟨1483056000, 0⟩, 0⟩ ∧
    ((⟨⟨1483142399, 900000000⟩, 0⟩ : Stamp).instant ≤ ⟨1483142400, 0⟩ ∧
      (⟨⟨1483055999, 900000000⟩, 0⟩ : Stamp).instant ≤ ⟨1483056000, 0⟩) ∧
    run dayPolicy Zone.utc ([.append lastDayEntries] ++ [.trim afterLeapSecond]) =
      survivors ([Step.append lastDayEntries].flatMap Step.entries)
        ⟨⟨1483142400, 0⟩, 0⟩ ⟨⟨1483056000, 0⟩, 0⟩ := by
  obtain ⟨law, mono, runLaw⟩ := trim_schedule_irrelevant
  refine ⟨law _ _ _ _ _ _ (by decide) (by decide) (by decide),
    mono dayPolicy Zone.utc ⟨⟨1483228799, 900000000⟩, 0⟩ afterLeapSecond
      ⟨⟨1483142399, 900000000⟩, 0⟩ ⟨⟨1483055999, 900000000⟩, 0⟩
      ⟨⟨1483142400, 0⟩, 0⟩ ⟨⟨1483056000, 0⟩, 0⟩
      (by decide) (by decide) (by decide) (by decide) (by decide),
    runLaw dayPolicy Zone.utc [.append lastDayEntries] afterLeapSecond
      ⟨⟨1483142400, 0⟩, 0⟩ ⟨⟨1483056000, 0⟩, 0⟩ (by decide) (by decide) (by decide) (by decide)⟩

/-- At the leap second ending 2016 the cutoffs lie nine tenths of a second
after those of the next instant, and a trim there removes a snapshot that a
single trim at the next instant keeps. -/
theorem trim_at_leapSecond_matters :
    Policy.make dayPolicy.keepHourly dayPolicy.keepDaily = .ok dayPolicy ∧
      leapSecond.instant < afterLeapSecond.instant ∧
      dayPolicy.cutoffs Zone.utc leapSecond =
        some (⟨⟨1483142400, 900000000⟩, 0⟩, ⟨⟨1483056000, 900000000⟩, 0⟩) ∧
      dayPolicy.cutoffs Zone.utc afterLeapSecond =
        some (⟨⟨1483142400, 0⟩, 0⟩, ⟨⟨1483056000, 0⟩, 0⟩) ∧
      run dayPolicy Zone.utc [.append lastDayEntries, .trim leapSecond, .trim afterLeapSecond] ≠
        run dayPolicy Zone.utc [.append lastDayEntries, .trim afterLeapSecond] := by
  refine ⟨rfl, by decide, by decide, by decide, by decide⟩

end BackupRotation.Retention
