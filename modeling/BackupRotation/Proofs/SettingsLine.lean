import BackupRotation.Settings.Config
import BackupRotation.Proofs.Store
/-!
# One line of settings

Reading settings applies one `key: value` pair at a time to a draft. This
file says everything such a step can do (`Draft.apply_cases`): it sets a
setting that may be given once and was still unset, or it adds a value to an
option list that may take it; the rest of the draft stays as it was, and a
permission it sets is in range. Seen through its keys, a draft is two maps,
`Draft.has` for the settings given once and `Draft.optionsOf` for the option
lists, and the step lemma is stated through them, so that an invariant over
all keys needs two cases and not eight.

A step is also a check (`Check`): it reads the file system without changing
it, and it never panics. The second fact needs the retention minimums to fit
the span range, which they do.
-/

namespace BackupRotation

namespace Settings

open Text Files Store Calendar Retention
open BackupRotation.Task (Check)

/-! ## The checks a line passes through -/

theorem ensureDirectory_check (path : PathName) : Check (ensureDirectory path) := by
  unfold ensureDirectory
  refine Check.bind Check.get fun world => ?_
  split
  · split
    · exact Check.pure ()
    · exact Check.throw rfl
  · exact Check.throw rfl
  · exact Check.throw rfl

theorem absolutePath_check (path : PathName) : Check (absolutePath path) := by
  unfold absolutePath
  dsimp only
  split
  · exact (Check.throw rfl).bind fun _ => Check.bind Check.get fun _ => Check.pure _
  · exact Check.bind Check.get fun _ => Check.pure _

theorem Target.validate_check (target : Target) : Check target.validate := by
  unfold Target.validate
  refine (ensureDirectory_check _).bind fun _ => ?_
  refine (?_ : Check target.hasLatest).bind fun present => ?_
  · unfold Target.hasLatest
    refine Check.bind Check.get fun world => ?_
    split
    · exact Check.pure _
    · exact Check.throw rfl
    · exact Check.pure _
    · exact Check.throw rfl
  · split
    · refine ((Check.ask _).bind fun _ => Check.pure _).bind fun empty => ?_
      split
      · exact Check.throw rfl
      · exact Check.pure ()
    · exact Check.pure ()

theorem validateSource_check (value : String) : Check (validateSource value) :=
  (ensureDirectory_check _).bind fun _ => absolutePath_check _

theorem validateTarget_check (value : String) : Check (validateTarget value) :=
  (ensureDirectory_check _).bind fun _ => (absolutePath_check _).bind fun root =>
    (Target.validate_check ⟨root⟩).bind fun _ => Check.pure _

theorem once_check {γ : Type} (current : Option γ) (key : String) : Check (once current key) := by
  unfold once
  split
  · exact Check.throw rfl
  · exact Check.pure ()

theorem requireValue_check (key value : String) : Check (requireValue key value) := by
  unfold requireValue
  split
  · exact Check.throw rfl
  · exact Check.pure ()

theorem pushOption_check (list : List String) (key value : String) : Check (pushOption list key value) := by
  unfold pushOption
  split
  · exact (Check.throw rfl).bind fun _ => (requireValue_check _ _).bind fun _ => Check.pure _
  · exact (Check.pure ()).bind fun _ => (requireValue_check _ _).bind fun _ => Check.pure _

/-- A retention length is read or refused with `invalidRetention`; the
parser has no third outcome once the minimum fits the span range. -/
theorem parseRetention_refuses (key value : String) {minHours : Int}
    (fits : (Span.ofHours? minHours).isSome) :
    ∃ outcome, parseRetention key value minHours = some outcome ∧
      ∀ failure, outcome = .error failure → ∃ reason, failure = .invalidRetention key value reason := by
  obtain ⟨minimum, fitsAt⟩ := Option.isSome_iff_exists.mp fits
  unfold parseRetention
  split
  · simp
  next amount unit _ =>
  split
  · simp
  next count _ =>
  -- the unit picks one of three spans; the match on it is reached only through these tests
  cases (String.ofList (trimChars unit) == "hours") <;> cases (String.ofList (trimChars unit) == "days")
  all_goals
    simp only [fitsAt]
    repeat' split
    all_goals simp

theorem retentionOf_check (key value : String) {minHours : Int} (fits : (Span.ofHours? minHours).isSome) :
    Check (retentionOf key value minHours) := by
  obtain ⟨outcome, read, refused⟩ := parseRetention_refuses key value fits
  unfold retentionOf
  rw [read]
  refine Check.ofOutcome fun failure failed => ?_
  obtain ⟨reason, rfl⟩ := refused failure failed
  rfl

/-! ## Permissions -/

theorem symbolicBits_le {spec : List Char} {bits : Nat} (read : symbolicBits spec = some bits) : bits ≤ 7 := by
  unfold symbolicBits at read
  split at read <;> cases read <;> decide

theorem groupBits_le {prefixChar : Char} {group : List Char} {bits : Nat}
    (read : groupBits prefixChar group = some bits) : bits ≤ 7 := by
  unfold groupBits at read
  split at read
  · split at read
    · exact symbolicBits_le read
    · cases read
  · cases read

/-- A permission is read in range, from `1` to `0o777`, or refused with
`invalidPermission`. -/
theorem parsePermission_cases (value : String) :
    (∃ mode, parsePermission value = .ok mode ∧ 1 ≤ mode ∧ mode ≤ maxPermission) ∨
      ∃ reason, parsePermission value = .error (.invalidPermission value reason) := by
  unfold parsePermission
  split
  · unfold parseOctal
    dsimp only
    split
    · split
      · exact .inr ⟨_, rfl⟩
      · split
        · exact .inr ⟨_, rfl⟩
        · next range =>
          simp only [Bool.or_eq_true, decide_eq_true_eq, beq_iff_eq, not_or, Nat.not_le, Nat.not_lt] at range
          exact .inl ⟨_, rfl, by omega, range.2⟩
    · exact .inr ⟨_, rfl⟩
  · unfold parseSymbolic
    dsimp only
    split
    · exact .inr ⟨_, rfl⟩
    · split
      · split
        · next user group other u g o readUser readGroup readOther =>
          split
          · exact .inr ⟨_, rfl⟩
          · next nonzero =>
            have := groupBits_le readUser
            have := groupBits_le readGroup
            have := groupBits_le readOther
            simp only [beq_iff_eq] at nonzero
            exact .inl ⟨_, rfl, by omega, by unfold maxPermission; omega⟩
        · exact .inr ⟨_, rfl⟩
      · exact .inr ⟨_, rfl⟩

/-! ## What a line does to a draft -/

/-- The settings that may be given once. -/
def singleKeys : List String := ["source", "target", "permission", "keepHourly", "keepDaily"]

/-- The settings that repeat, each collecting copier options. -/
def optionKeys : List String := ["option", "snapshotOption", "restoreOption"]

/-- Whether a draft already holds a setting that may be given once. -/
def Draft.has (draft : Draft) : String → Bool
  | "source" => draft.source.isSome
  | "target" => draft.target.isSome
  | "permission" => draft.permission.isSome
  | "keepHourly" => draft.keepHourly.isSome
  | "keepDaily" => draft.keepDaily.isSome
  | _ => false

/-- The values a draft has collected for a repeating setting. -/
def Draft.optionsOf (draft : Draft) : String → List String
  | "option" => draft.options
  | "snapshotOption" => draft.snapshotOptions
  | "restoreOption" => draft.restoreOptions
  | _ => []

/-- A value may join an option list: it is not empty, and it is new unless it
is a verbose flag. -/
structure Joins (list : List String) (value : String) : Prop where
  nonempty : value ≠ ""
  fresh : value ∈ list → isVerbose value = true

section Runs

variable {β : Type} {world reached : World} {result : β}

theorem run_once_bind {γ : Type} {current : Option γ} {key : String} {rest : Unit → Task β}
    (ran : (once current key >>= rest).run world = (.ok result, reached)) :
    current = none ∧ (rest ()).run world = (.ok result, reached) := by
  obtain ⟨_, middle, checked, continued⟩ := Task.run_bind_eq_ok |>.mp ran
  unfold once at checked
  split at checked
  · cases checked
  · cases checked
    exact ⟨Option.not_isSome_iff_eq_none.mp ‹_›, continued⟩

theorem run_requireValue_bind {key value : String} {rest : Unit → Task β}
    (ran : (requireValue key value >>= rest).run world = (.ok result, reached)) :
    value ≠ "" ∧ (rest ()).run world = (.ok result, reached) := by
  obtain ⟨_, middle, checked, continued⟩ := Task.run_bind_eq_ok |>.mp ran
  unfold requireValue at checked
  split at checked
  · cases checked
  · cases checked
    exact ⟨fun empty => ‹¬_› (String.isEmpty_iff.mpr empty), continued⟩

/-- An option is added at the end of its list, when it may join it. -/
theorem run_pushOption {list : List String} {key value : String} {result : List String}
    (ran : (pushOption list key value).run world = (.ok result, reached)) :
    result = list ++ [value] ∧ reached = world ∧ Joins list value := by
  unfold pushOption at ran
  dsimp only at ran
  split at ran
  · cases ran
  · next fresh =>
    obtain ⟨nonempty, ran⟩ := run_requireValue_bind ran
    cases ran
    refine ⟨rfl, rfl, nonempty, fun present => ?_⟩
    simpa [present] using fresh

end Runs

/-- Everything applying one `key: value` pair can do to a draft. It sets a
setting given once that was unset, leaving the other settings and the option
lists alone; or it adds the value at the end of an option list that the value
may join, leaving the rest alone. The permission changes only to what the
value reads as. -/
theorem Draft.apply_cases {draft next : Draft} {key value : String} {world reached : World}
    (ran : (draft.apply key value).run world = (.ok next, reached)) :
    ((key ∈ singleKeys ∧ draft.has key = false ∧ next.has key = true ∧
        (∀ other, other ≠ key → next.has other = draft.has other) ∧ next.optionsOf = draft.optionsOf) ∨
      (key ∈ optionKeys ∧ Joins (draft.optionsOf key) value ∧
        next.optionsOf key = draft.optionsOf key ++ [value] ∧
        (∀ other, other ≠ key → next.optionsOf other = draft.optionsOf other) ∧ next.has = draft.has)) ∧
    (next.permission = draft.permission ∨
      ∃ mode, parsePermission value = .ok mode ∧ next.permission = some mode) := by
  unfold Draft.apply at ran
  split at ran
  · obtain ⟨unset, ran⟩ := run_once_bind ran
    obtain ⟨source, -, rfl⟩ := Task.run_bind_pure ran
    refine ⟨.inl ⟨by decide, by simp [Draft.has, unset], rfl, fun other ne => ?_, rfl⟩, .inl rfl⟩
    unfold Draft.has
    split <;> simp_all
  · obtain ⟨unset, ran⟩ := run_once_bind ran
    obtain ⟨target, -, rfl⟩ := Task.run_bind_pure ran
    refine ⟨.inl ⟨by decide, by simp [Draft.has, unset], rfl, fun other ne => ?_, rfl⟩, .inl rfl⟩
    unfold Draft.has
    split <;> simp_all
  · obtain ⟨unset, ran⟩ := run_once_bind ran
    obtain ⟨-, ran⟩ := run_requireValue_bind ran
    obtain ⟨mode, read, rfl⟩ := Task.run_bind_pure ran
    rw [Task.run_ofOutcome] at read
    refine ⟨.inl ⟨by decide, by simp [Draft.has, unset], rfl, fun other ne => ?_, rfl⟩,
      .inr ⟨mode, congrArg Prod.fst read, rfl⟩⟩
    unfold Draft.has
    split <;> simp_all
  · obtain ⟨list, pushed, rfl⟩ := Task.run_bind_pure ran
    obtain ⟨rfl, -, joins⟩ := run_pushOption pushed
    refine ⟨.inr ⟨by decide, joins, rfl, fun other ne => ?_, rfl⟩, .inl rfl⟩
    unfold Draft.optionsOf
    split <;> simp_all
  · obtain ⟨list, pushed, rfl⟩ := Task.run_bind_pure ran
    obtain ⟨rfl, -, joins⟩ := run_pushOption pushed
    refine ⟨.inr ⟨by decide, joins, rfl, fun other ne => ?_, rfl⟩, .inl rfl⟩
    unfold Draft.optionsOf
    split <;> simp_all
  · obtain ⟨list, pushed, rfl⟩ := Task.run_bind_pure ran
    obtain ⟨rfl, -, joins⟩ := run_pushOption pushed
    refine ⟨.inr ⟨by decide, joins, rfl, fun other ne => ?_, rfl⟩, .inl rfl⟩
    unfold Draft.optionsOf
    split <;> simp_all
  · obtain ⟨unset, ran⟩ := run_once_bind ran
    obtain ⟨-, ran⟩ := run_requireValue_bind ran
    obtain ⟨span, -, rfl⟩ := Task.run_bind_pure ran
    refine ⟨.inl ⟨by decide, by simp [Draft.has, unset], rfl, fun other ne => ?_, rfl⟩, .inl rfl⟩
    unfold Draft.has
    split <;> simp_all
  · obtain ⟨unset, ran⟩ := run_once_bind ran
    obtain ⟨-, ran⟩ := run_requireValue_bind ran
    obtain ⟨span, -, rfl⟩ := Task.run_bind_pure ran
    refine ⟨.inl ⟨by decide, by simp [Draft.has, unset], rfl, fun other ne => ?_, rfl⟩, .inl rfl⟩
    unfold Draft.has
    split <;> simp_all
  · cases ran

/-- Applying a pair is a check: it reads the file system without changing it,
and it refuses a bad value without panicking. -/
theorem Draft.apply_check (draft : Draft) (key value : String) : Check (draft.apply key value) := by
  unfold Draft.apply
  split
  · exact (once_check _ _).bind fun _ =>
      ((validateSource_check value).label _).bind fun _ => Check.pure _
  · exact (once_check _ _).bind fun _ =>
      ((validateTarget_check value).label _).bind fun _ => Check.pure _
  · refine (once_check _ _).bind fun _ => (requireValue_check _ _).bind fun _ =>
      (Check.ofOutcome fun failure refused => ?_).bind fun _ => Check.pure _
    rcases parsePermission_cases value with ⟨mode, read, -⟩ | ⟨reason, read⟩
    · rw [read] at refused
      cases refused
    · rw [read] at refused
      cases refused
      rfl
  · exact (pushOption_check _ _ _).bind fun _ => Check.pure _
  · exact (pushOption_check _ _ _).bind fun _ => Check.pure _
  · exact (pushOption_check _ _ _).bind fun _ => Check.pure _
  · exact (once_check _ _).bind fun _ => (requireValue_check _ _).bind fun _ =>
      (retentionOf_check _ _ (by decide)).bind fun _ => Check.pure _
  · exact (once_check _ _).bind fun _ => (requireValue_check _ _).bind fun _ =>
      (retentionOf_check _ _ (by decide)).bind fun _ => Check.pure _
  · exact Check.throw rfl

/-! ## One line -/

/-- The key and value of a settings line, each trimmed, once its comment is
gone; `none` when no colon is left. -/
def lineEntry (raw : String) : Option (String × String) :=
  (splitAtFirst ':' (stripComment raw).toList).map fun entry =>
    (trimText (String.ofList entry.1), trimText (String.ofList entry.2))

/-- Read one line into a draft: a line of nothing but a comment and blanks
leaves it, and any other applies its pair or is refused for want of a colon. -/
def readLine (draft : Draft) (raw : String) : Task Draft :=
  if (stripComment raw).isEmpty then pure draft
  else
    match lineEntry raw with
    | some (key, value) => draft.apply key value
    | none => throw .invalidSyntax

/-- A blank line carries no pair. -/
theorem lineEntry_of_blank {raw : String} (blank : (stripComment raw).isEmpty = true) : lineEntry raw = none := by
  rw [String.isEmpty_iff] at blank
  simp [lineEntry, blank, splitAtFirst]

theorem readLine_check (draft : Draft) (raw : String) : Check (readLine draft raw) := by
  unfold readLine
  split
  · exact Check.pure draft
  · split
    · exact draft.apply_check _ _
    · exact Check.throw rfl

/-- A line read into a draft either carries no pair and leaves the draft, or
applies its pair. -/
theorem readLine_cases {draft next : Draft} {raw : String} {world reached : World}
    (ran : (readLine draft raw).run world = (.ok next, reached)) :
    (lineEntry raw = none ∧ next = draft) ∨
      ∃ key value, lineEntry raw = some (key, value) ∧ (draft.apply key value).run world = (.ok next, reached) := by
  unfold readLine at ran
  split at ran
  · next blank =>
    cases ran
    exact .inl ⟨lineEntry_of_blank blank, rfl⟩
  · split at ran
    · next key value entry => exact .inr ⟨key, value, entry, ran⟩
    · cases ran

end Settings

end BackupRotation
