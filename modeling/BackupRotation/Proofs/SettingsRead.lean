import BackupRotation.Proofs.SettingsLine
/-!
# Reading settings line by line

`parse` reads the lines of a settings text into a draft, one at a time, and
checks the draft once every line is in. Both ends of a run are described here
against the lines themselves, with no reference to the reader.

A text that is accepted gives a configuration that holds what its lines say
(`Config.WellFormed`): each option list is the values of its key's lines in
order, none empty and none twice but the verbose flags; a setting that may be
given once came from at most one line; the permission and the retention
lengths are in range. The invariant behind it is `Draft.Reads`, kept by every
line (`Draft.Reads.line`) and so by every run of the reader.

A text that is refused is refused at its first bad line, with that line's
number and raw text, whatever follows it; or, all lines read, for what the
finished draft lacks.
-/

namespace BackupRotation.Settings

open Text Files Store Calendar Retention
open BackupRotation.Task (Check)

/-! ## Values of a key -/

/-- The value a line gives a key, if it gives that key one. -/
def entryValue (key raw : String) : Option String :=
  (lineEntry raw).bind fun entry => if entry.1 = key then some entry.2 else none

/-- The values lines give a key, in order. -/
def keyValues (key : String) (lines : List String) : List String :=
  lines.filterMap (entryValue key)

@[simp] theorem keyValues_nil (key : String) : keyValues key [] = [] := rfl

theorem keyValues_append_of_none {key raw : String} {lines : List String} (none : lineEntry raw = none) :
    keyValues key (lines ++ [raw]) = keyValues key lines := by
  simp [keyValues, entryValue, none]

theorem keyValues_append_of_entry {key raw entryKey value : String} {lines : List String}
    (entry : lineEntry raw = some (entryKey, value)) :
    keyValues key (lines ++ [raw]) = keyValues key lines ++ (if entryKey = key then [value] else []) := by
  by_cases same : entryKey = key <;> simp [keyValues, entryValue, entry, same]

/-! ## Option lists -/

/-- An option list as settings may give it: no empty value, and no value
twice but the verbose flags, which the copier counts. -/
structure OptionList (list : List String) : Prop where
  nonempty : "" ∉ list
  distinct : (list.filter fun flag => !isVerbose flag).Nodup

theorem OptionList.nil : OptionList [] := ⟨List.not_mem_nil, List.nodup_nil⟩

theorem OptionList.push {list : List String} {value : String} (valid : OptionList list) (joins : Joins list value) :
    OptionList (list ++ [value]) := by
  constructor
  · simpa [valid.nonempty] using joins.nonempty.symm
  · rw [List.filter_append]
    by_cases verbose : isVerbose value = true
    · simpa [verbose] using valid.distinct
    · have fresh : value ∉ list := fun present => verbose (joins.fresh present)
      simp only [List.filter_cons, List.filter_nil, verbose, Bool.not_false, ite_true]
      refine List.nodup_append.mpr ⟨valid.distinct, List.nodup_cons.mpr ⟨List.not_mem_nil, List.nodup_nil⟩, ?_⟩
      intro other kept pushed isPushed same
      rw [List.mem_singleton] at isPushed
      subst isPushed same
      exact fresh (List.mem_filter.mp kept).1

/-! ## The draft invariant -/

theorem ne_of_single_of_option {single option : String} (isSingle : single ∈ singleKeys)
    (isOption : option ∈ optionKeys) : single ≠ option := by
  rintro rfl
  simp only [singleKeys, optionKeys, List.mem_cons, List.not_mem_nil, or_false] at isSingle isOption
  rcases isSingle with rfl | rfl | rfl | rfl | rfl <;> simp at isOption

/-- What a draft read from some lines holds: a setting given once is held
exactly when one line gave it, each option list is its key's values and a
valid option list, and a permission held is in range. -/
structure Draft.Reads (draft : Draft) (lines : List String) : Prop where
  single : ∀ key ∈ singleKeys, (keyValues key lines).length = if draft.has key then 1 else 0
  options : ∀ key ∈ optionKeys, draft.optionsOf key = keyValues key lines
  valid : ∀ key ∈ optionKeys, OptionList (draft.optionsOf key)
  permission : ∀ mode, draft.permission = some mode → 1 ≤ mode ∧ mode ≤ maxPermission

theorem Draft.reads_empty : Draft.Reads {} [] := by
  refine ⟨fun key _ => ?_, fun key _ => ?_, fun key _ => ?_, fun mode held => nomatch held⟩
  · simp only [keyValues_nil, List.length_nil]
    unfold Draft.has
    split <;> rfl
  · unfold Draft.optionsOf
    split <;> rfl
  · unfold Draft.optionsOf
    split <;> exact OptionList.nil

/-- A line that sets a setting given once keeps the invariant. -/
theorem Draft.Reads.set {draft next : Draft} {lines : List String} {raw key value : String}
    (reads : draft.Reads lines) (entry : lineEntry raw = some (key, value)) (isSingle : key ∈ singleKeys)
    (unset : draft.has key = false) (set : next.has key = true)
    (others : ∀ other, other ≠ key → next.has other = draft.has other)
    (options : next.optionsOf = draft.optionsOf)
    (permission : ∀ mode, next.permission = some mode → 1 ≤ mode ∧ mode ≤ maxPermission) :
    next.Reads (lines ++ [raw]) := by
  refine ⟨fun other isOther => ?_, fun other isOther => ?_, fun other isOther => ?_, permission⟩
  · rw [keyValues_append_of_entry entry, List.length_append, reads.single other isOther]
    by_cases same : other = key
    · subst same
      simp [unset, set]
    · simp [Ne.symm same, others other same]
  · rw [keyValues_append_of_entry entry, options, reads.options other isOther,
      if_neg (ne_of_single_of_option isSingle isOther), List.append_nil]
  · rw [options]
    exact reads.valid other isOther

/-- A line that adds an option keeps the invariant. -/
theorem Draft.Reads.add {draft next : Draft} {lines : List String} {raw key value : String}
    (reads : draft.Reads lines) (entry : lineEntry raw = some (key, value)) (isOption : key ∈ optionKeys)
    (joins : Joins (draft.optionsOf key) value) (added : next.optionsOf key = draft.optionsOf key ++ [value])
    (others : ∀ other, other ≠ key → next.optionsOf other = draft.optionsOf other)
    (single : next.has = draft.has)
    (permission : ∀ mode, next.permission = some mode → 1 ≤ mode ∧ mode ≤ maxPermission) :
    next.Reads (lines ++ [raw]) := by
  refine ⟨fun other isOther => ?_, fun other isOther => ?_, fun other isOther => ?_, permission⟩
  · rw [keyValues_append_of_entry entry, single, if_neg (ne_of_single_of_option isOther isOption).symm,
      List.append_nil]
    exact reads.single other isOther
  · rw [keyValues_append_of_entry entry, ← reads.options other isOther]
    by_cases same : other = key
    · subst same
      simp [added]
    · simp [Ne.symm same, others other same]
  · by_cases same : other = key
    · subst same
      rw [added]
      exact (reads.valid other isOther).push joins
    · rw [others other same]
      exact reads.valid other isOther

/-- Reading one line keeps the invariant, the line joining those read. -/
theorem Draft.Reads.line {draft next : Draft} {lines : List String} {raw : String} {world reached : World}
    (reads : draft.Reads lines) (ran : (readLine draft raw).run world = (.ok next, reached)) :
    next.Reads (lines ++ [raw]) := by
  rcases readLine_cases ran with ⟨none, rfl⟩ | ⟨key, value, entry, applied⟩
  · refine ⟨fun key isSingle => ?_, fun key isOption => ?_, reads.valid, reads.permission⟩
    · rw [keyValues_append_of_none none]
      exact reads.single key isSingle
    · rw [keyValues_append_of_none none]
      exact reads.options key isOption
  · obtain ⟨change, permission⟩ := Draft.apply_cases applied
    have permitted : ∀ mode, next.permission = some mode → 1 ≤ mode ∧ mode ≤ maxPermission := by
      intro mode held
      rcases permission with same | ⟨read, parsed, setTo⟩
      · exact reads.permission mode (same ▸ held)
      · rw [setTo] at held
        cases held
        rcases parsePermission_cases value with ⟨_, accepted, bounds⟩ | ⟨_, refused⟩
        · rw [parsed] at accepted
          cases accepted
          exact bounds
        · rw [parsed] at refused
          cases refused
    rcases change with ⟨isSingle, unset, set, others, options⟩ | ⟨isOption, joins, added, others, single⟩
    · exact reads.set entry isSingle unset set others options permitted
    · exact reads.add entry isOption joins added others single permitted

/-! ## Runs of the reader -/

/-- The failure that stops reading at line `index`, counted from zero, with
raw text `raw`: the cause under the line's number, counted from one, and its
text; a panic passes as it is. -/
def lineFailure (index : Nat) (raw : String) (cause : Failure) : Failure :=
  match cause with
  | .panic _ => cause
  | _ => .context "invalid config file" (.config (index + 1) raw cause)

theorem lineFailure_of_calm {cause : Failure} (calm : cause.isPanic = false) (index : Nat) (raw : String) :
    lineFailure index raw cause = .context "invalid config file" (.config (index + 1) raw cause) := by
  unfold lineFailure
  split
  · cases calm
  · rfl

theorem run_readLines_nil (index : Nat) (draft : Draft) (world : World) :
    (readLines index draft []).run world = (.ok draft, world) := rfl

/-- Reading lines is reading the first, then the rest from the draft it
gave; a failure of the first is reported as the failure of its line. -/
theorem run_readLines_cons (index : Nat) (draft : Draft) (raw : String) (rest : List String) (world : World) :
    (readLines index draft (raw :: rest)).run world =
      match (readLine draft raw).run world with
      | (.ok next, reached) => (readLines (index + 1) next rest).run reached
      | (.error cause, reached) => (.error (lineFailure index raw cause), reached) := by
  simp only [readLines, readLine]
  split
  · rfl
  · rw [Task.run_bind, Task.run_tryCatch]
    unfold lineEntry
    rcases splitAtFirst ':' (stripComment raw).toList with _ | ⟨key, value⟩
    · rfl
    · dsimp only [Option.map]
      rcases (draft.apply _ _).run world with ⟨_ | next, reached⟩
      · rename_i cause
        cases cause <;> rfl
      · rfl

/-- Reading lines one after another is a check. -/
theorem readLines_check (index : Nat) (draft : Draft) (lines : List String) :
    Check (readLines index draft lines) := by
  induction lines generalizing index draft with
  | nil => exact Check.pure draft
  | cons raw rest ih =>
    simp only [readLines]
    split
    · exact ih _ _
    · refine (Check.tryCatch ?_ fun cause calm => ?_).bind fun next => ih _ next
      · split
        · exact draft.apply_check _ _
        · exact Check.throw rfl
      · split
        · cases calm
        · exact Check.throw rfl

/-- The run lemma of the invariant: a run that reads every line keeps it. -/
theorem Draft.Reads.lines {index : Nat} {draft final : Draft} {done lines : List String}
    {world reached : World} (reads : draft.Reads done)
    (ran : (readLines index draft lines).run world = (.ok final, reached)) :
    final.Reads (done ++ lines) := by
  induction lines generalizing index draft done world with
  | nil =>
    cases ran
    simpa using reads
  | cons raw rest ih =>
    rw [run_readLines_cons] at ran
    rcases line : (readLine draft raw).run world with ⟨_ | next, middle⟩ <;> rw [line] at ran
    · cases ran
    · simpa using ih (reads.line line) ran

/-- Reading two runs of lines is reading the first, then the second from the
draft it gave, its lines counted on. -/
theorem run_readLines_append (index : Nat) (draft : Draft) (front back : List String) (world : World) :
    (readLines index draft (front ++ back)).run world =
      match (readLines index draft front).run world with
      | (.ok next, reached) => (readLines (index + front.length) next back).run reached
      | (.error failure, reached) => (.error failure, reached) := by
  induction front generalizing index draft world with
  | nil => rfl
  | cons raw rest ih =>
    rw [List.cons_append, run_readLines_cons, run_readLines_cons]
    rcases (readLine draft raw).run world with ⟨_ | next, middle⟩
    · rfl
    · simp only
      rw [ih]
      simp only [List.length_cons, Nat.add_assoc, Nat.add_comm 1]

/-- A run that fails stops at one line: the lines before it read into a draft,
and that line fails on it. -/
theorem readLines_fails_at_line {index : Nat} {draft : Draft} {lines : List String} {world reached : World}
    {failure : Failure} (ran : (readLines index draft lines).run world = (.error failure, reached)) :
    ∃ position raw cause next, lines[position]? = some raw ∧
      (readLines index draft (lines.take position)).run world = (.ok next, world) ∧
      (readLine next raw).run world = (.error cause, world) ∧
      failure = lineFailure (index + position) raw cause := by
  induction lines generalizing index draft with
  | nil => cases ran
  | cons raw rest ih =>
    rw [run_readLines_cons] at ran
    have kept := (readLine_check draft raw).readOnly world
    rcases line : (readLine draft raw).run world with ⟨_ | next, middle⟩ <;> rw [line] at ran kept
    · rename_i cause
      cases ran
      subst kept
      exact ⟨0, raw, cause, draft, rfl, rfl, line, rfl⟩
    · subst kept
      obtain ⟨position, bad, cause, last, at_, before, failed, rfl⟩ := ih ran
      refine ⟨position + 1, bad, cause, last, at_, ?_, failed, by rw [Nat.add_comm position 1, Nat.add_assoc]⟩
      rw [List.take_succ_cons, run_readLines_cons, line]
      exact before

/-- Once a line fails, the lines after it make no difference. -/
theorem readLines_stops_at_line {index : Nat} {draft next : Draft} {front : List String} {raw : String}
    {world : World} {cause : Failure} (read : (readLines index draft front).run world = (.ok next, world))
    (failed : (readLine next raw).run world = (.error cause, world)) (later : List String) :
    (readLines index draft (front ++ raw :: later)).run world =
      (.error (lineFailure (index + front.length) raw cause), world) := by
  rw [run_readLines_append, read]
  simp only
  rw [run_readLines_cons, failed]

/-! ## Finishing the draft -/

/-- A policy is made from two lengths in range, the daily one the longer. -/
theorem Policy.make_eq_ok {keepHourly keepDaily : Span} {policy : Policy}
    (made : Policy.make keepHourly keepDaily = .ok policy) :
    policy = ⟨keepHourly, keepDaily⟩ ∧ minKeepHourlyHours * nanosPerHour ≤ keepHourly.nanos ∧
      minKeepDailyHours * nanosPerHour ≤ keepDaily.nanos ∧ keepHourly.nanos < keepDaily.nanos := by
  unfold Policy.make at made
  split at made
  · cases made
  · next hourly =>
    split at made
    · cases made
    · next daily =>
      split at made
      · cases made
      · next ordered =>
        cases made
        exact ⟨rfl, Int.not_lt.mp hourly, Int.not_lt.mp daily, Int.not_le.mp ordered⟩

theorem Policy.make_refuses {keepHourly keepDaily : Span} {failure : Failure}
    (refused : Policy.make keepHourly keepDaily = .error failure) : failure.isPanic = false := by
  unfold Policy.make at refused
  repeat' split at refused
  all_goals cases refused
  all_goals rfl

/-- Settings lacking nothing have copier options for both directions. -/
theorem Draft.someOptions_of_missing {draft : Draft} (complete : draft.missing = []) :
    draft.options ≠ [] ∨ draft.snapshotOptions ≠ [] ∧ draft.restoreOptions ≠ [] := by
  unfold Draft.missing at complete
  have options := (List.append_eq_nil_iff.mp complete).2
  split at options
  · obtain ⟨snapshots, restores⟩ := List.append_eq_nil_iff.mp options
    refine .inr ⟨fun empty => ?_, fun empty => ?_⟩
    · simp [empty] at snapshots
    · simp [empty] at restores
  · next given => exact .inl fun empty => given (by simp [empty])

/-- A finished draft gives its settings to the configuration, with a policy
made from its two lengths. -/
theorem Draft.finish_ok {draft : Draft} {config : Config} (made : draft.finish = .ok config) :
    draft.missing = [] ∧ draft.source = some config.source ∧ draft.permission = some config.permission ∧
      draft.keepHourly = some config.retention.keepHourly ∧ draft.keepDaily = some config.retention.keepDaily ∧
      config.target = draft.target ∧ config.options = draft.options ∧
      config.snapshotOptions = draft.snapshotOptions ∧ config.restoreOptions = draft.restoreOptions ∧
      Policy.make config.retention.keepHourly config.retention.keepDaily = .ok config.retention := by
  unfold Draft.finish at made
  split at made
  · next source permission keepHourly keepDaily sourceHeld permissionHeld hourlyHeld dailyHeld complete =>
    rcases policy : Policy.make keepHourly keepDaily with _ | retention <;> rw [policy] at made
    · cases made
    · cases made
      obtain ⟨rfl, -⟩ := Policy.make_eq_ok policy
      exact ⟨complete, sourceHeld, permissionHeld, hourlyHeld, dailyHeld, rfl, rfl, rfl, rfl, policy⟩
  · cases made

theorem Draft.finish_refuses {draft : Draft} {failure : Failure} (refused : draft.finish = .error failure) :
    failure.isPanic = false := by
  unfold Draft.finish at refused
  split at refused
  · rcases policy : Policy.make _ _ with refusal | retention <;> rw [policy] at refused
    · cases refused
      exact Policy.make_refuses policy
    · cases refused
  · cases refused
    rfl

/-! ## Accepted settings -/

/-- What a configuration read from some lines holds: the permission and the
retention lengths are in range, the daily length the longer; each option list
is its key's values in order and a valid option list, and there are options
for both directions; a setting that may be given once came from one line at
most. -/
structure Config.WellFormed (config : Config) (lines : List String) : Prop where
  permission : 1 ≤ config.permission ∧ config.permission ≤ maxPermission
  keepHourly : minKeepHourlyHours * nanosPerHour ≤ config.retention.keepHourly.nanos
  keepDaily : minKeepDailyHours * nanosPerHour ≤ config.retention.keepDaily.nanos
  ordered : config.retention.keepHourly.nanos < config.retention.keepDaily.nanos
  options : config.options = keyValues "option" lines ∧ OptionList config.options
  snapshotOptions : config.snapshotOptions = keyValues "snapshotOption" lines ∧ OptionList config.snapshotOptions
  restoreOptions : config.restoreOptions = keyValues "restoreOption" lines ∧ OptionList config.restoreOptions
  someOptions : config.options ≠ [] ∨ config.snapshotOptions ≠ [] ∧ config.restoreOptions ≠ []
  single : ∀ key ∈ singleKeys, (keyValues key lines).length ≤ 1

/-- A draft that holds what its lines say finishes, if at all, into a
well-formed configuration. -/
theorem Draft.Reads.finish {draft : Draft} {lines : List String} {config : Config} (reads : draft.Reads lines)
    (made : draft.finish = .ok config) : config.WellFormed lines := by
  obtain ⟨complete, -, permission, -, -, -, options, snapshotOptions, restoreOptions, policy⟩ :=
    Draft.finish_ok made
  obtain ⟨-, hourly, daily, ordered⟩ := Policy.make_eq_ok policy
  have listed : ∀ key ∈ optionKeys, draft.optionsOf key = keyValues key lines ∧ OptionList (draft.optionsOf key) :=
    fun key isOption => ⟨reads.options key isOption, reads.valid key isOption⟩
  refine ⟨reads.permission _ permission, hourly, daily, ordered, ?_, ?_, ?_, ?_, fun key isSingle => ?_⟩
  · rw [options]
    exact listed "option" (by decide)
  · rw [snapshotOptions]
    exact listed "snapshotOption" (by decide)
  · rw [restoreOptions]
    exact listed "restoreOption" (by decide)
  · rw [options, snapshotOptions, restoreOptions]
    exact Draft.someOptions_of_missing complete
  · rw [reads.single key isSingle]
    split <;> decide

/-- Reading settings is a check: it reads the file system without changing it
and never panics. -/
theorem parse_check (text : String) : Check (parse text) :=
  (readLines_check 0 {} _).bind fun _ => (Check.ofOutcome fun _ => Draft.finish_refuses).label _

/-- Accepted settings come from a draft that read every line and finished. -/
theorem run_parse_ok {text : String} {world reached : World} {config : Config}
    (ran : (parse text).run world = (.ok config, reached)) :
    reached = world ∧ ∃ draft, (readLines 0 {} (textLines text)).run world = (.ok draft, world) ∧
      draft.finish = .ok config := by
  have kept : reached = world := by simpa [ran] using (parse_check text).readOnly world
  subst kept
  obtain ⟨draft, middle, read, finished⟩ := Task.run_bind_eq_ok |>.mp ran
  have same : middle = reached := by simpa [read] using (readLines_check 0 {} (textLines text)).readOnly reached
  subst same
  rcases outcome : draft.finish with cause | made
  · rw [outcome, Task.run_label_of_calm (Task.run_ofOutcome _ _) (Draft.finish_refuses outcome)] at finished
    cases finished
  · rw [outcome, Task.run_label_ok (Task.run_ofOutcome _ _)] at finished
    cases finished
    exact ⟨rfl, draft, read, outcome⟩

/-- Refused settings are refused by a line, or by the draft all lines gave. -/
theorem run_parse_error {text : String} {world reached : World} {failure : Failure}
    (ran : (parse text).run world = (.error failure, reached)) :
    reached = world ∧ ((readLines 0 {} (textLines text)).run world = (.error failure, world) ∨
      ∃ draft cause, (readLines 0 {} (textLines text)).run world = (.ok draft, world) ∧
        draft.finish = .error cause ∧ failure = .context "invalid config file" cause) := by
  have kept : reached = world := by simpa [ran] using (parse_check text).readOnly world
  subst kept
  refine ⟨rfl, ?_⟩
  rcases Task.run_bind_eq_error |>.mp ran with stopped | ⟨draft, middle, read, finished⟩
  · exact .inl stopped
  · have same : middle = reached := by
      simpa [read] using (readLines_check 0 {} (textLines text)).readOnly reached
    subst same
    rcases outcome : draft.finish with cause | made
    · rw [outcome, Task.run_label_of_calm (Task.run_ofOutcome _ _) (Draft.finish_refuses outcome)] at finished
      cases finished
      exact .inr ⟨draft, cause, read, outcome, rfl⟩
    · rw [outcome, Task.run_label_ok (Task.run_ofOutcome _ _)] at finished
      cases finished

/-- Accepted settings hold what the lines of their text say. -/
theorem parse_wellFormed {text : String} {world reached : World} {config : Config}
    (ran : (parse text).run world = (.ok config, reached)) : config.WellFormed (textLines text) := by
  obtain ⟨-, draft, read, finished⟩ := run_parse_ok ran
  have reads := Draft.Reads.lines Draft.reads_empty read
  rw [List.nil_append] at reads
  exact reads.finish finished

/-- Line `position` (counted from zero) of some settings lines is the first
that cannot be read: the lines before it read into a draft, and this line
fails on that draft with `cause`. -/
def FirstBadLine (world : World) (lines : List String) (position : Nat) (raw : String) (cause : Failure) :
    Prop :=
  lines[position]? = some raw ∧ ∃ draft, (readLines 0 {} (lines.take position)).run world = (.ok draft, world) ∧
    (readLine draft raw).run world = (.error cause, world)

/-- Settings text is read line by line. What it gives, when accepted, holds
what its lines say; when refused, the failure is the first bad line's, under
that line's number (counted from one) and raw text, and is the same for any
text that begins with the same lines up to that one; or it is what the draft
of all lines lacks. Reading never changes the world. -/
theorem parse_reads_line_by_line (text : String) (world : World) :
    (∀ config reached, (parse text).run world = (.ok config, reached) →
      reached = world ∧ config.WellFormed (textLines text)) ∧
    (∀ failure reached, (parse text).run world = (.error failure, reached) →
      reached = world ∧
      ((∃ position raw cause, FirstBadLine world (textLines text) position raw cause ∧
          failure = .context "invalid config file" (.config (position + 1) raw cause) ∧
          ∀ other, (textLines other).take (position + 1) = (textLines text).take (position + 1) →
            (parse other).run world = (.error failure, world)) ∨
        ∃ draft cause, (readLines 0 {} (textLines text)).run world = (.ok draft, world) ∧
          draft.finish = .error cause ∧ failure = .context "invalid config file" cause)) := by
  constructor
  · intro config reached ran
    exact ⟨(run_parse_ok ran).1, parse_wellFormed ran⟩
  · intro failure reached ran
    obtain ⟨kept, stopped | finished⟩ := run_parse_error ran
    · obtain ⟨position, raw, cause, draft, found, before, failed, rfl⟩ := readLines_fails_at_line stopped
      have calm := (readLine_check draft raw).noPanic _ _ _ failed
      rw [Nat.zero_add, lineFailure_of_calm calm]
      refine ⟨kept, .inl ⟨position, raw, cause, ⟨found, draft, before, failed⟩, rfl, fun other same => ?_⟩⟩
      -- the other text's lines are those before the bad one, the bad one, and any others
      have inside : position < (textLines text).length := (List.getElem?_eq_some_iff.mp found).1
      have lines : textLines other = (textLines text).take position ++ raw :: (textLines other).drop (position + 1) := by
        have whole := List.take_append_drop (position + 1) (textLines other)
        rw [same, List.take_add_one, found] at whole
        simpa using whole.symm
      have stops := readLines_stops_at_line before failed ((textLines other).drop (position + 1))
      rw [← lines, List.length_take_of_le (Nat.le_of_lt inside), Nat.zero_add, lineFailure_of_calm calm] at stops
      exact Task.run_bind_error stops
    · exact ⟨kept, .inr finished⟩

/-- A machine with the directory `/home/user`, working in `/`. -/
def homeWorld : World :=
  { files :=
      { entries := [([], .directory 0o755), ([encode "home"], .directory 0o755),
          ([encode "home", encode "user"], .directory 0o755)],
        cwd := [] },
    searchPath := [], tools := [], zone := .utc, clock := ⟨0, 0⟩, console := Report.Console.empty .normal }

/-- Settings for `/home/user` with comments, a blank line and a repeated verbose flag. -/
def homeSettings : String :=
  "# home\nsource: /home/user\npermission: 0o0500 # owner only\n\nkeepHourly: 48 hours\nkeepDaily: 30 days\noption: --archive\noption: -v\noption: -v\n"

/-- The home settings are accepted and keep every snapshot for two days and
one a day for thirty. -/
theorem parse_homeSettings_retention :
    ((parse homeSettings).run homeWorld).1.toOption.map (·.retention) =
      some ⟨⟨172800000000000⟩, ⟨2592000000000000⟩⟩ := by
  decide +kernel

theorem parse_reads_line_by_line_home :
    ∃ config, (parse homeSettings).run homeWorld = (.ok config, homeWorld) ∧
      config.WellFormed (textLines homeSettings) := by
  have read := parse_homeSettings_retention
  rcases ran : (parse homeSettings).run homeWorld with ⟨_ | config, reached⟩ <;> rw [ran] at read
  · cases read
  · obtain ⟨rfl, wellFormed⟩ := (parse_reads_line_by_line homeSettings homeWorld).1 config reached ran
    exact ⟨config, rfl, wellFormed⟩

end BackupRotation.Settings
