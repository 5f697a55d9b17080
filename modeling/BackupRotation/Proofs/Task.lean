import BackupRotation.World
/-!
# Running tasks

A task is run from a world and ends with an outcome and the world it
reached. These lemmas compute runs one operation at a time: a bind passes
the reached world on after a success and stops at a failure, keeping the
world of the failure; asking the file system, reading the zone and lifting
an outcome leave the world as it was.

Proofs about a program then follow its `do` block: each line is one
`run_bind_ok` or `run_bind_error` step fed by the lemma of that line.

Where a program is too branchy to compute, two facts carry over from its
steps instead: a task built only from reads leaves the world alone
(`ReadOnly`), and a property of worlds that every step keeps, failed or
not, holds after the whole bind or `tryCatch` (`keeps_bind`,
`keeps_tryCatch`).
-/

namespace BackupRotation.Task

open Files

variable {α β : Type}

theorem run_pure (value : α) (world : World) :
    (pure value : Task α).run world = (.ok value, world) := rfl

theorem run_throw (failure : Failure) (world : World) :
    (throw failure : Task α).run world = (.error failure, world) := rfl

theorem run_get (world : World) : (get : Task World).run world = (.ok world, world) := rfl

/-- A bind runs its second task from the world the first one reached, unless
the first one failed. -/
theorem run_bind (task : Task α) (next : α → Task β) (world : World) :
    (task >>= next).run world =
      match task.run world with
      | (.ok value, reached) => (next value).run reached
      | (.error failure, reached) => (.error failure, reached) := by
  simp only [Task.run, ExceptT.run_bind, StateT.run_bind]
  rcases (ExceptT.run task).run world with ⟨_ | _, reached⟩ <;> rfl

theorem run_bind_ok {task : Task α} {next : α → Task β} {world reached : World} {value : α}
    (ran : task.run world = (.ok value, reached)) :
    (task >>= next).run world = (next value).run reached := by
  rw [run_bind, ran]

theorem run_bind_error {task : Task α} {next : α → Task β} {world reached : World}
    {failure : Failure} (ran : task.run world = (.error failure, reached)) :
    (task >>= next).run world = (.error failure, reached) := by
  rw [run_bind, ran]

/-- A question to the file system changes nothing; its error is an I/O
failure. -/
theorem run_ask (query : FileSystem → Except OsError α) (world : World) :
    (Task.ask query).run world =
      match query world.files with
      | .ok value => (.ok value, world)
      | .error e => (.error (.io (.os e)), world) := by
  unfold Task.ask
  rw [run_bind_ok (run_get world)]
  cases query world.files <;> rfl

theorem run_ask_ok {query : FileSystem → Except OsError α} {world : World} {value : α}
    (answered : query world.files = .ok value) : (Task.ask query).run world = (.ok value, world) := by
  rw [run_ask, answered]

theorem run_ask_error {query : FileSystem → Except OsError α} {world : World} {e : OsError}
    (failed : query world.files = .error e) :
    (Task.ask query).run world = (.error (.io (.os e)), world) := by
  rw [run_ask, failed]

/-- Reporting an event leaves the file tree alone. -/
theorem run_report_files (event : Report.PruneEvent) (world : World) :
    ((Task.report event).run world).2.files = world.files := rfl

theorem run_verbosity (world : World) :
    Task.verbosity.run world = (.ok world.console.verbosity, world) := rfl

theorem run_zone (world : World) : Task.zone.run world = (.ok world.zone, world) := rfl

theorem run_ofOutcome (outcome : Outcome α) (world : World) :
    (Task.ofOutcome outcome).run world = (outcome, world) := by
  cases outcome <;> rfl

/-- An outcome that has a value is a success with it. -/
theorem eq_ok_of_toOption {ε : Type} {outcome : Except ε α} {value : α}
    (holds : outcome.toOption = some value) : outcome = .ok value := by
  cases outcome with
  | error e => cases holds
  | ok v =>
      cases holds
      rfl

theorem run_alter (change : FileSystem → Change) (world : World) :
    (Task.alter change).run world =
      match change world.files with
      | .ok files => (.ok (), { world with files := files })
      | .error e => (.error (.io (.os e)), world) := by
  unfold Task.alter
  rw [run_bind_ok (run_get world)]
  cases change world.files <;> rfl

theorem run_alter_ok {change : FileSystem → Change} {world : World} {files : FileSystem}
    (changed : change world.files = .ok files) :
    (Task.alter change).run world = (.ok (), { world with files := files }) := by
  rw [run_alter, changed]

theorem run_alter_error {change : FileSystem → Change} {world : World} {e : OsError}
    (failed : change world.files = .error e) :
    (Task.alter change).run world = (.error (.io (.os e)), world) := by
  rw [run_alter, failed]

theorem run_modify (update : World → World) (world : World) :
    (modify update : Task Unit).run world = (.ok (), update world) := rfl

theorem run_tryCatch (task : Task α) (handler : Failure → Task α) (world : World) :
    (tryCatch task handler : Task α).run world =
      match task.run world with
      | (.ok value, reached) => (.ok value, reached)
      | (.error failure, reached) => (handler failure).run reached := by
  simp only [Task.run]
  show (ExceptT.tryCatch task handler).run.run world = _
  simp only [ExceptT.tryCatch, ExceptT.run_mk, StateT.run_bind]
  have same : (ExceptT.run task).run world = StateT.run task world := rfl
  rw [same]
  rcases StateT.run task world with ⟨_ | _, reached⟩ <;> rfl

theorem run_label_ok {text : String} {task : Task α} {world reached : World} {value : α}
    (ran : task.run world = (.ok value, reached)) :
    (Task.label text task).run world = (.ok value, reached) := by
  unfold Task.label
  rw [run_tryCatch, ran]

theorem run_label_error {text : String} {task : Task α} {world reached : World} {failure : Failure}
    (ran : task.run world = (.error failure, reached)) :
    ∃ labelled, (Task.label text task).run world = (.error labelled, reached) := by
  unfold Task.label
  rw [run_tryCatch, ran]
  cases failure <;> exact ⟨_, rfl⟩

/-- A task that never changes the world. -/
def ReadOnly (task : Task α) : Prop := ∀ world, (task.run world).2 = world

theorem readOnly_pure (value : α) : ReadOnly (pure value : Task α) := fun _ => rfl

theorem readOnly_throw (failure : Failure) : ReadOnly (throw failure : Task α) := fun _ => rfl

theorem readOnly_get : ReadOnly (get : Task World) := fun _ => rfl

theorem readOnly_bind {task : Task α} {next : α → Task β} (first : ReadOnly task)
    (rest : ∀ value, ReadOnly (next value)) : ReadOnly (task >>= next) := by
  intro world
  rw [run_bind]
  rcases ran : task.run world with ⟨_ | value, reached⟩
  · simpa [ran] using first world
  · have same : reached = world := by simpa [ran] using first world
    simp only
    rw [rest value reached, same]

theorem readOnly_ask (query : FileSystem → Except OsError α) : ReadOnly (Task.ask query) := by
  intro world
  rw [run_ask]
  cases query world.files <;> rfl

/-- The world a task reached, when the task leaves it alone. -/
theorem run_of_readOnly {task : Task α} (readOnly : ReadOnly task) (world : World) :
    task.run world = ((task.run world).1, world) := by
  have same := readOnly world
  rcases ran : task.run world with ⟨outcome, reached⟩
  rw [ran] at same
  simp only at same
  rw [same]

/-- A task that leaves the world alone either fails or succeeds in it. -/
theorem readOnly_cases {task : Task α} (readOnly : ReadOnly task) (world : World) :
    (∃ failure, task.run world = (.error failure, world)) ∨ ∃ value, task.run world = (.ok value, world) := by
  rw [run_of_readOnly readOnly world]
  rcases (task.run world).1 with failure | value
  · exact .inl ⟨failure, rfl⟩
  · exact .inr ⟨value, rfl⟩

theorem run_map (f : α → β) (task : Task α) (world : World) :
    (f <$> task).run world =
      match task.run world with
      | (.ok value, reached) => (.ok (f value), reached)
      | (.error failure, reached) => (.error failure, reached) := by
  simp only [Task.run]
  show (ExceptT.map f task).run.run world = _
  simp only [ExceptT.map, ExceptT.run_mk, StateT.run_bind]
  have same : (ExceptT.run task).run world = StateT.run task world := rfl
  rw [same]
  rcases StateT.run task world with ⟨_ | _, reached⟩ <;> rfl

/-- Mapping the value of a task does not change the world it reaches. -/
theorem run_map_world (f : α → β) (task : Task α) (world : World) :
    ((f <$> task).run world).2 = (task.run world).2 := by
  rw [run_map]
  rcases task.run world with ⟨_ | _, reached⟩ <;> rfl

/-- A property of worlds holds after a bind when it holds after the first
task and every continuation from a success keeps it. -/
theorem keeps_bind {P : World → Prop} {task : Task α} {next : α → Task β} {world : World}
    (first : P (task.run world).2)
    (rest : ∀ value reached, task.run world = (.ok value, reached) → P reached →
      P ((next value).run reached).2) :
    P ((task >>= next).run world).2 := by
  rw [run_bind]
  rcases ran : task.run world with ⟨_ | value, reached⟩
  · simpa [ran] using first
  · exact rest value reached ran (by simpa [ran] using first)

/-- A property of worlds holds after a `tryCatch` when it holds after the task
and every handler run from a failure keeps it. -/
theorem keeps_tryCatch {P : World → Prop} {task : Task α} {handler : Failure → Task α}
    {world : World} (first : P (task.run world).2)
    (handled : ∀ failure reached, task.run world = (.error failure, reached) → P reached →
      P ((handler failure).run reached).2) :
    P ((tryCatch task handler : Task α).run world).2 := by
  rw [run_tryCatch]
  rcases ran : task.run world with ⟨_ | value, reached⟩
  · exact handled _ reached ran (by simpa [ran] using first)
  · simpa [ran] using first

end BackupRotation.Task

namespace BackupRotation

/-- Whether a failure is a panic, which no label wraps. -/
def Failure.isPanic : Failure → Bool
  | .panic _ => true
  | _ => false

namespace Task

open Files

variable {α β : Type}

/-! ## Inverting runs

A bind that succeeded had a first task that succeeded; a bind that failed
failed in its first task or after it. Proofs about a program peel its `do`
block with these, one line at a time, without unfolding the callers.
-/

/-- A bind succeeds exactly when its first task does and the continuation
succeeds from the world reached. -/
theorem run_bind_eq_ok {task : Task α} {next : α → Task β} {world reached : World} {result : β} :
    (task >>= next).run world = (.ok result, reached) ↔
      ∃ value middle, task.run world = (.ok value, middle) ∧
        (next value).run middle = (.ok result, reached) := by
  rw [run_bind]
  rcases task.run world with ⟨_ | value, middle⟩
  · simp
  · constructor
    · intro last
      exact ⟨value, middle, rfl, last⟩
    · rintro ⟨_, _, ⟨⟩, last⟩
      exact last

/-- A bind fails when its first task fails, or when the continuation fails
after a success. -/
theorem run_bind_eq_error {task : Task α} {next : α → Task β} {world reached : World}
    {failure : Failure} :
    (task >>= next).run world = (.error failure, reached) ↔
      task.run world = (.error failure, reached) ∨
        ∃ value middle, task.run world = (.ok value, middle) ∧
          (next value).run middle = (.error failure, reached) := by
  rw [run_bind]
  rcases task.run world with ⟨_ | value, middle⟩
  · simp
  · constructor
    · intro last
      exact .inr ⟨value, middle, rfl, last⟩
    · rintro (ran | ⟨_, _, ran, last⟩)
      · cases ran
      · cases ran
        exact last

/-- A task ending in `pure` succeeds with the value it builds. -/
theorem run_bind_pure {task : Task α} {build : α → β} {world reached : World} {result : β}
    (ran : (task >>= fun value => pure (build value)).run world = (.ok result, reached)) :
    ∃ value, task.run world = (.ok value, reached) ∧ result = build value := by
  obtain ⟨value, middle, first, last⟩ := run_bind_eq_ok |>.mp ran
  rw [run_pure] at last
  cases last
  exact ⟨value, first, rfl⟩

/-- A label wraps a failure that is not a panic. -/
theorem run_label_of_calm {text : String} {task : Task α} {world reached : World} {failure : Failure}
    (ran : task.run world = (.error failure, reached)) (calm : failure.isPanic = false) :
    (Task.label text task).run world = (.error (.context text failure), reached) := by
  unfold Task.label
  rw [run_tryCatch, ran]
  dsimp only
  split
  · cases calm
  · rfl

/-! ## Tasks that never panic

A panic is the program stopping on a broken invariant. `NoPanic` says a task
cannot end that way, and `Check` adds that it leaves the world alone: the
shape of the validations that read the file system and refuse bad input.
Both are built up along a `do` block by the combinators below.
-/

/-- A task whose failures are never panics. -/
def NoPanic (task : Task α) : Prop :=
  ∀ world failure reached, task.run world = (.error failure, reached) → failure.isPanic = false

namespace NoPanic

theorem pure (value : α) : NoPanic (pure value : Task α) := fun _ _ _ ran => by cases ran

theorem throw {failure : Failure} (calm : failure.isPanic = false) : NoPanic (throw failure : Task α) :=
  fun _ _ _ ran => by
    cases ran
    exact calm

theorem get : NoPanic (get : Task World) := fun _ _ _ ran => by cases ran

theorem modify (update : World → World) : NoPanic (modify update : Task Unit) := fun _ _ _ ran => by cases ran

theorem ask (query : FileSystem → Except OsError α) : NoPanic (Task.ask query) := by
  intro world failure reached ran
  rw [run_ask] at ran
  split at ran <;> cases ran
  rfl

theorem ofOutcome {outcome : Outcome α} (calm : ∀ failure, outcome = .error failure → failure.isPanic = false) :
    NoPanic (Task.ofOutcome outcome) := by
  cases outcome with
  | ok value => exact NoPanic.pure value
  | error failure => exact NoPanic.throw (calm failure rfl)

theorem bind {task : Task α} {next : α → Task β} (first : NoPanic task) (rest : ∀ value, NoPanic (next value)) :
    NoPanic (task >>= next) := by
  intro world failure reached ran
  rcases run_bind_eq_error |>.mp ran with failed | ⟨value, middle, -, failed⟩
  · exact first _ _ _ failed
  · exact rest value _ _ _ failed

/-- A `tryCatch` never panics when its task does not, and no handler of a
failure that is not a panic does; a panic would pass the handler untouched. -/
theorem tryCatch {task : Task α} {handler : Failure → Task α} (first : NoPanic task)
    (handled : ∀ failure, failure.isPanic = false → NoPanic (handler failure)) :
    NoPanic (tryCatch task handler : Task α) := by
  intro world failure reached ran
  rw [run_tryCatch] at ran
  rcases failed : task.run world with ⟨_ | value, middle⟩ <;> rw [failed] at ran
  · exact handled _ (first _ _ _ failed) _ _ _ ran
  · cases ran

end NoPanic

/-- A check: a task that leaves the world alone and never panics. -/
structure Check (task : Task α) : Prop where
  readOnly : ReadOnly task
  noPanic : NoPanic task

namespace Check

theorem pure (value : α) : Check (pure value : Task α) := ⟨readOnly_pure value, NoPanic.pure value⟩

theorem throw {failure : Failure} (calm : failure.isPanic = false) : Check (throw failure : Task α) :=
  ⟨readOnly_throw failure, NoPanic.throw calm⟩

theorem get : Check (get : Task World) := ⟨readOnly_get, NoPanic.get⟩

theorem ask (query : FileSystem → Except OsError α) : Check (Task.ask query) :=
  ⟨readOnly_ask query, NoPanic.ask query⟩

theorem ofOutcome {outcome : Outcome α} (calm : ∀ failure, outcome = .error failure → failure.isPanic = false) :
    Check (Task.ofOutcome outcome) := by
  cases outcome with
  | ok value => exact Check.pure value
  | error failure => exact Check.throw (calm failure rfl)

theorem bind {task : Task α} {next : α → Task β} (first : Check task) (rest : ∀ value, Check (next value)) :
    Check (task >>= next) :=
  ⟨readOnly_bind first.readOnly fun value => (rest value).readOnly,
    first.noPanic.bind fun value => (rest value).noPanic⟩

/-- A `tryCatch` is a check when its task is, and so is every handler of a
failure that is not a panic. -/
theorem tryCatch {task : Task α} {handler : Failure → Task α} (first : Check task)
    (handled : ∀ failure, failure.isPanic = false → Check (handler failure)) :
    Check (tryCatch task handler : Task α) := by
  refine ⟨fun world => ?_, first.noPanic.tryCatch fun failure calm => (handled failure calm).noPanic⟩
  rw [run_tryCatch]
  rcases ran : task.run world with ⟨_ | value, reached⟩
  · -- the handler runs from the world the task left, which is the start
    have same : reached = world := by simpa [ran] using first.readOnly world
    simp only
    rw [(handled _ (first.noPanic _ _ _ ran)).readOnly reached, same]
  · simpa [ran] using first.readOnly world

theorem label (text : String) {task : Task α} (first : Check task) : Check (Task.label text task) := by
  refine first.tryCatch fun failure calm => ?_
  split
  · cases calm
  · exact Check.throw rfl

end Check

end Task

end BackupRotation
