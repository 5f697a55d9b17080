import Mathlib
import BackupRotation.Settings.Template
import BackupRotation.Proofs.SettingsRead
import BackupRotation.Proofs.Utf8RoundTrip
import BackupRotation.Proofs.AbsolutePaths
import BackupRotation.Proofs.TextEdits
import Mathlib.Data.List.TakeWhile
/-!
# The default settings read back

`create` writes the default text with the absolute source, and optionally
the absolute target, put into its `source` and `target` lines, and `parse`
reads the text back. The text is line based: everything from a `#` on is a
comment, a value is trimmed of white space, and a line ends at a line feed.
So a path is written in faithfully only when its text has no `#`, no line
feed and no white space at its end (`SettingsPath`), and when its bytes are
UTF-8, so that its text names it again (`PathName.ofString_display`).

Under these conditions `create` succeeds and its text reads back as the
template's settings with the source and target put in
(`create_reads_back`). The proof follows the text: the placeholders are
replaced where the template has them (`replaceFirst_sourcePlaceholder`,
`replaceFirst_targetPlaceholder`), the lines come back as written
(`textLines_templateLines`), comment lines are passed over and each setting
line is applied to the draft (`run_parse_template`), and the source and
target are checked and made absolute once more, which gives the same paths
since an absolute form is its own absolute form
(`run_validateSource_display`, `run_validateTarget_display`).

A `#` in the source path cuts its line short: `create` then checks the
directory named by the text before the `#` and fails when there is none
(`create_refuses_commented_source`).
-/

namespace BackupRotation.Settings

open Text Files Store Calendar Retention

/-! ## The default text, line by line -/

/-- The lines of the default text before the source line. -/
def templateHead : List String :=
  ["# szbck backup configuration",
   "#",
   "# One 'key: value' pair per line.  Everything after a '#' is ignored.",
   "",
   "# Directory to back up."]

/-- The lines of the default text between the source line and the target line. -/
def templateMiddle : List String :=
  ["",
   "# Directory holding the snapshots.  Leave it commented out to supply it",
   "# with -t on every command instead."]

/-- The lines of the default text after the target line. -/
def templateTail : List String :=
  ["",
   "# Permission given to the root of each finished snapshot, either octal",
   "# (0o0500) or symbolic (u:rx;g:-;o:-).",
   "permission: u:rx;g:-;o:-",
   "",
   "# Every snapshot younger than keepHourly is kept.  After that one per day is",
   "# kept until keepDaily, then one per ISO week.  Units are hours or days.",
   "keepHourly: 48 hours",
   "keepDaily: 30 days",
   "",
   "# rsync options for both snapshots and restores.",
   "option: --archive",
   "option: --hard-links",
   "option: --acls",
   "option: --xattrs",
   "option: --one-file-system",
   "#option: --verbose",
   "",
   "# rsync options for snapshots only.",
   "snapshotOption: --delete-excluded",
   "#snapshotOption: --exclude=/.cache",
   "",
   "# rsync options for restores only.",
   "#restoreOption: --exclude=/.cache"]

/-- The lines of the default text with a source line and a target line put in. -/
def templateLines (sourceLine targetLine : String) : List String :=
  templateHead ++ sourceLine :: (templateMiddle ++ targetLine :: templateTail)

/-- The default text is its lines, each ended by a line feed. The lines are
joined to their line feeds one by one, with the empty rest left unread so
that the joined literals do not run together, and the text is regrouped to
match without evaluating it. -/
theorem defaultConfig_eq_joinLines : defaultConfig = joinLines (templateLines sourcePlaceholder targetPlaceholder) := by
  simp only [templateLines, templateHead, templateMiddle, templateTail, sourcePlaceholder, targetPlaceholder,
    List.cons_append, List.nil_append, joinLines_cons, String.reduceAppend]
  delta defaultConfig
  simp only [String.append_assoc, joinLines_nil, String.append_empty, -String.reduceAppend]

/-! ## Rendering -/

set_option maxRecDepth 2048 in
/-- The source placeholder is the sixth line of the default text. -/
theorem replaceFirst_sourcePlaceholder (sourceLine : String) :
    replaceFirst defaultConfig sourcePlaceholder sourceLine = joinLines (templateLines sourceLine targetPlaceholder) := by
  have split : ∀ line, joinLines (templateLines line targetPlaceholder) =
      joinLines templateHead ++ line ++ ("\n" ++ joinLines (templateMiddle ++ targetPlaceholder :: templateTail)) := by
    intro line
    simp only [templateLines, joinLines_append, joinLines_cons, String.append_assoc]
  rw [defaultConfig_eq_joinLines, split, split]
  exact replaceFirst_of_missesIn (by decide) (by decide) _

set_option maxRecDepth 2048 in
/-- The target placeholder is the tenth line, and a source line without a
`#` holds no earlier occurrence of it. -/
theorem replaceFirst_targetPlaceholder {sourceLine : String} (noComment : '#' ∉ sourceLine.toList)
    (targetLine : String) :
    replaceFirst (joinLines (templateLines sourceLine targetPlaceholder)) targetPlaceholder targetLine =
      joinLines (templateLines sourceLine targetLine) := by
  have split : ∀ line, joinLines (templateLines sourceLine line) =
      joinLines templateHead ++ sourceLine ++ "\n" ++ joinLines templateMiddle ++ line ++
        ("\n" ++ joinLines templateTail) := by
    intro line
    simp only [templateLines, joinLines_append, joinLines_cons, String.append_assoc]
  have starts : targetPlaceholder.toList = '#' :: "target: /mnt/backupDir".toList := by decide
  have misses : missesIn targetPlaceholder.toList
      (joinLines templateHead ++ sourceLine ++ "\n" ++ joinLines templateMiddle).toList = true := by
    simp only [String.toList_append]
    refine missesIn_append (missesIn_append (missesIn_append (by decide) ?_) (by decide))
      (by decide)
    rw [starts]
    exact missesIn_of_not_mem noComment
  rw [split, split]
  exact replaceFirst_of_missesIn misses (by decide) _

/-! ## Lines read back -/

/-- A line the reader takes as it is: no line feed in it and no carriage
return at its end. -/
def SingleLine (line : String) : Prop := '\n' ∉ line.toList ∧ line.toList.getLast? ≠ some '\r'

theorem templateLines_single {sourceLine targetLine : String} (source : SingleLine sourceLine)
    (target : SingleLine targetLine) : ∀ line ∈ templateLines sourceLine targetLine, SingleLine line := by
  have fixed : ∀ line ∈ templateHead ++ templateMiddle ++ templateTail, SingleLine line := by
    unfold SingleLine
    decide
  intro line inside
  unfold templateLines at inside
  rcases List.mem_append.mp inside with early | later
  · exact fixed line (List.mem_append_left _ (List.mem_append_left _ early))
  rcases List.mem_cons.mp later with rfl | later
  · exact source
  rcases List.mem_append.mp later with middle | later
  · exact fixed line (List.mem_append_left _ (List.mem_append_right _ middle))
  rcases List.mem_cons.mp later with rfl | late
  · exact target
  · exact fixed line (List.mem_append_right _ late)

theorem targetPlaceholder_single : SingleLine targetPlaceholder := by
  unfold SingleLine
  decide

theorem textLines_templateLines {sourceLine targetLine : String} (source : SingleLine sourceLine)
    (target : SingleLine targetLine) :
    textLines (joinLines (templateLines sourceLine targetLine)) = templateLines sourceLine targetLine :=
  textLines_joinLines (fun line inside => (templateLines_single source target line inside).1)
    (fun line inside => (templateLines_single source target line inside).2)

/-! ## Setting lines -/

/-- A `key: value` line whose key is a word and whose value holds no `#`
and starts and ends with no white space is kept whole and gives that key
and value. -/
theorem lineEntry_setting {key value : String} (keyChars : ∀ c ∈ key.toList, c ≠ '#' ∧ c ≠ ':' ∧ isWhite c = false)
    (keyNonempty : key.toList ≠ []) (noComment : '#' ∉ value.toList) (valueNonempty : value.toList ≠ [])
    (first : ∀ c, value.toList.head? = some c → isWhite c = false)
    (last : ∀ c, value.toList.getLast? = some c → isWhite c = false) :
    stripComment (key ++ ": " ++ value) = key ++ ": " ++ value ∧
      lineEntry (key ++ ": " ++ value) = some (key, value) := by
  have colon : (": " : String).toList = [':', ' '] := rfl
  have chars : (key ++ ": " ++ value).toList = key.toList ++ ':' :: ' ' :: value.toList := by
    simp [String.toList_append, colon]
  have keyTrimmed : trimChars key.toList = key.toList := by
    refine trimChars_of_ends (fun c head => (keyChars c (List.mem_of_head? head)).2.2)
      (fun c final => (keyChars c (List.mem_of_getLast? final)).2.2)
  have valueTrimmed : trimChars value.toList = value.toList := trimChars_of_ends first last
  have stripped : stripComment (key ++ ": " ++ value) = key ++ ": " ++ value := by
    have kept : (key ++ ": " ++ value).toList.takeWhile (· != '#') = (key ++ ": " ++ value).toList := by
      refine List.takeWhile_eq_self_iff.mpr fun c inside => ?_
      rw [chars] at inside
      simp only [List.mem_append, List.mem_cons] at inside
      rcases inside with inKey | rfl | rfl | inValue
      · simpa using (keyChars c inKey).1
      · decide
      · decide
      · simpa using fun same : c = '#' => noComment (same ▸ inValue)
    obtain ⟨c, rest, keyStarts⟩ := List.exists_cons_of_ne_nil keyNonempty
    obtain ⟨front, final, valueEnds⟩ := (List.eq_nil_or_concat value.toList).resolve_left valueNonempty
    rw [List.concat_eq_append] at valueEnds
    unfold stripComment trimText
    rw [kept, String.toList_ofList, trimChars_of_ends, String.ofList_toList]
    · intro head starts
      rw [chars, keyStarts] at starts
      cases starts
      exact (keyChars c (by simp [keyStarts])).2.2
    · intro final' ends
      rw [chars, valueEnds] at ends
      simp only [List.getLast?_append, List.getLast?_cons] at ends
      exact last final' (by rw [valueEnds]; simpa using ends)
  refine ⟨stripped, ?_⟩
  have keyFree : ':' ∉ key.toList := fun inside => (keyChars ':' inside).2.1 rfl
  unfold lineEntry
  rw [stripped, chars, splitAtFirst_append_cons keyFree]
  simp only [Option.map_some, trimText, String.toList_ofList, keyTrimmed,
    trimChars_white_cons (show isWhite ' ' = true by decide), valueTrimmed, String.ofList_toList]

/-! ## Applying settings to a draft -/

section Apply

variable {draft : Draft} {world : World}

theorem once_none {γ : Type} (key : String) : once (none : Option γ) key = pure () := rfl

theorem requireValue_of_ne {key value : String} (nonempty : value ≠ "") : requireValue key value = pure () := by
  simp [requireValue, String.isEmpty_iff, nonempty]

/-- A source given for the first time is set to the directory its check gives. -/
theorem Draft.run_apply_source (unset : draft.source = none) {value : String} {path : PathName}
    (checked : (validateSource value).run world = (.ok path, world)) :
    (draft.apply "source" value).run world = (.ok { draft with source := some path }, world) := by
  unfold Draft.apply
  simp only [unset, once_none, pure_bind]
  rw [Task.run_bind_ok (Task.run_label_ok checked)]
  rfl

/-- A source given for the first time whose check fails fails the line. -/
theorem Draft.run_apply_source_error (unset : draft.source = none) {value : String} {failure : Failure}
    (failed : (validateSource value).run world = (.error failure, world)) (calm : failure.isPanic = false) :
    (draft.apply "source" value).run world = (.error (.context "invalid source" failure), world) := by
  unfold Draft.apply
  simp only [unset, once_none, pure_bind]
  exact Task.run_bind_error (Task.run_label_of_calm failed calm)

/-- A target given for the first time is set to the store its check opens. -/
theorem Draft.run_apply_target (unset : draft.target = none) {value : String} {target : Target}
    (checked : (validateTarget value).run world = (.ok target, world)) :
    (draft.apply "target" value).run world = (.ok { draft with target := some target }, world) := by
  unfold Draft.apply
  simp only [unset, once_none, pure_bind]
  rw [Task.run_bind_ok (Task.run_label_ok checked)]
  rfl

/-- A permission given for the first time is set to the mode it reads as. -/
theorem Draft.run_apply_permission (unset : draft.permission = none) {value : String} {mode : Nat}
    (read : parsePermission value = .ok mode) (world : World) :
    (draft.apply "permission" value).run world = (.ok { draft with permission := some mode }, world) := by
  have nonempty : value ≠ "" := by
    rintro rfl
    cases read
  unfold Draft.apply
  simp only [unset, once_none, requireValue_of_ne nonempty, pure_bind, read]
  rfl

/-- The shortest retention given for the first time is set to the span it reads as. -/
theorem Draft.run_apply_keepHourly (unset : draft.keepHourly = none) {value : String} {span : Span}
    (read : parseRetention "keepHourly" value minKeepHourlyHours = some (.ok span)) (world : World) :
    (draft.apply "keepHourly" value).run world = (.ok { draft with keepHourly := some span }, world) := by
  have nonempty : value ≠ "" := by
    rintro rfl
    cases read
  unfold Draft.apply
  simp only [unset, once_none, requireValue_of_ne nonempty, pure_bind, retentionOf, read]
  rfl

/-- The longer retention given for the first time is set to the span it reads as. -/
theorem Draft.run_apply_keepDaily (unset : draft.keepDaily = none) {value : String} {span : Span}
    (read : parseRetention "keepDaily" value minKeepDailyHours = some (.ok span)) (world : World) :
    (draft.apply "keepDaily" value).run world = (.ok { draft with keepDaily := some span }, world) := by
  have nonempty : value ≠ "" := by
    rintro rfl
    cases read
  unfold Draft.apply
  simp only [unset, once_none, requireValue_of_ne nonempty, pure_bind, retentionOf, read]
  rfl

/-- A new option value joins the end of its list. -/
theorem run_pushOption_fresh {list : List String} {key value : String} (fresh : value ∉ list) (nonempty : value ≠ "")
    (world : World) : (pushOption list key value).run world = (.ok (list ++ [value]), world) := by
  simp [pushOption, fresh, requireValue_of_ne nonempty]
  rfl

theorem Draft.run_apply_option (value : String) (fresh : value ∉ draft.options) (nonempty : value ≠ "")
    (world : World) :
    (draft.apply "option" value).run world = (.ok { draft with options := draft.options ++ [value] }, world) := by
  unfold Draft.apply
  simp only
  rw [Task.run_bind_ok (run_pushOption_fresh fresh nonempty world)]
  rfl

theorem Draft.run_apply_snapshotOption (value : String) (fresh : value ∉ draft.snapshotOptions)
    (nonempty : value ≠ "") (world : World) :
    (draft.apply "snapshotOption" value).run world =
      (.ok { draft with snapshotOptions := draft.snapshotOptions ++ [value] }, world) := by
  unfold Draft.apply
  simp only
  rw [Task.run_bind_ok (run_pushOption_fresh fresh nonempty world)]
  rfl

end Apply

/-! ## Reading the default text -/

section Reading

variable {index : Nat} {draft : Draft} {world : World}

/-- The step lemma: a line read into a draft gives the draft the rest is
read into. -/
theorem run_readLines_step {raw : String} {next : Draft} {reached : World}
    (read : (readLine draft raw).run world = (.ok next, reached)) (rest : List String) :
    (readLines index draft (raw :: rest)).run world = (readLines (index + 1) next rest).run reached := by
  rw [run_readLines_cons, read]

theorem readLine_of_blank {raw : String} (blank : (stripComment raw).isEmpty = true) : readLine draft raw = pure draft := by
  simp only [readLine, blank, ↓reduceIte]

theorem readLine_of_entry {raw key value : String} (entry : lineEntry raw = some (key, value)) :
    readLine draft raw = draft.apply key value := by
  have filled : (stripComment raw).isEmpty = false := by
    cases blank : (stripComment raw).isEmpty
    · rfl
    · rw [lineEntry_of_blank blank] at entry
      cases entry
  simp only [readLine, filled, Bool.false_eq_true, ↓reduceIte, entry]

/-- A line of nothing but a comment and blanks is passed over. -/
theorem run_readLines_blank {raw : String} (blank : (stripComment raw).isEmpty = true) (rest : List String) :
    (readLines index draft (raw :: rest)).run world = (readLines (index + 1) draft rest).run world :=
  run_readLines_step (by rw [readLine_of_blank blank]; rfl) rest

theorem run_readLines_blanks {lines : List String} (blank : ∀ raw ∈ lines, (stripComment raw).isEmpty = true)
    (rest : List String) :
    (readLines index draft (lines ++ rest)).run world = (readLines (index + lines.length) draft rest).run world := by
  induction lines generalizing index with
  | nil => rfl
  | cons raw lines ih =>
      rw [List.cons_append, run_readLines_blank (blank raw List.mem_cons_self),
        ih fun other inside => blank other (List.mem_cons_of_mem _ inside), List.length_cons, Nat.add_assoc,
        Nat.add_comm 1]

/-- A setting line applies its key and value. -/
theorem run_readLines_entry {raw key value : String} (entry : lineEntry raw = some (key, value)) {next : Draft}
    {reached : World} (applied : (draft.apply key value).run world = (.ok next, reached)) (rest : List String) :
    (readLines index draft (raw :: rest)).run world = (readLines (index + 1) next rest).run reached :=
  run_readLines_step (by rw [readLine_of_entry entry, applied]) rest

private theorem eq_some_ok {α : Type} {outcome : Option (Outcome α)} {value : α}
    (read : outcome.map Except.toOption = some (some value)) : outcome = some (.ok value) := by
  obtain ⟨inner, rfl, holds⟩ := Option.map_eq_some_iff.mp read
  rw [Task.eq_ok_of_toOption holds]

/-- The options the default text gives for both snapshots and restores. -/
def templateOptions : List String := ["--archive", "--hard-links", "--acls", "--xattrs", "--one-file-system"]

/-- The lines after the target line set the template's permission,
retention and options in a draft that holds none of them yet. -/
theorem run_readLines_templateTail (index : Nat) (source : Option PathName) (target : Option Target) (world : World) :
    (readLines index ⟨source, target, none, [], [], [], none, none⟩ templateTail).run world =
      (.ok ⟨source, target, some 0o500, templateOptions, ["--delete-excluded"], [],
        some ⟨48 * 3600 * nanosPerSecond⟩, some ⟨30 * 86400 * nanosPerSecond⟩⟩, world) := by
  have permission : parsePermission "u:rx;g:-;o:-" = .ok 0o500 := rfl
  have hourly : parseRetention "keepHourly" "48 hours" minKeepHourlyHours =
      some (.ok ⟨48 * 3600 * nanosPerSecond⟩) := eq_some_ok (by decide)
  have daily : parseRetention "keepDaily" "30 days" minKeepDailyHours =
      some (.ok ⟨30 * 86400 * nanosPerSecond⟩) := eq_some_ok (by decide)
  unfold templateTail
  rw [run_readLines_blank (by decide), run_readLines_blank (by decide),
    run_readLines_blank (by decide),
    run_readLines_entry (by decide) (Draft.run_apply_permission (by rfl) permission world),
    run_readLines_blank (by decide), run_readLines_blank (by decide),
    run_readLines_blank (by decide),
    run_readLines_entry (by decide) (Draft.run_apply_keepHourly (by rfl) hourly world),
    run_readLines_entry (by decide) (Draft.run_apply_keepDaily (by rfl) daily world),
    run_readLines_blank (by decide), run_readLines_blank (by decide),
    run_readLines_entry (by decide) (Draft.run_apply_option "--archive" (by simp) (by decide) world),
    run_readLines_entry (by decide) (Draft.run_apply_option "--hard-links" (by simp) (by decide) world),
    run_readLines_entry (by decide) (Draft.run_apply_option "--acls" (by simp) (by decide) world),
    run_readLines_entry (by decide) (Draft.run_apply_option "--xattrs" (by simp) (by decide) world),
    run_readLines_entry (by decide) (Draft.run_apply_option "--one-file-system" (by simp) (by decide) world),
    run_readLines_blank (by decide), run_readLines_blank (by decide),
    run_readLines_blank (by decide),
    run_readLines_entry (by decide) (Draft.run_apply_snapshotOption "--delete-excluded" (by simp) (by decide) world),
    run_readLines_blank (by decide), run_readLines_blank (by decide),
    run_readLines_blank (by decide), run_readLines_blank (by decide)]
  rfl

/-- The settings the default text gives, with a source and a target put in. -/
def templateSettings (source : PathName) (target : Option Target) : Config :=
  { source := source
    target := target
    permission := 0o500
    options := templateOptions
    snapshotOptions := ["--delete-excluded"]
    restoreOptions := []
    retention := ⟨⟨48 * 3600 * nanosPerSecond⟩, ⟨30 * 86400 * nanosPerSecond⟩⟩ }

/-- The default text with a source line that checks out and a target line
that sets the target, or is the commented placeholder, reads as the
template's settings with that source and target. -/
theorem run_parse_template {sourceLine targetLine sourceValue : String} {source : PathName}
    (sourceSingle : SingleLine sourceLine) (targetSingle : SingleLine targetLine)
    (sourceEntry : lineEntry sourceLine = some ("source", sourceValue))
    (sourceChecked : (validateSource sourceValue).run world = (.ok source, world)) {target : Option Target}
    (targetRead : (readLine ⟨some source, none, none, [], [], [], none, none⟩ targetLine).run world =
      (.ok ⟨some source, target, none, [], [], [], none, none⟩, world)) :
    (parse (joinLines (templateLines sourceLine targetLine))).run world = (.ok (templateSettings source target), world) := by
  have read : (readLines 0 {} (templateLines sourceLine targetLine)).run world =
      (.ok ⟨some source, target, some 0o500, templateOptions, ["--delete-excluded"], [],
        some ⟨48 * 3600 * nanosPerSecond⟩, some ⟨30 * 86400 * nanosPerSecond⟩⟩, world) := by
    unfold templateLines
    rw [run_readLines_blanks (by decide), run_readLines_entry sourceEntry (Draft.run_apply_source (by rfl) sourceChecked),
      run_readLines_blanks (by decide), run_readLines_step targetRead, run_readLines_templateTail]
  rw [parse, textLines_templateLines sourceSingle targetSingle, Task.run_bind_ok read]
  exact Task.run_label_ok (Task.run_ofOutcome _ world)

end Reading

/-! ## Paths written into the text -/

/-- A path whose text can stand as the value of a setting line: its bytes
are UTF-8, so that its text names it again, and its text holds no `#` and no
line feed and ends with no white space. -/
structure SettingsPath (path : PathName) : Prop where
  utf8 : isUtf8 path.bytes = true
  noComment : '#' ∉ path.display.toList
  oneLine : '\n' ∉ path.display.toList
  trimmed : ∀ c, path.display.toList.getLast? = some c → isWhite c = false

/-- The text of an absolute path starts with a slash. -/
theorem display_cons_of_absoluteForm {path : PathName} (form : AbsoluteForm path) :
    ∃ rest, path.display.toList = '/' :: rest := by
  obtain ⟨rest, bytes⟩ := form.eq_slash_cons
  refine ⟨(lossy rest).toList, ?_⟩
  rw [PathName.display, bytes, lossy_cons_of_lt (by decide) rest]
  rfl

/-- An absolute path written after a one-word key makes a setting line that
the reader takes whole and reads as that key and the path's text. -/
theorem SettingsPath.line {path : PathName} (form : AbsoluteForm path) (written : SettingsPath path) (key : String)
    (keyChars : ∀ c ∈ key.toList, c ≠ '#' ∧ c ≠ ':' ∧ isWhite c = false) (keyNonempty : key.toList ≠ []) :
    SingleLine (key ++ ": " ++ path.display) ∧ lineEntry (key ++ ": " ++ path.display) = some (key, path.display) := by
  obtain ⟨rest, starts⟩ := display_cons_of_absoluteForm form
  have nonempty : path.display.toList ≠ [] := by simp [starts]
  have first : ∀ c, path.display.toList.head? = some c → isWhite c = false := by
    intro c head
    rw [starts] at head
    cases head
    decide
  refine ⟨⟨?_, ?_⟩, (lineEntry_setting keyChars keyNonempty written.noComment nonempty first written.trimmed).2⟩
  · simp only [String.toList_append, List.mem_append, not_or]
    refine ⟨⟨fun inKey => ?_, by decide⟩, written.oneLine⟩
    exact absurd (keyChars '\n' inKey).2.2 (by decide)
  · obtain ⟨front, final, ends⟩ := (List.eq_nil_or_concat path.display.toList).resolve_left nonempty
    rw [List.concat_eq_append] at ends
    have last : (key ++ ": " ++ path.display).toList.getLast? = some final := by
      rw [String.toList_append, ends, List.getLast?_append]
      simp
    have white := written.trimmed final (by simp [ends])
    rw [last]
    rintro ⟨⟩
    exact absurd white (by decide)

/-! ## Checking the paths read back -/

section Checks

variable {world : World}

theorem run_ensureDirectory {path : PathName} (directory : world.files.isDirectory path = true) :
    (ensureDirectory path).run world = (.ok (), world) := by
  unfold FileSystem.isDirectory at directory
  unfold ensureDirectory
  rw [Task.run_bind_ok (Task.run_get world)]
  rcases found : world.files.metadata path with error | node
  · rw [found] at directory
    cases directory
  · rw [found] at directory
    simp only [directory, ↓reduceIte]
    rfl

theorem run_absolutePath {path : PathName} (named : path.bytes ≠ []) (world : World) :
    (absolutePath path).run world = (.ok (PathName.absoluteFrom world.files.cwd.path path), world) := by
  unfold absolutePath
  simp only
  rw [if_neg (by simpa [List.isEmpty_iff] using named)]
  rfl

/-- A name that resolves to no entry is no directory. -/
theorem run_ensureDirectory_free {path : PathName} {dir : Key} {name : Bytes}
    (free : world.files.resolve path true = .ok (.free dir name)) :
    (ensureDirectory path).run world = (.error (.directoryNotFound path.bytes), world) := by
  unfold ensureDirectory
  rw [Task.run_bind_ok (Task.run_get world)]
  simp [FileSystem.metadata, free, bind, Except.bind]
  rfl

/-- Checking the text of a directory's absolute path gives the path back. -/
theorem run_validateSource_display {path : PathName} (form : AbsoluteForm path) (utf8 : isUtf8 path.bytes = true)
    (directory : world.files.isDirectory path = true) : (validateSource path.display).run world = (.ok path, world) := by
  obtain ⟨rest, bytes⟩ := form.eq_slash_cons
  simp only [validateSource, PathName.ofString_display utf8]
  rw [Task.run_bind_ok (run_ensureDirectory directory), run_absolutePath (by simp [bytes]) world,
    PathName.absoluteFrom_of_absoluteForm _ form]

/-- A store that opens is the store at the path it was opened at; opening it
changes nothing and found a directory there. -/
theorem Target.run_openAt_of_ok {root : PathName} {opened : Target} {reached : World}
    (accepted : (Target.openAt root).run world = (.ok opened, reached)) :
    (Target.openAt root).run world = (.ok ⟨root⟩, world) ∧ (ensureDirectory root).run world = (.ok (), world) := by
  simp only [Target.openAt] at accepted ⊢
  obtain ⟨checked, middle, valid, _⟩ := Task.run_bind_eq_ok |>.mp accepted
  have stays : middle = world := by
    have same := Target.validate_readOnly ⟨root⟩ world
    rw [valid] at same
    exact same
  rw [stays] at valid
  refine ⟨Task.run_bind_ok valid, ?_⟩
  unfold Target.validate at valid
  rcases Task.readOnly_cases (ensureDirectory_readOnly root) world with ⟨failure, failed⟩ | ⟨_, found⟩
  · rw [Task.run_bind_error failed] at valid
    cases valid
  · exact found

theorem Target.openAt_readOnly (root : PathName) : Task.ReadOnly (Target.openAt root) :=
  Task.readOnly_bind (Target.validate_readOnly ⟨root⟩) fun _ => Task.readOnly_pure _

/-- Checking the text of a store's absolute path opens the store there. -/
theorem run_validateTarget_display {path : PathName} (form : AbsoluteForm path) (utf8 : isUtf8 path.bytes = true)
    {opened : Target} {reached : World} (accepted : (Target.openAt path).run world = (.ok opened, reached)) :
    (validateTarget path.display).run world = (.ok ⟨path⟩, world) := by
  obtain ⟨rest, bytes⟩ := form.eq_slash_cons
  obtain ⟨opens, directory⟩ := Target.run_openAt_of_ok accepted
  simp only [validateTarget, PathName.ofString_display utf8]
  rw [Task.run_bind_ok directory, Task.run_bind_ok (run_absolutePath (by simp [bytes]) world),
    PathName.absoluteFrom_of_absoluteForm _ form]
  exact opens

end Checks

/-! ## Creating the default settings -/

/-- The target line of the default text: the commented placeholder when
there is no target. -/
def targetLine : Option PathName → String
  | none => targetPlaceholder
  | some path => "target: " ++ path.display

/-- A key whose characters all pass the test can stand before the colon of a
setting line. -/
theorem keyChars_of_all {key : String}
    (plain : key.toList.all (fun c => c != '#' && c != ':' && !isWhite c) = true) :
    ∀ c ∈ key.toList, c ≠ '#' ∧ c ≠ ':' ∧ isWhite c = false := by
  intro c inside
  have passes := List.all_eq_true.mp plain c inside
  simpa [and_assoc] using passes

section Create

variable {world : World}

/-- The default text with a directory for the source and, if there is one,
a store that opens for the target written in reads back as the template's
settings with them. -/
theorem run_parse_written {source : PathName} (sourceForm : AbsoluteForm source) (sourceText : SettingsPath source)
    (directory : world.files.isDirectory source = true) {target : Option PathName}
    (targetOk : ∀ path ∈ target, AbsoluteForm path ∧ SettingsPath path ∧
      ∃ opened reached, (Target.openAt path).run world = (.ok opened, reached)) :
    (parse (joinLines (templateLines ("source: " ++ source.display) (targetLine target)))).run world =
      (.ok (templateSettings source (target.map fun path => ⟨path⟩)), world) := by
  have sourceKey : ("source: " : String) = "source" ++ ": " := by decide
  obtain ⟨sourceSingle, sourceEntry⟩ := sourceText.line sourceForm "source" (keyChars_of_all (by decide)) (by decide)
  have checked := run_validateSource_display sourceForm sourceText.utf8 directory
  rw [sourceKey]
  cases target with
  | none =>
      exact run_parse_template sourceSingle targetPlaceholder_single sourceEntry checked
        (by rw [readLine_of_blank (by decide)]; exact Task.run_pure _ world)
  | some path =>
      obtain ⟨form, written, opened, reached, accepted⟩ := targetOk path rfl
      have targetKey : ("target: " : String) = "target" ++ ": " := by decide
      obtain ⟨single, entry⟩ := written.line form "target" (keyChars_of_all (by decide)) (by decide)
      simp only [targetLine, targetKey]
      exact run_parse_template sourceSingle single sourceEntry checked
        (by
          rw [readLine_of_entry entry]
          exact Draft.run_apply_target (by rfl) (run_validateTarget_display form written.utf8 accepted))

/-- What the source given to `create` must be: a name, whose absolute form
is a directory and is written into the text faithfully. -/
structure SourcePath (world : World) (path : PathName) : Prop where
  named : path.bytes ≠ []
  directory : world.files.isDirectory (PathName.absoluteFrom world.files.cwd.path path) = true
  written : SettingsPath (PathName.absoluteFrom world.files.cwd.path path)

/-- What a target given to `create` must be: a name, at whose absolute form
a store opens, written into the text faithfully. -/
structure StorePath (world : World) (path : PathName) : Prop where
  named : path.bytes ≠ []
  opens : ∃ opened reached,
    (Target.openAt (PathName.absoluteFrom world.files.cwd.path path)).run world = (.ok opened, reached)
  written : SettingsPath (PathName.absoluteFrom world.files.cwd.path path)

/-- Made absolute, a target keeps what `create` needs of it. -/
theorem StorePath.absolute_map (plainCwd : ∀ name ∈ world.files.cwd, PlainName name) {target : Option PathName}
    (targetOk : ∀ path ∈ target, StorePath world path) :
    ∀ path ∈ target.map (PathName.absoluteFrom world.files.cwd.path), AbsoluteForm path ∧ SettingsPath path ∧
      ∃ opened reached, (Target.openAt path).run world = (.ok opened, reached) := by
  intro path inside
  obtain ⟨given, listed, rfl⟩ := Option.map_eq_some_iff.mp inside
  have store := targetOk given listed
  exact ⟨PathName.absoluteForm_absoluteFrom plainCwd given, store.written, store.opens⟩

/-- Rendering leaves the world alone and gives the default text with the
absolute source, and the absolute target if there is one, written in. -/
theorem run_renderDefault (plainCwd : ∀ name ∈ world.files.cwd, PlainName name) {source : PathName}
    (sourceOk : SourcePath world source) {target : Option PathName} (targetOk : ∀ path ∈ target, StorePath world path) :
    (renderDefault source target).run world =
      (.ok (joinLines (templateLines ("source: " ++ (PathName.absoluteFrom world.files.cwd.path source).display)
        (targetLine (target.map (PathName.absoluteFrom world.files.cwd.path))))), world) := by
  have read := run_parse_written (PathName.absoluteForm_absoluteFrom plainCwd source) sourceOk.written
    sourceOk.directory (StorePath.absolute_map plainCwd targetOk)
  unfold renderDefault
  rw [Task.run_bind_ok (run_absolutePath sourceOk.named world), Task.run_bind_ok (run_ensureDirectory sourceOk.directory)]
  simp only
  rw [replaceFirst_sourcePlaceholder]
  -- the target is opened only when there is one; either way the text is read back last
  cases target with
  | none =>
      simp only [Option.map_none, targetLine] at read ⊢
      rw [Task.run_bind_ok (Task.run_pure _ world)]
      exact (Task.run_bind_ok read).trans (Task.run_pure _ world)
  | some path =>
      have store := targetOk path rfl
      obtain ⟨opened, reached, accepted⟩ := store.opens
      have noComment : '#' ∉ ("source: " ++ (PathName.absoluteFrom world.files.cwd.path source).display).toList := by
        simp only [String.toList_append, List.mem_append, not_or]
        exact ⟨by decide, sourceOk.written.noComment⟩
      rw [Task.run_bind_ok (run_absolutePath store.named world), Task.run_bind_ok (Target.run_openAt_of_ok accepted).1,
        Task.run_bind_ok (Task.run_pure _ world), replaceFirst_targetPlaceholder noComment]
      simp only [Option.map_some, targetLine] at read ⊢
      exact (Task.run_bind_ok read).trans (Task.run_pure _ world)

/-- Creating the default settings succeeds without touching the world, and
the text it gives reads back as the template's settings with the absolute
source and target: for a working directory of plain names, a source that is
a directory and a target at which a store opens, both written faithfully. -/
theorem create_reads_back (plainCwd : ∀ name ∈ world.files.cwd, PlainName name) {source : PathName}
    (sourceOk : SourcePath world source) {target : Option PathName} (targetOk : ∀ path ∈ target, StorePath world path) :
    ∃ text, (create source target).run world = (.ok text, world) ∧
      (parse text).run world = (.ok (templateSettings (PathName.absoluteFrom world.files.cwd.path source)
        (target.map fun path => ⟨PathName.absoluteFrom world.files.cwd.path path⟩)), world) := by
  have read := run_parse_written (PathName.absoluteForm_absoluteFrom plainCwd source) sourceOk.written
    sourceOk.directory (StorePath.absolute_map plainCwd targetOk)
  rw [Option.map_map] at read
  exact ⟨_, Task.run_label_ok (run_renderDefault plainCwd sourceOk targetOk), read⟩

/-- A path with UTF-8 bytes whose text holds no `#` and no line feed and
ends with a character that is not white space is written faithfully. -/
theorem SettingsPath.of_getLast {path : PathName} (utf8 : isUtf8 path.bytes = true)
    (noComment : '#' ∉ path.display.toList) (oneLine : '\n' ∉ path.display.toList) (last : Char)
    (ends : path.display.toList.getLast? = some last) (kept : isWhite last = false) : SettingsPath path where
  utf8 := utf8
  noComment := noComment
  oneLine := oneLine
  trimmed c final := by
    rw [ends] at final
    cases final
    exact kept

/-- A machine with the directory `/home/user` and an empty `/srv/backup`,
working in `/`. -/
def backupWorld : World :=
  { files :=
      { entries := [([], .directory 0o755), ([encode "home"], .directory 0o755),
          ([encode "home", encode "user"], .directory 0o755), ([encode "srv"], .directory 0o755),
          ([encode "srv", encode "backup"], .directory 0o755)],
        cwd := [] },
    searchPath := [], tools := [], zone := .utc, clock := ⟨0, 0⟩, console := Report.Console.empty .normal }

theorem create_reads_back_backupWorld :
    ∃ text, (create (PathName.ofString "/home/user") (some (PathName.ofString "/srv/backup"))).run backupWorld =
        (.ok text, backupWorld) ∧
      (parse text).run backupWorld =
        (.ok (templateSettings (PathName.ofString "/home/user") (some ⟨PathName.ofString "/srv/backup"⟩)),
          backupWorld) := by
  have home : PathName.absoluteFrom backupWorld.files.cwd.path (PathName.ofString "/home/user") =
      PathName.ofString "/home/user" := by cbv
  have store : PathName.absoluteFrom backupWorld.files.cwd.path (PathName.ofString "/srv/backup") =
      PathName.ofString "/srv/backup" := by cbv
  have opened : ((Target.openAt (PathName.ofString "/srv/backup")).run backupWorld).1.toOption =
      some ⟨PathName.ofString "/srv/backup"⟩ := by cbv
  have opens := Task.run_of_readOnly (Target.openAt_readOnly (PathName.ofString "/srv/backup")) backupWorld
  rw [Task.eq_ok_of_toOption opened] at opens
  -- each path shows as its literal, whose characters are then read directly
  have homeShown : (PathName.ofString "/home/user").display = "/home/user" := by cbv
  have storeShown : (PathName.ofString "/srv/backup").display = "/srv/backup" := by cbv
  have sourceOk : SourcePath backupWorld (PathName.ofString "/home/user") := by
    refine ⟨encode_ne_nil (by decide), ?_, ?_⟩ <;> rw [home]
    · cbv
    · refine SettingsPath.of_getLast (by cbv) ?_ ?_ 'r' ?_ (by decide)
      all_goals
        rw [homeShown]
        decide
  have storeOk : StorePath backupWorld (PathName.ofString "/srv/backup") := by
    refine ⟨encode_ne_nil (by decide), ?_, ?_⟩ <;> rw [store]
    · exact ⟨_, _, opens⟩
    · refine SettingsPath.of_getLast (by cbv) ?_ ?_ 'p' ?_ (by decide)
      all_goals
        rw [storeShown]
        decide
  have reads := create_reads_back (fun name inside => by simp [backupWorld] at inside) sourceOk
    (fun path inside => by
      rw [Option.mem_some_iff] at inside
      subst inside
      exact storeOk)
  simp only [Option.map_some] at reads
  rw [home, store] at reads
  exact reads

/-- A machine with the directory `/a#b`, working in `/`. -/
def hashWorld : World :=
  { files := { entries := [([], .directory 0o755), ([encode "a#b"], .directory 0o755)], cwd := [] },
    searchPath := [], tools := [], zone := .utc, clock := ⟨0, 0⟩, console := Report.Console.empty .normal }

/-- A `#` in the source cuts its line short: the settings for the directory
`a#b` name the source `/a`, which is not there, and `create` fails. -/
theorem create_refuses_commented_source :
    hashWorld.files.isDirectory (PathName.ofString "/a#b") = true ∧
      (create (PathName.ofString "a#b") none).run hashWorld =
        (.error (.context "create settings error" (.context "invalid config file"
          (.config 6 "source: /a#b" (.context "invalid source" (.directoryNotFound (encode "/a")))))), hashWorld) := by
  have named : (PathName.ofString "a#b").bytes ≠ [] := encode_ne_nil (by decide)
  have absolute : PathName.absoluteFrom hashWorld.files.cwd.path (PathName.ofString "a#b") =
      PathName.ofString "/a#b" := by cbv
  have directory : hashWorld.files.isDirectory (PathName.ofString "/a#b") = true := by cbv
  have line : "source: " ++ (PathName.ofString "/a#b").display = "source: /a#b" := by cbv
  have single : SingleLine "source: /a#b" := by
    unfold SingleLine
    decide
  have entry : lineEntry "source: /a#b" = some ("source", "/a") := by cbv
  have free : (hashWorld.files.resolve (PathName.ofString "/a") true).toOption = some (.free [] (encode "a")) := by
    cbv
  -- the line is read up to its `#`, and the directory it names is missing
  have failed : (readLine {} "source: /a#b").run hashWorld =
      (.error (.context "invalid source" (.directoryNotFound (encode "/a"))), hashWorld) := by
    rw [readLine_of_entry entry]
    refine Draft.run_apply_source_error rfl ?_ rfl
    simp only [validateSource]
    exact Task.run_bind_error (run_ensureDirectory_free (Task.eq_ok_of_toOption free))
  have head : (readLines 0 {} templateHead).run hashWorld = (.ok {}, hashWorld) := by
    rw [← List.append_nil templateHead, run_readLines_blanks (by decide)]
    rfl
  have parsed : (parse (joinLines (templateLines "source: /a#b" targetPlaceholder))).run hashWorld =
      (.error (.context "invalid config file"
        (.config 6 "source: /a#b" (.context "invalid source" (.directoryNotFound (encode "/a"))))), hashWorld) := by
    rw [parse, textLines_templateLines single targetPlaceholder_single]
    exact Task.run_bind_error (readLines_stops_at_line head failed _)
  refine ⟨directory, Task.run_label_of_calm ?_ rfl⟩
  unfold renderDefault
  rw [Task.run_bind_ok (run_absolutePath named hashWorld), absolute, Task.run_bind_ok (run_ensureDirectory directory)]
  simp only
  rw [replaceFirst_sourcePlaceholder, line, Task.run_bind_ok (Task.run_pure _ hashWorld)]
  exact Task.run_bind_error parsed

end Create

end BackupRotation.Settings
