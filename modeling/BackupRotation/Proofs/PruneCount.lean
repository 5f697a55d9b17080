import Mathlib.Data.Nat.Digits.Defs
import Mathlib.Data.List.Induction
import BackupRotation.Proofs.PurgeView
import BackupRotation.Proofs.LatestLink
/-!
# Pruning by count

A prune request is read from the command line: `all`, or a count written as
a signed 64-bit decimal that must be at least one. The reader takes an
optional sign and then digits only, so leading zeros and a `+` pass while a
blank, a `0x` prefix or a fraction do not. Its value is stated here against
Mathlib's `Nat.ofDigits` (`digitsValue?_eq_some`), not against the fold the
reader runs, and the requests a text names are `CountText`.

A prune of a target lists its snapshots, sorted by name, leaves the newest
out and marks the first `k` of the others, where `k` is the request resolved
against their number (`decisions_eq_replicate`). On a target as the program
finds it (`FramedTarget`), when the deletions succeed, the prune deletes
exactly the `k` smallest names, reports every candidate in name order, and
leaves the rest of the view right below the root as it was, the newest
snapshot and the `latest` link among it (`run_pruneOldest_of_deletions`,
`FramedTarget.after_first_deletions`).
-/

namespace BackupRotation.Text

/-- The number that decimal digits spell, most significant first. -/
def decimalValue (digits : List Char) : Nat :=
  Nat.ofDigits 10 (digits.reverse.map fun c => c.toNat - '0'.toNat)

/-- A fold from the left over digit characters, as the readers run it,
computes the digits' value in its base. -/
theorem foldl_radix (base : Nat) (digits : List Char) :
    digits.foldl (fun acc c => acc * base + (c.toNat - '0'.toNat)) 0 =
      Nat.ofDigits base (digits.reverse.map fun c => c.toNat - '0'.toNat) := by
  induction digits using List.reverseRecOn with
  | nil => rfl
  | append_singleton digits last ih =>
      rw [List.foldl_append, ih, List.foldl_cons, List.foldl_nil]
      simp only [List.reverse_append, List.reverse_cons, List.reverse_nil, List.nil_append,
        List.cons_append, List.map_cons, Nat.ofDigits_cons]
      rw [Nat.add_comm, Nat.mul_comm]

/-- The reader's fold from the left computes the digits' value. -/
theorem foldl_digits (digits : List Char) :
    digits.foldl (fun acc c => acc * 10 + (c.toNat - '0'.toNat)) 0 = decimalValue digits :=
  foldl_radix 10 digits

/-- Digits read as their decimal value; anything else, the empty text
included, reads as nothing. -/
theorem digitsValue?_eq_some {chars : List Char} {value : Nat} :
    digitsValue? chars = some value ↔
      chars ≠ [] ∧ (∀ c ∈ chars, c.isDigit = true) ∧ value = decimalValue chars := by
  unfold digitsValue?
  rw [foldl_digits]
  split
  · rename_i accepted
    simp only [Bool.and_eq_true, Bool.not_eq_true', List.isEmpty_eq_false_iff, List.all_eq_true] at accepted
    obtain ⟨nonempty, digits⟩ := accepted
    rw [Option.some.injEq]
    exact ⟨fun read => ⟨nonempty, digits, read.symm⟩, fun ⟨_, _, read⟩ => read.symm⟩
  · rename_i refused
    simp only [Bool.and_eq_true, Bool.not_eq_true', List.isEmpty_eq_false_iff, List.all_eq_true] at refused
    simp only [reduceCtorEq, false_iff]
    grind

/-- Digits do not start with a sign. -/
theorem digits_ne_sign {digits rest : List Char} (allDigits : ∀ c ∈ digits, c.isDigit = true)
    {sign : Char} (notDigit : sign.isDigit = false) : digits ≠ sign :: rest := by
  rintro rfl
  rw [allDigits sign List.mem_cons_self] at notDigit
  cases notDigit

/-- What the signed reader accepts: digits, with a `+` or a `-` in front or
not, whose value lies within the bounds. -/
theorem readSigned?_eq_some {low high value : Int} {text : String} :
    readSigned? low high text = some value ↔
      low ≤ value ∧ value ≤ high ∧ ∃ digits : List Char, digits ≠ [] ∧ (∀ c ∈ digits, c.isDigit = true) ∧
        ((text.toList = digits ∨ text.toList = '+' :: digits) ∧ value = decimalValue digits ∨
          text.toList = '-' :: digits ∧ value = -(decimalValue digits : Int)) := by
  have bounded : ∀ read : Int,
      (if (decide (low ≤ read) && decide (read ≤ high)) = true then some read else none) = some value ↔
        low ≤ value ∧ value ≤ high ∧ read = value := by
    intro read
    split <;> grind
  unfold readSigned?
  rw [Option.bind_eq_some_iff]
  simp only [bounded]
  generalize text.toList = chars
  -- the three shapes of the text: `+` and digits, `-` and digits, digits alone
  split
  · rename_i digits
    constructor
    · rintro ⟨read, parsed, low, high, rfl⟩
      cases readDigits : digitsValue? digits with
      | none => simp [readDigits] at parsed
      | some magnitude =>
          obtain ⟨nonempty, allDigits, rfl⟩ := digitsValue?_eq_some |>.mp readDigits
          simp only [readDigits, Option.map_some, Option.some.injEq] at parsed
          exact ⟨low, high, digits, nonempty, allDigits, .inl ⟨.inr rfl, parsed.symm⟩⟩
    · rintro ⟨low, high, digits', nonempty, allDigits, ⟨same | same, rfl⟩ | ⟨same, rfl⟩⟩
      · exact absurd same.symm (digits_ne_sign allDigits (by decide))
      · cases same
        exact ⟨_, by rw [digitsValue?_eq_some |>.mpr ⟨nonempty, allDigits, rfl⟩]; rfl, low, high, rfl⟩
      · simp at same
  · rename_i digits
    constructor
    · rintro ⟨read, parsed, low, high, rfl⟩
      cases readDigits : digitsValue? digits with
      | none => simp [readDigits] at parsed
      | some magnitude =>
          obtain ⟨nonempty, allDigits, rfl⟩ := digitsValue?_eq_some |>.mp readDigits
          simp only [readDigits] at parsed
          cases parsed
          exact ⟨low, high, digits, nonempty, allDigits, .inr ⟨rfl, rfl⟩⟩
    · rintro ⟨low, high, digits', nonempty, allDigits, ⟨same | same, rfl⟩ | ⟨same, rfl⟩⟩
      · exact absurd same.symm (digits_ne_sign allDigits (by decide))
      · simp at same
      · cases same
        exact ⟨_, by rw [digitsValue?_eq_some |>.mpr ⟨nonempty, allDigits, rfl⟩]; rfl, low, high, rfl⟩
  · rename_i noPlus noMinus
    constructor
    · rintro ⟨read, parsed, low, high, rfl⟩
      cases readDigits : digitsValue? chars with
      | none => simp [readDigits] at parsed
      | some magnitude =>
          obtain ⟨nonempty, allDigits, rfl⟩ := digitsValue?_eq_some |>.mp readDigits
          simp only [readDigits, Option.map_some, Option.some.injEq] at parsed
          exact ⟨low, high, chars, nonempty, allDigits, .inl ⟨.inl rfl, parsed.symm⟩⟩
    · rintro ⟨low, high, digits, nonempty, allDigits, ⟨same | same, rfl⟩ | ⟨same, rfl⟩⟩
      · subst same
        exact ⟨_, by rw [digitsValue?_eq_some |>.mpr ⟨nonempty, allDigits, rfl⟩]; rfl, low, high, rfl⟩
      · exact (noPlus digits same).elim
      · exact (noMinus digits same).elim

end BackupRotation.Text

namespace BackupRotation.Prune

open Files Store Snapshot Report Text

/-! ### Reading a request -/

/-- The prune requests a text names: `all`, or digits with an optional `+`
in front, leading zeros allowed, for a count from one up to the largest
signed 64-bit integer. -/
def CountText (raw : String) (count : DeleteCount) : Prop :=
  raw = "all" ∧ count = .all ∨
    ∃ digits : List Char, (raw.toList = digits ∨ raw.toList = '+' :: digits) ∧ digits ≠ [] ∧
      (∀ c ∈ digits, c.isDigit = true) ∧ 1 ≤ decimalValue digits ∧
      decimalValue digits ≤ 9223372036854775807 ∧ count = .oldest (decimalValue digits)

/-- A count written in digits is not the word `all`. -/
theorem ne_all_of_digits {raw : String} {digits : List Char}
    (form : raw.toList = digits ∨ raw.toList = '+' :: digits) (allDigits : ∀ c ∈ digits, c.isDigit = true) :
    raw ≠ "all" := by
  rintro rfl
  rw [show "all".toList = ['a', 'l', 'l'] from rfl] at form
  rcases form with form | form
  · exact digits_ne_sign allDigits (by decide) form.symm
  · simp at form

theorem parse_of_countText {raw : String} {count : DeleteCount} (named : CountText raw count) :
    DeleteCount.parse raw = .ok count := by
  rcases named with ⟨rfl, rfl⟩ | ⟨digits, form, nonempty, allDigits, least, most, rfl⟩
  · rfl
  · have read : readInt64? raw = some (decimalValue digits : Int) :=
      readSigned?_eq_some |>.mpr ⟨by omega, by omega, digits, nonempty, allDigits, .inl ⟨form, rfl⟩⟩
    have notAll : (raw == "all") = false := by simpa using ne_all_of_digits form allDigits
    simp only [DeleteCount.parse, notAll, Bool.false_eq_true, ↓reduceIte, read]
    rw [if_pos (by omega), Int.toNat_natCast]

theorem countText_of_parse {raw : String} {count : DeleteCount} (read : DeleteCount.parse raw = .ok count) :
    CountText raw count := by
  unfold DeleteCount.parse at read
  split at read
  · rename_i named
    cases read
    exact .inl ⟨by simpa using named, rfl⟩
  · split at read
    · rename_i value signed
      split at read
      · rename_i positive
        cases read
        obtain ⟨_, most, digits, nonempty, allDigits, ⟨form, rfl⟩ | ⟨_, rfl⟩⟩ := readSigned?_eq_some |>.mp signed
        · exact .inr ⟨digits, form, nonempty, allDigits, by omega, by omega, by rw [Int.toNat_natCast]⟩
        · omega
      · cases read
    · cases read

/-- Reading a request accepts exactly the texts that name one. -/
theorem parse_eq_ok_iff {raw : String} {count : DeleteCount} :
    DeleteCount.parse raw = .ok count ↔ CountText raw count :=
  ⟨countText_of_parse, parse_of_countText⟩

/-- A request that cannot be read is refused naming the text. -/
theorem parse_error {raw : String} {failure : Failure} (refused : DeleteCount.parse raw = .error failure) :
    failure = .invalidCount raw := by
  unfold DeleteCount.parse at refused
  split at refused
  · cases refused
  · split at refused
    · split at refused <;> cases refused
      rfl
    · cases refused
      rfl

/-! ### The decisions of a prune -/

/-- A request never covers more candidates than there are. -/
theorem DeleteCount.resolve_le (count : DeleteCount) (available : Nat) : count.resolve available ≤ available := by
  cases count <;> simp [DeleteCount.resolve]

/-- The decisions remove a prefix: the first `count` candidates. -/
theorem decisions_eq_replicate {candidates count : Nat} (fits : count ≤ candidates) :
    decisions candidates count = List.replicate count true ++ List.replicate (candidates - count) false := by
  apply List.ext_getElem
  · simp [decisions]
    omega
  · intro index inDecisions _
    simp only [decisions, List.getElem_map, List.getElem_range, List.getElem_append, List.length_replicate,
      List.getElem_replicate]
    split <;> simp_all

section Prefix

variable {α : Type}

theorem marked_replicate_append : ∀ (items : List α) {count : Nat}, count ≤ items.length →
    marked items (List.replicate count true ++ List.replicate (items.length - count) false) = items.take count
  | [], 0, _ => rfl
  | item :: items, 0, _ => by simp [List.replicate_succ]
  | item :: items, count + 1, fits => by
      rw [List.length_cons, Nat.add_sub_add_right, List.replicate_succ, List.cons_append, marked_cons_cons,
        if_pos rfl, marked_replicate_append items (by simpa using fits), List.take_succ_cons]

theorem unmarked_replicate_append : ∀ (items : List α) {count : Nat}, count ≤ items.length →
    unmarked items (List.replicate count true ++ List.replicate (items.length - count) false) = items.drop count
  | [], 0, _ => rfl
  | item :: items, 0, _ => by simp [List.replicate_succ]
  | item :: items, count + 1, fits => by
      rw [List.length_cons, Nat.add_sub_add_right, List.replicate_succ, List.cons_append, unmarked_cons_cons,
        if_pos rfl, unmarked_replicate_append items (by simpa using fits), List.drop_succ_cons]

/-- Taking the first names out of a listing without repeats leaves the
others. -/
theorem filter_not_mem_take [BEq α] [LawfulBEq α] {items : List α} (distinct : items.Nodup) (count : Nat) :
    items.filter (· ∉ items.take count) = items.drop count := by
  rcases Nat.le_total count items.length with fits | beyond
  · have split : items.filter (· ∉ marked items (List.replicate count true ++
          List.replicate (items.length - count) false)) =
        unmarked items (List.replicate count true ++ List.replicate (items.length - count) false) :=
      filter_not_mem_marked distinct (by simp; omega)
    rwa [marked_replicate_append items fits, unmarked_replicate_append items fits] at split
  · rw [List.take_of_length_le beyond, List.drop_of_length_le beyond]
    simp

end Prefix

/-! ### Entries, events and the run of a prune -/

theorem entriesOfPaths_cons {zone : Calendar.Zone} {path : PathName} {rest : List PathName}
    {entries : List Entry} :
    entriesOfPaths zone (path :: rest) = .ok entries ↔
      ∃ entry others, Entry.ofPath zone path = .ok entry ∧ entriesOfPaths zone rest = .ok others ∧
        entries = entry :: others := by
  simp only [entriesOfPaths]
  cases Entry.ofPath zone path <;> cases entriesOfPaths zone rest <;>
    simp [bind, Except.bind, pure, Except.pure, eq_comm]

/-- Entries are read path by path, so the first paths give the first
entries. -/
theorem entriesOfPaths_take {zone : Calendar.Zone} :
    ∀ {paths : List PathName} {entries : List Entry} (count : Nat),
      entriesOfPaths zone paths = .ok entries → entriesOfPaths zone (paths.take count) = .ok (entries.take count)
  | [], entries, count, read => by
      simp only [entriesOfPaths, Except.ok.injEq] at read
      subst read
      simp [entriesOfPaths]
  | path :: rest, entries, 0, _ => rfl
  | path :: rest, entries, count + 1, read => by
      obtain ⟨entry, others, first, later, rfl⟩ := entriesOfPaths_cons |>.mp read
      exact entriesOfPaths_cons |>.mpr ⟨entry, others.take count, first, entriesOfPaths_take count later, rfl⟩

theorem entriesOfPaths_dropLast {zone : Calendar.Zone} {paths : List PathName} {entries : List Entry}
    (read : entriesOfPaths zone paths = .ok entries) : entriesOfPaths zone paths.dropLast = .ok entries.dropLast := by
  have counted : entries.length = paths.length := by
    rw [← entriesOfPaths_paths read, List.length_map]
  rw [List.dropLast_eq_take, List.dropLast_eq_take, counted]
  exact entriesOfPaths_take _ read

/-- A prune of two snapshots or more whose names all read as times purges
the candidates, all but the newest, with the first of them marked. -/
theorem run_pruneOldest {target : Target} {count : DeleteCount} {dryRun : Bool} {world : World}
    {dirs : List PathName} {entries : List Entry}
    (listed : (target.snapshots.run world).1 = .ok dirs) (several : 2 ≤ dirs.length)
    (parsed : entriesOfPaths world.zone dirs = .ok entries) :
    (pruneOldest target count dryRun).run world =
      (purge entries.dropLast (decisions (dirs.length - 1) (count.resolve (dirs.length - 1))) dryRun).run world := by
  have counted : entries.dropLast.length = dirs.length - 1 := by
    rw [List.length_dropLast, ← entriesOfPaths_paths parsed, List.length_map]
  unfold pruneOldest
  rw [Task.run_bind_ok (run_loadCandidates listed several), Task.run_bind_ok (Task.run_zone world),
    Task.run_bind_ok (by rw [Task.run_ofOutcome, entriesOfPaths_dropLast parsed])]
  simp only [counted]

/-- The events of a purge: every snapshot in order with its time, as purged
exactly when marked, and flagged as the run is. -/
theorem pruneEvents_fields (dryRun : Bool) {entries : List Entry} {remove : List Bool}
    (same : entries.length = remove.length) :
    ((entries.zip remove).map (pruneEvent dryRun)).map (·.path) = entries.map (·.path.bytes) ∧
      ((entries.zip remove).map (pruneEvent dryRun)).map (·.time) = entries.map (·.time) ∧
      ((entries.zip remove).map (pruneEvent dryRun)).map (·.action) =
        remove.map (fun marked => if marked then .purged else .kept) ∧
      ∀ event ∈ (entries.zip remove).map (pruneEvent dryRun), event.dryRun = dryRun := by
  have firsts : (entries.zip remove).map Prod.fst = entries := List.map_fst_zip (by omega)
  have seconds : (entries.zip remove).map Prod.snd = remove := List.map_snd_zip (by omega)
  refine ⟨?_, ?_, ?_, ?_⟩
  · conv_rhs => rw [← firsts]
    simp [pruneEvent]
  · conv_rhs => rw [← firsts]
    simp [pruneEvent]
  · conv_rhs => rw [← seconds]
    simp [pruneEvent]
  · intro event listed
    obtain ⟨decided, -, rfl⟩ := List.mem_map.mp listed
    rfl

/-- When its deletions succeed, a prune of two snapshots or more whose names
all read as times deletes the first `k` listed, `k` the request resolved
against the candidates, all but the newest, and none in a dry run. It returns
that number and reports every candidate in order, with the first `k` marked. -/
theorem run_pruneOldest_of_deletions {target : Target} {count : DeleteCount} {dryRun : Bool}
    {world reached : World} {dirs : List PathName} {entries : List Entry}
    (listed : (target.snapshots.run world).1 = .ok dirs) (several : 2 ≤ dirs.length)
    (parsed : entriesOfPaths world.zone dirs = .ok entries)
    (deleted : ((if dryRun then [] else dirs.take (count.resolve (dirs.length - 1))).forM deleteSnapshot).run world =
      (.ok (), reached)) :
    (pruneOldest target count dryRun).run world =
      (.ok (if dryRun then 0 else count.resolve (dirs.length - 1)),
        reported reached ((entries.dropLast.zip (decisions (dirs.length - 1) (count.resolve (dirs.length - 1)))).map
          (pruneEvent dryRun))) := by
  have counted : entries.dropLast.length = dirs.length - 1 := by
    rw [List.length_dropLast, ← entriesOfPaths_paths parsed, List.length_map]
  have fits : count.resolve (dirs.length - 1) ≤ dirs.length - 1 := DeleteCount.resolve_le count _
  have paths : entries.dropLast.map (·.path) = dirs.dropLast := by
    rw [List.map_dropLast, entriesOfPaths_paths parsed]
  rw [run_pruneOldest listed several parsed]
  generalize count.resolve (dirs.length - 1) = chosen at fits deleted ⊢
  -- the marked candidates are the first ones listed, since the newest is not among them
  have marks : marked entries.dropLast (decisions (dirs.length - 1) chosen) = entries.dropLast.take chosen := by
    rw [decisions_eq_replicate fits, ← counted, marked_replicate_append _ (counted ▸ fits)]
  have doomed : deletions dryRun (entries.dropLast.zip (decisions (dirs.length - 1) chosen)) =
      if dryRun then [] else dirs.take chosen := by
    rw [deletions_zip, marks, List.map_take, paths, List.dropLast_eq_take, List.take_take, Nat.min_eq_left fits]
  rw [run_purge_matched dryRun world (by simp [decisions, counted]),
    run_purgeEach_of_deletions dryRun _ 0 world reached (doomed ▸ deleted), doomed]
  cases dryRun
  · have taken : (dirs.take chosen).length = chosen := by
      rw [List.length_take]
      omega
    simp [taken]
  · simp

end BackupRotation.Prune

namespace BackupRotation.Store

open Files Text Prune

variable {root : PathName} {top : Key} {start : FileSystem} {target : Target} {world reached : World}
  {dirs : List PathName}

/-- A framed target lists its snapshot names in strictly increasing order. -/
theorem FramedTarget.listed_sorted (framedTarget : FramedTarget target.root top start world.files)
    (listed : (target.snapshots.run world).1 = .ok dirs) :
    ∃ names : List Bytes, dirs = names.map (fun name => target.root.join ⟨name⟩) ∧ names.Pairwise NameBefore ∧
      names = snapshotNames world.files top := by
  rw [framedTarget.run_snapshots] at listed
  exact ⟨_, (Except.ok.inj listed).symm, snapshotNames_sorted framedTarget.framed.nodup top, rfl⟩

/-- Deleting the first snapshots a framed target lists, when each deletion
succeeds, leaves the target listing the others, and every entry right below
its root but the first names as it was. -/
theorem FramedTarget.after_first_deletions (framedTarget : FramedTarget target.root top start world.files)
    (listed : (target.snapshots.run world).1 = .ok dirs) (count : Nat)
    (deleted : ((dirs.take count).forM deleteSnapshot).run world = (.ok (), reached)) :
    FramedTarget target.root top start reached.files ∧ target.snapshots.run reached = (.ok (dirs.drop count), reached) ∧
      ∀ name, name ∉ (snapshotNames world.files top).take count →
        level reached.files top name = level world.files top name := by
  obtain ⟨names, rfl, sorted, rfl⟩ := framedTarget.listed_sorted listed
  have distinct : (snapshotNames world.files top).Nodup := sorted.imp fun before => before.2
  rw [← List.map_take] at deleted
  obtain ⟨-, reachedTarget, erased, kept⟩ := framedTarget.after_deletions
    (fun _ inside => List.mem_of_mem_take inside) (distinct.sublist (List.take_sublist _ _)) deleted
  refine ⟨reachedTarget, ?_, kept⟩
  rw [reachedTarget.run_snapshots, erased, filter_not_mem_take distinct, List.map_drop]

/-- The greatest name a target lists is none of the first others. -/
theorem getLast_not_mem_take {names : List Bytes} (distinct : names.Nodup) {count : Nat}
    (fits : count ≤ names.length - 1) {last : Bytes} (greatest : last ∈ names.getLast?) :
    last ∉ names.take count := by
  have whole : names = names.dropLast ++ [last] := (List.dropLast_append_getLast? last greatest).symm
  have first : names.take count = names.dropLast.take count := by
    rw [List.dropLast_eq_take, List.take_take, Nat.min_eq_left fits]
  have fresh : last ∉ names.dropLast := by
    rw [whole, List.nodup_append] at distinct
    exact fun inside => distinct.2.2 last inside last (List.mem_singleton_self last) rfl
  rw [first]
  exact fun inside => fresh (List.mem_of_mem_take inside)

end BackupRotation.Store

namespace BackupRotation.Prune

open Files Store Snapshot Report Text

/-- The events of a prune: the candidates in name order with their times,
the first `chosen` as purged and the others as kept. -/
theorem candidate_events {zone : Calendar.Zone} (dryRun : Bool) {dirs : List PathName} {entries : List Entry}
    (parsed : entriesOfPaths zone dirs = .ok entries) {chosen : Nat} (fits : chosen ≤ dirs.length - 1) :
    ((entries.dropLast.zip (decisions (dirs.length - 1) chosen)).map (pruneEvent dryRun)).map (·.path) =
        dirs.dropLast.map (·.bytes) ∧
      ((entries.dropLast.zip (decisions (dirs.length - 1) chosen)).map (pruneEvent dryRun)).map (·.action) =
        List.replicate chosen .purged ++ List.replicate (dirs.length - 1 - chosen) .kept ∧
      ((entries.dropLast.zip (decisions (dirs.length - 1) chosen)).map (pruneEvent dryRun)).map (·.time) =
        entries.dropLast.map (·.time) ∧
      ∀ event ∈ (entries.dropLast.zip (decisions (dirs.length - 1) chosen)).map (pruneEvent dryRun),
        event.dryRun = dryRun := by
  have counted : entries.dropLast.length = (decisions (dirs.length - 1) chosen).length := by
    rw [List.length_dropLast, ← entriesOfPaths_paths parsed, List.length_map]
    simp [decisions]
  obtain ⟨paths, times, actions, flags⟩ := pruneEvents_fields dryRun counted
  refine ⟨?_, ?_, times, flags⟩
  · rw [paths, ← entriesOfPaths_paths parsed, ← List.map_dropLast, List.map_map]
    rfl
  · rw [actions, decisions_eq_replicate fits, List.map_append, List.map_replicate, List.map_replicate]
    rfl

/-- Pruning by count. A request reads as `all`, or as digits with an optional
`+` for a count from one up to the largest signed 64-bit integer, and any
other text is refused naming it. On a target as the program finds it,
listing `N ≥ 2` snapshots whose names all read as times, a prune whose
deletions succeed resolves the request to some `k ≤ N - 1` and deletes the
first `k` listed (none in a dry run), which are the `k` smallest names. It
returns `k` (0 in a dry run) and reports the `N - 1` candidates in name
order, exactly the first `k` as purged. Afterwards the target lists the
others, and every other entry right below its root, the greatest name and
`latest` among them, is as it was. -/
theorem prune_deletes_oldest :
    ((∀ (raw : String) (count : DeleteCount), DeleteCount.parse raw = .ok count ↔ CountText raw count) ∧
      ∀ (raw : String) (failure : Failure), DeleteCount.parse raw = .error failure → failure = .invalidCount raw) ∧
    ∀ (target : Target) (top : Key) (start : FileSystem) (world reached : World) (count : DeleteCount)
      (dryRun : Bool) (dirs : List PathName) (entries : List Entry),
      FramedTarget target.root top start world.files →
      (target.snapshots.run world).1 = .ok dirs → 2 ≤ dirs.length →
      entriesOfPaths world.zone dirs = .ok entries →
      ((if dryRun then [] else dirs.take (count.resolve (dirs.length - 1))).forM deleteSnapshot).run world =
        (.ok (), reached) →
      count.resolve (dirs.length - 1) ≤ dirs.length - 1 ∧
      (∃ events : List PruneEvent,
        (pruneOldest target count dryRun).run world =
          (.ok (if dryRun then 0 else count.resolve (dirs.length - 1)), reported reached events) ∧
        events.map (·.path) = dirs.dropLast.map (·.bytes) ∧
        events.map (·.action) = List.replicate (count.resolve (dirs.length - 1)) .purged ++
          List.replicate (dirs.length - 1 - count.resolve (dirs.length - 1)) .kept ∧
        events.map (·.time) = entries.dropLast.map (·.time) ∧ ∀ event ∈ events, event.dryRun = dryRun) ∧
      target.snapshots.run reached =
        (.ok (if dryRun then dirs else dirs.drop (count.resolve (dirs.length - 1))), reached) ∧
      ∃ names : List Bytes, dirs = names.map (fun name => target.root.join ⟨name⟩) ∧ names.Pairwise NameBefore ∧
        (∀ name, name ∉ (if dryRun then [] else names.take (count.resolve (dirs.length - 1))) →
          level reached.files top name = level world.files top name) ∧
        (∀ last ∈ names.getLast?, level reached.files top last = level world.files top last) ∧
        level reached.files top latestName = level world.files top latestName := by
  refine ⟨⟨fun _ _ => parse_eq_ok_iff, fun _ _ => parse_error⟩, ?_⟩
  intro target top start world reached count dryRun dirs entries framedTarget listed several parsed deleted
  have fits : count.resolve (dirs.length - 1) ≤ dirs.length - 1 := DeleteCount.resolve_le count _
  obtain ⟨paths, actions, times, flags⟩ := candidate_events dryRun parsed fits
  obtain ⟨names, dirsNames, sorted, listing⟩ := framedTarget.listed_sorted listed
  have distinct : names.Nodup := sorted.imp fun before => before.2
  -- what the deletions leave: nothing changed in a dry run, the first names gone otherwise
  have after : target.snapshots.run reached =
        (.ok (if dryRun then dirs else dirs.drop (count.resolve (dirs.length - 1))), reached) ∧
      ∀ name, name ∉ (if dryRun then [] else names.take (count.resolve (dirs.length - 1))) →
        level reached.files top name = level world.files top name := by
    cases dryRun
    · obtain ⟨-, relisted, kept⟩ := framedTarget.after_first_deletions listed _ deleted
      exact ⟨relisted, fun name outside => kept name (listing ▸ outside)⟩
    · cases deleted
      refine ⟨framedTarget.run_snapshots.trans ?_, fun _ _ => rfl⟩
      rw [← listing, ← dirsNames]
      rfl
  have lengths : count.resolve (dirs.length - 1) ≤ names.length - 1 := by
    have same : dirs.length = names.length := by rw [dirsNames, List.length_map]
    omega
  have untouched : ∀ name, name ∉ names → level reached.files top name = level world.files top name :=
    fun name outside => after.2 name fun inside => outside (by
      split at inside
      · cases inside
      · exact List.mem_of_mem_take inside)
  refine ⟨fits, ⟨_, run_pruneOldest_of_deletions listed several parsed deleted, paths, actions, times, flags⟩,
    after.1, names, dirsNames, sorted, after.2, fun last greatest => after.2 last ?_, untouched latestName ?_⟩
  · split
    · simp
    · exact getLast_not_mem_take distinct lengths greatest
  · rw [listing]
    exact latestName_not_mem_snapshotNames framedTarget.framed.nodup top

/-- The target `/t` holding snapshots of 1, 2 and 3 January 2024 at 10:00
UTC, with `latest` on the last. -/
def threeDaysFiles : FileSystem :=
  (((Store.emptyTargetFiles.put ([encode "t"] ++ [encode "20240101_100000.0000.szb"]) (.directory 0o755)).put
      ([encode "t"] ++ [encode "20240102_100000.0000.szb"]) (.directory 0o755)).put
      ([encode "t"] ++ [encode "20240103_100000.0000.szb"]) (.directory 0o755)).put
    ([encode "t"] ++ [latestName]) (.link (encode "20240103_100000.0000.szb"))

/-- The world of `threeDaysFiles` in UTC. -/
def threeDaysWorld : World := { Store.emptyTargetWorld .utc with files := threeDaysFiles }

/-- The three snapshot directories of `threeDaysFiles`, oldest first. -/
def threeDaysDirs : List PathName :=
  ["20240101_100000.0000.szb", "20240102_100000.0000.szb", "20240103_100000.0000.szb"].map
    fun name => Store.targetT.root.join ⟨encode name⟩

/-- The entries the three snapshot names read as. -/
def threeDaysEntries : List Entry := (entriesOfPaths .utc threeDaysDirs).toOption.getD []

/-- The world after deleting the first two snapshots of `threeDaysWorld`. -/
def threeDaysPruned : World := (((threeDaysDirs.take 2).forM deleteSnapshot).run threeDaysWorld).2

theorem framedTarget_threeDaysFiles :
    FramedTarget Store.targetT.root [encode "t"] Store.emptyTargetFiles threeDaysFiles where
  empty := Store.emptyTarget_emptyTargetFiles
  framed := ((((kept_start Store.emptyTarget_emptyTargetFiles).toFramed.put _ _).put _ _).put _ _).put _ _
  plain := by
    have listed : snapshotNames threeDaysFiles [encode "t"] =
        [encode "20240101_100000.0000.szb", encode "20240102_100000.0000.szb",
          encode "20240103_100000.0000.szb"] := by
      cbv
    rw [listed]
    simp only [PlainName, encode_eq_flatMap]
    decide

theorem run_snapshots_threeDaysWorld : (Store.targetT.snapshots.run threeDaysWorld).1 = .ok threeDaysDirs := by
  rw [FramedTarget.run_snapshots framedTarget_threeDaysFiles]
  exact congrArg Except.ok (by cbv)

theorem entriesOfPaths_threeDaysDirs : entriesOfPaths threeDaysWorld.zone threeDaysDirs = .ok threeDaysEntries :=
  Task.eq_ok_of_toOption (by cbv)

/-- Asking to prune five of three snapshots deletes the two oldest, and the
newest stays. -/
theorem prune_deletes_oldest_threeDays :
    FramedTarget Store.targetT.root [encode "t"] Store.emptyTargetFiles threeDaysWorld.files ∧
    (Store.targetT.snapshots.run threeDaysWorld).1 = .ok threeDaysDirs ∧ 2 ≤ threeDaysDirs.length ∧
    entriesOfPaths threeDaysWorld.zone threeDaysDirs = .ok threeDaysEntries ∧
    ((threeDaysDirs.take 2).forM deleteSnapshot).run threeDaysWorld = (.ok (), threeDaysPruned) ∧
    (∃ events : List PruneEvent,
      (pruneOldest Store.targetT (.oldest 5) false).run threeDaysWorld = (.ok 2, reported threeDaysPruned events) ∧
      events.map (·.action) = [.purged, .purged]) ∧
    Store.targetT.snapshots.run threeDaysPruned = (.ok (threeDaysDirs.drop 2), threeDaysPruned) := by
  have deleted : ((threeDaysDirs.take 2).forM deleteSnapshot).run threeDaysWorld = (.ok (), threeDaysPruned) :=
    Prod.ext (Task.eq_ok_of_toOption (by cbv)) rfl
  obtain ⟨-, ⟨events, ran, -, actions, -⟩, relisted, -⟩ :=
    prune_deletes_oldest |>.2 Store.targetT [encode "t"] Store.emptyTargetFiles threeDaysWorld threeDaysPruned
      (.oldest 5) false threeDaysDirs threeDaysEntries framedTarget_threeDaysFiles run_snapshots_threeDaysWorld
      (by decide) entriesOfPaths_threeDaysDirs deleted
  exact ⟨framedTarget_threeDaysFiles, run_snapshots_threeDaysWorld, by decide, entriesOfPaths_threeDaysDirs,
    deleted, ⟨events, ran, actions⟩, relisted⟩

end BackupRotation.Prune
