import BackupRotation.Proofs.Utf8Cuts
import BackupRotation.Proofs.NameCodec
import BackupRotation.Proofs.RestorePaths
/-!
# Finding the snapshot in a path

A path is split after the first place where its marker matches: the first
window of twenty-four bytes that fits the name grammar, or the first
occurrence of a literal. Two things are proved about that search.

Wherever the marker matches well-formed text, the match ends where the text
may be cut (`Marker.find_cuts`): the grammar admits ASCII bytes only, and a
literal is text, which starts with a lead byte and ends with a complete
character. So cutting the path there never splits a character.

For a path written as a directory, a slash, a snapshot name and anything
below it, the search finds exactly the name (`findName_formatted`), as long
as the directory holds no window of its own that fits the grammar. No
window can run across the slash, since the grammar admits no slash, and the
name of every time in the years 2000 to 2999 that is not a leap second fits
the grammar: a leading `2`, months, days, hours, minutes and seconds whose
tens digits stay within the grammar's ranges. Splitting such a path gives
the directory and name as the snapshot, and the rest without its slashes.
-/

namespace BackupRotation.Snapshot

open Calendar Text Files Store

/-! ### The search -/

/-- The first window a search finds passes the test, at its place. -/
theorem firstWindow_eq_some {test : Bytes → Bool} : ∀ {index start : Nat} {bytes : Bytes},
    firstWindow test index bytes = some start → index ≤ start ∧ test (bytes.drop (start - index)) = true
  | index, start, [], found => by
      simp only [firstWindow] at found
      split at found
      · cases found
        simpa
      · cases found
  | index, start, byte :: rest, found => by
      simp only [firstWindow] at found
      split at found
      · cases found
        simpa
      · obtain ⟨later, passes⟩ := firstWindow_eq_some found
        refine ⟨by omega, ?_⟩
        rwa [show start - index = (start - (index + 1)) + 1 by omega, List.drop_succ_cons]

/-- A search that finds nothing has tested every window and failed it. -/
theorem firstWindow_eq_none {test : Bytes → Bool} : ∀ {index : Nat} {bytes : Bytes},
    firstWindow test index bytes = none → ∀ skipped, test (bytes.drop skipped) = false
  | index, [], missed, skipped => by
      simp only [firstWindow] at missed
      split at missed
      · cases missed
      · rename_i failed
        simpa using failed
  | index, byte :: rest, missed, skipped => by
      simp only [firstWindow] at missed
      split at missed
      · cases missed
      · rename_i failed
        cases skipped with
        | zero => simpa using failed
        | succ skipped => simpa using firstWindow_eq_none missed skipped

/-- A search passes over a front none of whose windows passes the test. -/
theorem firstWindow_append {test : Bytes → Bool} : ∀ {index : Nat} {front : Bytes} (rest : Bytes),
    (∀ skipped < front.length, test ((front ++ rest).drop skipped) = false) →
    firstWindow test index (front ++ rest) = firstWindow test (index + front.length) rest
  | index, [], rest, _ => by simp
  | index, byte :: front, rest, fails => by
      have first : test (byte :: (front ++ rest)) = false := by simpa using fails 0 (by simp)
      have later : ∀ skipped < front.length, test ((front ++ rest).drop skipped) = false :=
        fun skipped short => by simpa using fails (skipped + 1) (by simp; omega)
      simp only [List.cons_append, firstWindow, first, Bool.false_eq_true, if_false]
      rw [firstWindow_append rest later, List.length_cons, Nat.add_assoc, Nat.add_comm 1]

/-- A search whose first window passes the test stops at once. -/
theorem firstWindow_of_test {test : Bytes → Bool} {index : Nat} {bytes : Bytes} (passes : test bytes = true) :
    firstWindow test index bytes = some index := by
  cases bytes <;> simp [firstWindow, passes]

/-! ### The grammar -/

/-- Every byte of a window that passes range checks lies in its range. -/
theorem inRange_of_all_zip : ∀ {bytes : Bytes} {ranges : List (UInt8 × UInt8)},
    (bytes.zip ranges).all (fun (byte, low, high) => low ≤ byte && byte ≤ high) = true →
    ∀ byte ∈ bytes.take ranges.length, ∃ range ∈ ranges, range.1 ≤ byte ∧ byte ≤ range.2
  | [], _, _ => by simp
  | _ :: _, [], _ => by simp
  | byte :: rest, range :: others, checked => by
      simp only [List.zip_cons_cons, List.all_cons, Bool.and_eq_true, decide_eq_true_eq] at checked
      intro inside member
      simp only [List.length_cons, List.take_succ_cons, List.mem_cons] at member
      rcases member with rfl | later
      · exact ⟨range, by simp, checked.1.1, checked.1.2⟩
      · obtain ⟨found, foundIn, low, high⟩ := inRange_of_all_zip checked.2 inside later
        exact ⟨found, by simp [foundIn], low, high⟩

/-- A window matching the grammar is at least as long as the grammar, and
each of its first bytes lies in its range. -/
theorem matchesGrammar_spec {window : Bytes} (matched : matchesGrammar window = true) :
    nameGrammar.length ≤ window.length ∧
      ∀ byte ∈ window.take nameGrammar.length, ∃ range ∈ nameGrammar, range.1 ≤ byte ∧ byte ≤ range.2 := by
  simp only [matchesGrammar, Bool.and_eq_true, decide_eq_true_eq] at matched
  exact ⟨matched.1, inRange_of_all_zip matched.2⟩

/-- The grammar admits ASCII bytes only. -/
theorem ascii_of_matchesGrammar {window : Bytes} (matched : matchesGrammar window = true) :
    ∀ byte ∈ window.take nameGrammar.length, byte < 0x80 := by
  intro byte inside
  obtain ⟨range, listed, -, high⟩ := (matchesGrammar_spec matched).2 byte inside
  have ascii : nameGrammar.all (fun range => decide (range.2 < 0x80)) = true := by decide
  exact UInt8.lt_of_le_of_lt high (of_decide_eq_true (List.all_eq_true.mp ascii range listed))

/-- The grammar admits no slash, so no matching window runs across one. -/
theorem matchesGrammar_eq_false_of_slash {window : Bytes} (inside : slash ∈ window.take nameGrammar.length) :
    matchesGrammar window = false := by
  cases matched : matchesGrammar window with
  | false => rfl
  | true =>
      obtain ⟨range, listed, low, high⟩ := (matchesGrammar_spec matched).2 slash inside
      have noSlash : nameGrammar.all (fun range => !decide (range.1 ≤ slash ∧ slash ≤ range.2)) = true := by
        decide
      have outside := List.all_eq_true.mp noSlash range listed
      simp only [Bool.not_eq_true', decide_eq_false_iff_not] at outside
      exact absurd ⟨low, high⟩ outside

/-- Whether a window matches depends on its first bytes only. -/
theorem matchesGrammar_append_of_le {window : Bytes} (long : nameGrammar.length ≤ window.length) (rest : Bytes) :
    matchesGrammar (window ++ rest) = matchesGrammar window := by
  have sameZip : (window ++ rest).zip nameGrammar = window.zip nameGrammar := by
    rw [List.zip_eq_zip_take_min, @List.zip_eq_zip_take_min _ _ window nameGrammar, List.length_append,
      Nat.min_eq_right (by omega), Nat.min_eq_right long, List.take_append_of_le_length long]
  simp only [matchesGrammar, sameZip, List.length_append]
  have longer : nameGrammar.length ≤ window.length + rest.length := by omega
  simp [long, longer]

/-! ### Where a match ends -/

/-- A grammar match in well-formed bytes ends where the bytes may be cut. -/
theorem findName_cuts {text : Bytes} (valid : isUtf8 text = true) {start stop : Nat}
    (found : findName text = some (start, stop)) :
    stop ≤ text.length ∧ isUtf8 (text.take stop) = true ∧ isUtf8 (text.drop stop) = true := by
  simp only [findName, Option.map_eq_some_iff, Prod.mk.injEq] at found
  obtain ⟨first, located, rfl, rfl⟩ := found
  obtain ⟨-, matched⟩ := firstWindow_eq_some located
  rw [Nat.sub_zero] at matched
  have long := (matchesGrammar_spec matched).1
  have grammarLength : nameGrammar.length = 24 := rfl
  have bound : first + nameGrammar.length ≤ text.length := by
    rw [List.length_drop] at long
    omega
  refine ⟨bound, ?_⟩
  have windowValid := isUtf8_of_ascii (ascii_of_matchesGrammar matched)
  have nonempty : (text.drop first).take nameGrammar.length ≠ [] := by
    rw [← List.length_pos_iff, List.length_take]
    omega
  have whole : text = text.take (first + nameGrammar.length) ++ text.drop (first + nameGrammar.length) :=
    (List.take_append_drop _ _).symm
  rw [List.take_add] at whole ⊢
  exact isUtf8_around (whole ▸ valid) windowValid nonempty

/-- A match of literal text in well-formed bytes ends where the bytes may be
cut. -/
theorem findLiteral_cuts {needle text : Bytes} (needleValid : isUtf8 needle = true)
    (valid : isUtf8 text = true) {start stop : Nat} (found : findLiteral needle text = some (start, stop)) :
    stop ≤ text.length ∧ isUtf8 (text.take stop) = true ∧ isUtf8 (text.drop stop) = true := by
  simp only [findLiteral, Option.map_eq_some_iff, Prod.mk.injEq] at found
  obtain ⟨first, located, rfl, rfl⟩ := found
  cases needle with
  | nil =>
      -- the empty literal matches at once
      have atStart : first = 0 := by
        cases text <;> simp [firstWindow] at located <;> omega
      subst atStart
      exact ⟨Nat.zero_le _, rfl, valid⟩
  | cons lead rest =>
      obtain ⟨-, matched⟩ := firstWindow_eq_some located
      rw [Nat.sub_zero, List.isPrefixOf_iff_prefix] at matched
      obtain ⟨post, spelled⟩ := matched
      have long := congrArg List.length spelled
      simp only [List.length_append, List.length_cons, List.length_drop] at long
      have whole : text = text.take first ++ (lead :: rest) ++ post := by
        rw [List.append_assoc, spelled, List.take_append_drop]
      have cut := isUtf8_around (whole ▸ valid) needleValid (List.cons_ne_nil lead rest)
      have bound : first + (lead :: rest).length ≤ text.length := by
        rw [List.length_cons]
        omega
      refine ⟨bound, ?_⟩
      rw [List.take_add, ← List.drop_drop, ← spelled, List.take_left, List.drop_left]
      exact cut

/-- A marker whose literal is text, as every marker of the program is. -/
def Marker.IsText : Marker → Prop
  | .grammar => True
  | .literal text => isUtf8 text = true

/-- Wherever a marker matches well-formed bytes, the match ends within them,
where they may be cut: the text before the end and after it are both
well-formed. -/
theorem Marker.find_cuts {marker : Marker} (textual : marker.IsText) {text : Bytes}
    (valid : isUtf8 text = true) {start stop : Nat} (found : marker.find text = some (start, stop)) :
    stop ≤ text.length ∧ isUtf8 (text.take stop) = true ∧ isUtf8 (text.drop stop) = true := by
  cases marker with
  | grammar => exact findName_cuts valid found
  | literal needle => exact findLiteral_cuts textual valid found

/-! ### The name of a time fits the grammar -/

theorem toNat_digitByte {digit : Nat} (small : digit < 10) : (digitByte digit).toNat = 0x30 + digit := by
  simp only [digitByte, UInt8.toNat_ofNat']
  omega

theorem fieldBytes_two (value : Nat) :
    fieldBytes 2 value = [digitByte (value / 10 % 10), digitByte (value % 10)] := by
  simp [fieldBytes]

theorem fieldBytes_four (value : Nat) :
    fieldBytes 4 value =
      [digitByte (value / 10 / 10 / 10 % 10), digitByte (value / 10 / 10 % 10), digitByte (value / 10 % 10),
        digitByte (value % 10)] := by
  simp [fieldBytes]

/-- The name of a time that is no leap second is its twenty stamp bytes and
the extension. -/
theorem encode_formatName {stamp : Stamp} (nameable : stamp.Nameable) :
    encode (formatName stamp) = stampBytes stamp.wall (stamp.instant.nanos / 100000) ++ encode extension := by
  have whole : stamp.instant.nanos % nanosPerSecond = stamp.instant.nanos := Nat.mod_eq_of_lt nameable.notLeap
  unfold formatName
  rw [whole, encode_append, encode_renderCompact nameable.wall (fraction_lt nameable.notLeap)]

/-- The name of a time in the years 2000 to 2999 that is no leap second
fits the grammar, whatever follows it. -/
theorem matchesGrammar_formatName {stamp : Stamp} (notLeap : stamp.instant.nanos < nanosPerSecond)
    (yearLow : 2000 ≤ stamp.date.year) (yearHigh : stamp.date.year ≤ 2999) (rest : Bytes) :
    matchesGrammar (encode (formatName stamp) ++ rest) = true := by
  have nameable : stamp.Nameable := ⟨notLeap, by omega, by omega⟩
  obtain ⟨-, month, -, day⟩ := (Date.isValid_iff _).mp nameable.wall.valid
  obtain ⟨-, -, -, hour, minute, second⟩ := nameable.wall.fields
  have fraction : stamp.instant.nanos / 100000 < 10000 := fraction_lt notLeap
  have year : 2000 ≤ stamp.wall.date.year.toNat ∧ stamp.wall.date.year.toNat ≤ 2999 := by
    unfold Stamp.date at yearLow yearHigh
    omega
  have shortMonth := monthLength_le stamp.wall.date.year stamp.wall.date.month
  rw [encode_formatName nameable, encode_extension]
  -- each byte against its range: the tens digits are what the ranges bound
  simp only [stampBytes, fieldBytes_two, fieldBytes_four, matchesGrammar, nameGrammar, List.cons_append,
    List.nil_append, List.length_cons, List.length_nil, List.zip_cons_cons, List.zip_nil_right, List.all_cons,
    List.all_nil, Bool.and_true, Bool.and_eq_true, decide_eq_true_eq, UInt8.le_iff_toNat_le,
    toNat_digitByte (Nat.mod_lt _ (by decide : 0 < 10)), UInt8.reduceToNat]
  omega

theorem length_encode_formatName {stamp : Stamp} (nameable : stamp.Nameable) :
    (encode (formatName stamp)).length = nameGrammar.length := by
  rw [encode_formatName nameable, List.length_append, (stampBytes_slices _ _).1, encode_extension]
  rfl

/-! ### Splitting a path at the name of a time -/

/-- In a path made of a directory with no window of its own that fits the
grammar, a slash, the name of a time in the years 2000 to 2999 that is no
leap second, and anything after it, the grammar finds exactly the name. -/
theorem findName_formatted {before : Bytes} {stamp : Stamp} (notLeap : stamp.instant.nanos < nanosPerSecond)
    (yearLow : 2000 ≤ stamp.date.year) (yearHigh : stamp.date.year ≤ 2999) (clear : findName before = none)
    (after : Bytes) :
    findName (before ++ [slash] ++ encode (formatName stamp) ++ after) =
      some (before.length + 1, before.length + 1 + (encode (formatName stamp)).length) := by
  have nameable : stamp.Nameable := ⟨notLeap, by omega, by omega⟩
  have beforeFails : ∀ skipped, matchesGrammar (before.drop skipped) = false :=
    firstWindow_eq_none (Option.map_eq_none_iff.mp clear)
  -- no window starting in the directory or at the slash matches
  have fails : ∀ skipped < (before ++ [slash]).length,
      matchesGrammar ((before ++ [slash] ++ (encode (formatName stamp) ++ after)).drop skipped) = false := by
    intro skipped short
    rw [List.length_append, List.length_singleton] at short
    rw [List.append_assoc, List.drop_append_of_le_length (by omega)]
    by_cases inside : skipped + nameGrammar.length ≤ before.length
    · -- the window lies within the directory
      rw [matchesGrammar_append_of_le (by rw [List.length_drop]; omega)]
      exact beforeFails skipped
    · -- the window runs across the slash
      apply matchesGrammar_eq_false_of_slash
      rw [List.take_append, List.mem_append]
      right
      rw [List.length_drop, show nameGrammar.length - (before.length - skipped) =
        (nameGrammar.length - (before.length - skipped) - 1) + 1 by omega]
      simp
  unfold findName
  rw [List.append_assoc (before ++ [slash]), firstWindow_append _ fails,
    firstWindow_of_test (matchesGrammar_formatName notLeap yearLow yearHigh after),
    length_encode_formatName nameable]
  simp

/-- Splitting a path whose canonical form is such text gives the directory
and the name as the snapshot, and what follows without slashes at its ends. -/
theorem run_split_formatted {before after : Bytes} {stamp : Stamp}
    (notLeap : stamp.instant.nanos < nanosPerSecond) (yearLow : 2000 ≤ stamp.date.year)
    (yearHigh : stamp.date.year ≤ 2999) (clear : findName before = none) {path : PathName} {world : World}
    (canonical : world.files.canonicalize path = .ok ⟨before ++ [slash] ++ encode (formatName stamp) ++ after⟩)
    (valid : isUtf8 (before ++ [slash] ++ encode (formatName stamp) ++ after) = true) :
    (split path .grammar).run world =
      (.ok (⟨before ++ [slash] ++ encode (formatName stamp)⟩, ⟨trimByte slash after⟩), world) := by
  have nameable : stamp.Nameable := ⟨notLeap, by omega, by omega⟩
  rw [run_split, canonical]
  simp only [valid, Bool.not_true, Bool.false_eq_true, if_false, Marker.find,
    findName_formatted notLeap yearLow yearHigh clear after]
  have front : (before ++ [slash] ++ encode (formatName stamp)).length =
      before.length + 1 + (encode (formatName stamp)).length := by
    simp only [List.length_append, List.length_singleton]
  rw [← front, List.take_left, List.drop_left]

/-- Splitting a path at its snapshot. Take a path whose canonical form is a
directory with no window of its own that fits the name grammar, a slash, the
name of a time in the years 2000 to 2999 that is no leap second, and any
rest. The grammar finds exactly the bytes of the name, and a split gives the
directory and the name as the snapshot, and the rest without slashes at its
ends. Whatever the text, as long as it is well-formed, and whatever the
marker, the grammar or a literal that is text, the split cuts the text where
a match ends, within the text and between two characters. -/
theorem split_at_snapshot_name {before : Bytes} {stamp : Stamp} (notLeap : stamp.instant.nanos < nanosPerSecond)
    (yearLow : 2000 ≤ stamp.date.year) (yearHigh : stamp.date.year ≤ 2999) (clear : findName before = none)
    (after : Bytes) :
    findName (before ++ [slash] ++ encode (formatName stamp) ++ after) =
        some (before.length + 1, before.length + 1 + (encode (formatName stamp)).length) ∧
      (∀ (path : PathName) (world : World),
        world.files.canonicalize path = .ok ⟨before ++ [slash] ++ encode (formatName stamp) ++ after⟩ →
        isUtf8 (before ++ [slash] ++ encode (formatName stamp) ++ after) = true →
        (split path .grammar).run world =
          (.ok (⟨before ++ [slash] ++ encode (formatName stamp)⟩, ⟨trimByte slash after⟩), world)) ∧
      ∀ (marker : Marker) (text : Bytes), marker.IsText → isUtf8 text = true →
        ∀ start stop, marker.find text = some (start, stop) →
          stop ≤ text.length ∧ isUtf8 (text.take stop) = true ∧ isUtf8 (text.drop stop) = true :=
  ⟨findName_formatted notLeap yearLow yearHigh clear after,
    fun _ _ canonical valid => run_split_formatted notLeap yearLow yearHigh clear canonical valid,
    fun _ _ textual valid _ _ found => Marker.find_cuts textual valid found⟩

/-- The snapshot of 1 January 2024, 10:00 UTC. -/
def newYearMorning : Stamp := ⟨⟨1704103200, 0⟩, 0⟩

/-- A backup directory whose name holds no snapshot name. -/
def backupsDir : Bytes := encode "/backups"

/-- The path of `/home/user` inside that snapshot. -/
def homeBelow : Bytes := encode "/home/user"

theorem split_at_snapshot_name_newYear :
    newYearMorning.instant.nanos < nanosPerSecond ∧ 2000 ≤ newYearMorning.date.year ∧
      newYearMorning.date.year ≤ 2999 ∧ findName backupsDir = none ∧
      (findName (backupsDir ++ [slash] ++ encode (formatName newYearMorning) ++ homeBelow) =
          some (backupsDir.length + 1, backupsDir.length + 1 + (encode (formatName newYearMorning)).length) ∧
        (∀ (path : PathName) (world : World),
          world.files.canonicalize path =
              .ok ⟨backupsDir ++ [slash] ++ encode (formatName newYearMorning) ++ homeBelow⟩ →
          isUtf8 (backupsDir ++ [slash] ++ encode (formatName newYearMorning) ++ homeBelow) = true →
          (split path .grammar).run world =
            (.ok (⟨backupsDir ++ [slash] ++ encode (formatName newYearMorning)⟩, ⟨trimByte slash homeBelow⟩),
              world)) ∧
        ∀ (marker : Marker) (text : Bytes), marker.IsText → isUtf8 text = true →
          ∀ start stop, marker.find text = some (start, stop) →
            stop ≤ text.length ∧ isUtf8 (text.take stop) = true ∧ isUtf8 (text.drop stop) = true) := by
  have notLeap : newYearMorning.instant.nanos < nanosPerSecond := by decide
  have year : 2000 ≤ newYearMorning.date.year ∧ newYearMorning.date.year ≤ 2999 := by decide
  have clear : findName backupsDir = none := by
    rw [backupsDir, encode_eq_flatMap]
    decide
  exact ⟨notLeap, year.1, year.2, clear, split_at_snapshot_name notLeap year.1 year.2 clear homeBelow⟩

end BackupRotation.Snapshot
