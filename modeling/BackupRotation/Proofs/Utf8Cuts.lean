import BackupRotation.Text.Utf8
/-!
# Where well-formed UTF-8 may be cut

Text is cut at a byte offset in several places, and such a cut is only safe
where both halves are well-formed UTF-8: slicing text anywhere else stops
the program. The decoder reads one character at a time, a lead byte followed
by the continuation bytes it announces, which together are the character's
encoding, and looks at no byte beyond them (`decodeStep_char`). Three facts about well-formed bytes follow, each by
induction along the characters of the first part: two well-formed texts
joined are well-formed (`isUtf8_append`); what follows a well-formed text in
well-formed bytes is well-formed (`isUtf8_of_append_left`); and well-formed
bytes may be cut before any byte that is not a continuation byte
(`isUtf8_of_cut`). Together they say that well-formed text found inside
well-formed bytes can be cut out at both of its ends (`isUtf8_around`).
-/

namespace BackupRotation.Text

/-- Every step of the decoder consumes a byte or more. -/
theorem length_lt_of_decodeStep {bytes after : Bytes} {piece : Utf8Piece}
    (step : decodeStep bytes = some (piece, after)) : after.length < bytes.length := by
  unfold decodeStep at step
  repeat' split at step
  all_goals cases step
  all_goals (simp only [List.length_cons, List.length_nil]; omega)

/-- ASCII bytes and lead bytes of longer sequences are no continuation bytes. -/
theorem isContinuation_eq_false {byte : UInt8} (outside : byte < 0x80 ∨ 0xC0 ≤ byte) :
    isContinuation byte = false := by
  simp only [isContinuation, Bool.and_eq_false_iff, decide_eq_false_iff_not]
  simp only [UInt8.lt_iff_toNat_lt, UInt8.le_iff_toNat_le, UInt8.reduceToNat] at *
  omega

theorem isContinuation_iff {byte : UInt8} :
    isContinuation byte = true ↔ 0x80 ≤ byte.toNat ∧ byte.toNat ≤ 0xBF := by
  simp [isContinuation, UInt8.le_iff_toNat_le]

/-- A valid code point is the value of the character made from it. -/
theorem toNat_ofNat_of_isValidChar {n : Nat} (valid : n.isValidChar) : (Char.ofNat n).val.toNat = n := by
  rw [Char.ofNat, dif_pos valid]
  rfl

private theorem ofNat_eq_of_toNat {byte : UInt8} {n : Nat} (same : n = byte.toNat) : UInt8.ofNat n = byte := by
  rw [same, UInt8.ofNat_toNat]

/-! ### The four lengths of sequence

The character the decoder makes from a sequence is encoded back as that
sequence: the arithmetic of the lead byte's payload and the six low bits of
each continuation byte, with the ranges the decoder admits keeping the code
point out of the surrogates and below U+110000. -/

theorem utf8EncodeChar_one {lead : UInt8} (ascii : lead < 0x80) :
    String.utf8EncodeChar (Char.ofNat lead.toNat) = [lead] := by
  simp only [UInt8.lt_iff_toNat_lt, UInt8.reduceToNat] at ascii
  have value := toNat_ofNat_of_isValidChar (show lead.toNat.isValidChar from Or.inl (by omega))
  unfold String.utf8EncodeChar
  rw [value, if_pos (by omega), UInt8.ofNat_toNat]

theorem utf8EncodeChar_two {lead b1 : UInt8} (two : (0xC2 ≤ lead && lead ≤ 0xDF) = true)
    (cont1 : isContinuation b1 = true) :
    String.utf8EncodeChar (Char.ofNat (lead.toNat % 32 * 64 + b1.toNat % 64)) = [lead, b1] := by
  simp only [Bool.and_eq_true, decide_eq_true_eq, UInt8.le_iff_toNat_le, UInt8.reduceToNat] at two
  rw [isContinuation_iff] at cont1
  have value := toNat_ofNat_of_isValidChar
    (show (lead.toNat % 32 * 64 + b1.toNat % 64).isValidChar from Or.inl (by omega))
  unfold String.utf8EncodeChar
  rw [value, if_neg (by omega), if_pos (by omega)]
  simp only [List.cons.injEq, and_true]
  exact ⟨ofNat_eq_of_toNat (by omega), ofNat_eq_of_toNat (by omega)⟩

/-- A three-byte sequence: a lead of `E0` admits no overlong second byte and
a lead of `ED` no surrogate. -/
theorem utf8EncodeChar_three {lead b1 b2 : UInt8} (three : (0xE0 ≤ lead && lead ≤ 0xEF) = true)
    (cont1 : isContinuation b1 = true)
    (bounds : (lead.toNat = 0xE0 → 0xA0 ≤ b1.toNat) ∧ (lead.toNat = 0xED → b1.toNat ≤ 0x9F))
    (cont2 : isContinuation b2 = true) :
    String.utf8EncodeChar (Char.ofNat (lead.toNat % 16 * 4096 + b1.toNat % 64 * 64 + b2.toNat % 64)) =
      [lead, b1, b2] := by
  simp only [Bool.and_eq_true, decide_eq_true_eq, UInt8.le_iff_toNat_le, UInt8.reduceToNat] at three
  rw [isContinuation_iff] at cont1 cont2
  obtain ⟨notOverlong, notSurrogate⟩ := bounds
  have valid : (lead.toNat % 16 * 4096 + b1.toNat % 64 * 64 + b2.toNat % 64).isValidChar := by
    by_cases belowSurrogates : lead.toNat ≤ 0xED
    · exact Or.inl (by omega)
    · exact Or.inr ⟨by omega, by omega⟩
  unfold String.utf8EncodeChar
  rw [toNat_ofNat_of_isValidChar valid, if_neg (by omega), if_neg (by omega), if_pos (by omega)]
  simp only [List.cons.injEq, and_true]
  exact ⟨ofNat_eq_of_toNat (by omega), ofNat_eq_of_toNat (by omega), ofNat_eq_of_toNat (by omega)⟩

/-- A four-byte sequence: a lead of `F0` admits no overlong second byte and
a lead of `F4` nothing past U+10FFFF. -/
theorem utf8EncodeChar_four {lead b1 b2 b3 : UInt8} (four : (0xF0 ≤ lead && lead ≤ 0xF4) = true)
    (cont1 : isContinuation b1 = true)
    (bounds : (lead.toNat = 0xF0 → 0x90 ≤ b1.toNat) ∧ (lead.toNat = 0xF4 → b1.toNat ≤ 0x8F))
    (cont2 : isContinuation b2 = true) (cont3 : isContinuation b3 = true) :
    String.utf8EncodeChar
        (Char.ofNat (lead.toNat % 8 * 262144 + b1.toNat % 64 * 4096 + b2.toNat % 64 * 64 + b3.toNat % 64)) =
      [lead, b1, b2, b3] := by
  simp only [Bool.and_eq_true, decide_eq_true_eq, UInt8.le_iff_toNat_le, UInt8.reduceToNat] at four
  rw [isContinuation_iff] at cont1 cont2 cont3
  obtain ⟨notOverlong, inRange⟩ := bounds
  have valid : (lead.toNat % 8 * 262144 + b1.toNat % 64 * 4096 + b2.toNat % 64 * 64 + b3.toNat % 64).isValidChar :=
    Or.inr ⟨by omega, by omega⟩
  unfold String.utf8EncodeChar
  rw [toNat_ofNat_of_isValidChar valid, if_neg (by omega), if_neg (by omega), if_neg (by omega)]
  simp only [List.cons.injEq, and_true]
  exact ⟨ofNat_eq_of_toNat (by omega), ofNat_eq_of_toNat (by omega), ofNat_eq_of_toNat (by omega),
    ofNat_eq_of_toNat (by omega)⟩

/-! ### One step of the decoder -/

/-- A character read from the front of the bytes is its lead byte, which is
no continuation byte, and up to three continuation bytes after it, which
together are the character's encoding; and the decoder reads the same
character from these bytes whatever follows them. -/
theorem decodeStep_char {lead : UInt8} {rest after : Bytes} {c : Char}
    (step : decodeStep (lead :: rest) = some (.char c, after)) :
    isContinuation lead = false ∧ ∃ conts, rest = conts ++ after ∧ (∀ b ∈ conts, isContinuation b = true) ∧
      String.utf8EncodeChar c = lead :: conts ∧
      ∀ other, decodeStep (lead :: (conts ++ other)) = some (.char c, other) := by
  unfold decodeStep at step
  simp only at step
  -- one case for each length of sequence the lead byte announces
  split at step
  · rename_i ascii
    cases step
    exact ⟨isContinuation_eq_false (.inl ascii), [], rfl, by simp, utf8EncodeChar_one ascii,
      fun other => by simp [decodeStep, ascii]⟩
  split at step
  · rename_i notAscii two
    have leadOk : isContinuation lead = false := by
      simp only [Bool.and_eq_true, decide_eq_true_eq] at two
      exact isContinuation_eq_false (.inr (UInt8.le_trans (by decide) two.1))
    split at step
    · rename_i b1 rest1
      split at step
      · rename_i cont1
        cases step
        exact ⟨leadOk, [b1], rfl, by simp [cont1], utf8EncodeChar_two two cont1,
          fun other => by simp [decodeStep, notAscii, two, cont1]⟩
      · cases step
    · cases step
  split at step
  · rename_i notAscii notTwo three
    have leadOk : isContinuation lead = false := by
      simp only [Bool.and_eq_true, decide_eq_true_eq] at three
      exact isContinuation_eq_false (.inr (UInt8.le_trans (by decide) three.1))
    split at step
    · rename_i b1 rest1
      split at step
      · rename_i second
        have cont1 := isContinuation_of_secondOfThree second
        split at step
        · rename_i b2 rest2
          split at step
          · rename_i cont2
            cases step
            exact ⟨leadOk, [b1, b2], rfl, by simp [cont1, cont2],
              utf8EncodeChar_three three cont1 (secondOfThree_bounds second) cont2,
              fun other => by simp [decodeStep, notAscii, notTwo, three, second, cont2]⟩
          · cases step
        · cases step
      · cases step
    · cases step
  split at step
  · rename_i notAscii notTwo notThree four
    have leadOk : isContinuation lead = false := by
      simp only [Bool.and_eq_true, decide_eq_true_eq] at four
      exact isContinuation_eq_false (.inr (UInt8.le_trans (by decide) four.1))
    split at step
    · rename_i b1 rest1
      split at step
      · rename_i second
        have cont1 := isContinuation_of_secondOfFour second
        split at step
        · rename_i b2 rest2
          split at step
          · rename_i cont2
            split at step
            · rename_i b3 rest3
              split at step
              · rename_i cont3
                cases step
                exact ⟨leadOk, [b1, b2, b3], rfl, by simp [cont1, cont2, cont3],
                  utf8EncodeChar_four four cont1 (secondOfFour_bounds second) cont2 cont3,
                  fun other => by simp [decodeStep, notAscii, notTwo, notThree, four, second, cont2, cont3]⟩
              · cases step
            · cases step
          · cases step
        · cases step
      · cases step
    · cases step
  · cases step

/-- The decoder reads a piece from any bytes that are not empty. -/
theorem decodeStep_cons_isSome (lead : UInt8) (rest : Bytes) : (decodeStep (lead :: rest)).isSome := by
  simp only [decodeStep]
  repeat' split
  all_goals rfl

/-- Any two budgets of at least the byte count decode alike. -/
theorem decodeWithin_eq {first second : Nat} {bytes : Bytes} (firstEnough : bytes.length ≤ first)
    (secondEnough : bytes.length ≤ second) : decodeWithin first bytes = decodeWithin second bytes := by
  induction first generalizing second bytes with
  | zero =>
      rw [List.length_eq_zero_iff.mp (Nat.le_zero.mp firstEnough)]
      cases second <;> rfl
  | succ first ih =>
      cases bytes with
      | nil => cases second <;> rfl
      | cons lead rest =>
          cases second with
          | zero => simp at secondEnough
          | succ second =>
              obtain ⟨⟨piece, after⟩, step⟩ := Option.isSome_iff_exists.mp (decodeStep_cons_isSome lead rest)
              have shorter := length_lt_of_decodeStep step
              simp only [List.length_cons] at firstEnough secondEnough shorter
              have tailSame : decodeWithin first after = decodeWithin second after := ih (by omega) (by omega)
              simp only [decodeWithin, step, tailSame]

/-- Any budget of at least the byte count decodes everything. -/
theorem decodeWithin_of_length_le {budget : Nat} {bytes : Bytes} (short : bytes.length ≤ budget) :
    decodeWithin budget bytes = decodeUtf8 bytes :=
  decodeWithin_eq short (Nat.le_refl _)

/-- Well-formed bytes are one character followed by well-formed bytes. -/
theorem isUtf8_cons_iff {lead : UInt8} {rest : Bytes} :
    isUtf8 (lead :: rest) = true ↔ ∃ c after, decodeStep (lead :: rest) = some (.char c, after) ∧ isUtf8 after = true := by
  obtain ⟨⟨piece, after⟩, step⟩ := Option.isSome_iff_exists.mp (decodeStep_cons_isSome lead rest)
  have shorter := length_lt_of_decodeStep step
  have tail : decodeWithin rest.length after = decodeUtf8 after := decodeWithin_of_length_le (by simp at shorter; omega)
  unfold isUtf8 decodeUtf8
  simp only [List.length_cons, decodeWithin, step, tail, List.all_cons, Bool.and_eq_true]
  constructor
  · rintro ⟨isChar, valid⟩
    cases piece with
    | char c => exact ⟨c, after, rfl, valid⟩
    | invalid _ => cases isChar
  · rintro ⟨c, after', same, valid⟩
    cases same
    exact ⟨rfl, valid⟩


/-- Two well-formed texts joined are well-formed. -/
theorem isUtf8_append : ∀ {first second : Bytes}, isUtf8 first = true → isUtf8 second = true →
    isUtf8 (first ++ second) = true
  | [], _, _, valid => valid
  | lead :: rest, second, firstValid, secondValid => by
      obtain ⟨c, after, step, afterValid⟩ := isUtf8_cons_iff |>.mp firstValid
      have shorter := length_lt_of_decodeStep step
      obtain ⟨-, conts, rfl, -, -, alone⟩ := decodeStep_char step
      have joined := isUtf8_append afterValid secondValid
      rw [List.cons_append, List.append_assoc]
      exact isUtf8_cons_iff |>.mpr ⟨c, after ++ second, alone _, joined⟩
termination_by first => first.length

/-- What follows well-formed text in well-formed bytes is well-formed. -/
theorem isUtf8_of_append_left : ∀ {first second : Bytes}, isUtf8 first = true →
    isUtf8 (first ++ second) = true → isUtf8 second = true
  | [], _, _, valid => valid
  | lead :: rest, second, firstValid, joinedValid => by
      obtain ⟨c, after, step, afterValid⟩ := isUtf8_cons_iff |>.mp firstValid
      have shorter := length_lt_of_decodeStep step
      obtain ⟨-, conts, rfl, -, -, alone⟩ := decodeStep_char step
      rw [List.cons_append, List.append_assoc] at joinedValid
      obtain ⟨c', after', joinedStep, joinedAfter⟩ := isUtf8_cons_iff |>.mp joinedValid
      rw [alone] at joinedStep
      cases joinedStep
      exact isUtf8_of_append_left afterValid joinedAfter
termination_by first => first.length

/-- Well-formed bytes may be cut before any byte that is not a continuation
byte: both parts are well-formed. -/
theorem isUtf8_of_cut : ∀ {first second : Bytes}, isUtf8 (first ++ second) = true →
    (∀ byte, second.head? = some byte → isContinuation byte = false) →
    isUtf8 first = true ∧ isUtf8 second = true
  | [], _, valid, _ => ⟨rfl, valid⟩
  | lead :: rest, second, valid, leads => by
      obtain ⟨c, after, step, afterValid⟩ := isUtf8_cons_iff |>.mp valid
      have shorter := length_lt_of_decodeStep step
      obtain ⟨-, conts, shape, inside, -, alone⟩ := decodeStep_char step
      -- the character read either ends inside `first` or would run into `second`
      rcases List.append_eq_append_iff.mp shape with ⟨extra, rfl, rfl⟩ | ⟨tail, rfl, rfl⟩
      · cases extra with
        | nil =>
            have whole := alone []
            simp only [List.append_nil] at whole
            exact ⟨isUtf8_cons_iff |>.mpr ⟨c, [], whole, rfl⟩, by simpa using afterValid⟩
        | cons byte more =>
            have continues := inside byte (by simp)
            rw [leads byte (by simp)] at continues
            cases continues
      · have parts := @isUtf8_of_cut tail second afterValid leads
        exact ⟨isUtf8_cons_iff |>.mpr ⟨c, tail, alone tail, parts.1⟩, parts.2⟩
termination_by first => first.length

/-- Well-formed text found inside well-formed bytes can be cut out at both
ends: at its start, where its lead byte stands, and at its end, where the
decoder has just finished its last character. -/
theorem isUtf8_around {before middle after : Bytes} (valid : isUtf8 (before ++ middle ++ after) = true)
    (middleValid : isUtf8 middle = true) (nonempty : middle ≠ []) :
    isUtf8 (before ++ middle) = true ∧ isUtf8 after = true := by
  obtain ⟨lead, rest, rfl⟩ := List.exists_cons_of_ne_nil nonempty
  obtain ⟨c, _, step, _⟩ := isUtf8_cons_iff |>.mp middleValid
  have leads : isContinuation lead = false := (decodeStep_char step).1
  rw [List.append_assoc] at valid
  obtain ⟨beforeValid, restValid⟩ := isUtf8_of_cut valid (by simpa using leads)
  exact ⟨isUtf8_append beforeValid middleValid, isUtf8_of_append_left middleValid restValid⟩

/-- ASCII bytes are well-formed, one character each. -/
theorem isUtf8_of_ascii : ∀ {bytes : Bytes}, (∀ byte ∈ bytes, byte < 0x80) → isUtf8 bytes = true
  | [], _ => rfl
  | lead :: rest, ascii => by
      have leadAscii : lead < 0x80 := ascii lead (by simp)
      have restValid := @isUtf8_of_ascii rest fun byte inside => ascii byte (by simp [inside])
      exact isUtf8_cons_iff |>.mpr ⟨Char.ofNat lead.toNat, rest, by simp [decodeStep, leadAscii], restValid⟩

end BackupRotation.Text
