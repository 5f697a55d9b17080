/-!
# Bytes and UTF-8

File names, file contents and program output are byte strings; the program
turns them into text in two ways. The lossy reading replaces every maximal
ill-formed piece by U+FFFD, and the quoted reading spells ill-formed bytes
out as `\xNN`. Both rest on one decoder, `decodeUtf8`, which splits bytes into
well-formed characters and ill-formed pieces exactly as the UTF-8 standard's
"maximal subpart" rule says: a piece ends just before the first byte that
cannot continue the sequence begun.
-/

namespace BackupRotation.Text

/-- A byte string. -/
abbrev Bytes := List UInt8

/-- One piece of decoded bytes. -/
inductive Utf8Piece where
  | char (c : Char)
  | invalid (bytes : Bytes)
deriving DecidableEq, Repr

/-- Whether a byte is a continuation byte `10xxxxxx`. -/
def isContinuation (byte : UInt8) : Bool := 0x80 ≤ byte && byte ≤ 0xBF

/-- Low six bits of a continuation byte. -/
private def low6 (byte : UInt8) : Nat := byte.toNat % 64

/-- Admissible range of the second byte of a three-byte sequence. -/
private def secondOfThree (lead : UInt8) (byte : UInt8) : Bool :=
  if lead == 0xE0 then 0xA0 ≤ byte && byte ≤ 0xBF
  else if lead == 0xED then 0x80 ≤ byte && byte ≤ 0x9F
  else isContinuation byte

/-- Admissible range of the second byte of a four-byte sequence. -/
private def secondOfFour (lead : UInt8) (byte : UInt8) : Bool :=
  if lead == 0xF0 then 0x90 ≤ byte && byte ≤ 0xBF
  else if lead == 0xF4 then 0x80 ≤ byte && byte ≤ 0x8F
  else isContinuation byte

/-- The ranges admitted for the second byte of a longer sequence are all
continuation bytes. -/
theorem isContinuation_of_secondOfThree {lead byte : UInt8} (admitted : secondOfThree lead byte = true) :
    isContinuation byte = true := by
  unfold secondOfThree isContinuation at *
  split at admitted
  · simp only [Bool.and_eq_true, decide_eq_true_eq] at admitted ⊢
    exact ⟨UInt8.le_trans (by decide) admitted.1, admitted.2⟩
  · split at admitted
    · simp only [Bool.and_eq_true, decide_eq_true_eq] at admitted ⊢
      exact ⟨admitted.1, UInt8.le_trans admitted.2 (by decide)⟩
    · exact admitted

theorem isContinuation_of_secondOfFour {lead byte : UInt8} (admitted : secondOfFour lead byte = true) :
    isContinuation byte = true := by
  unfold secondOfFour isContinuation at *
  split at admitted
  · simp only [Bool.and_eq_true, decide_eq_true_eq] at admitted ⊢
    exact ⟨UInt8.le_trans (by decide) admitted.1, admitted.2⟩
  · split at admitted
    · simp only [Bool.and_eq_true, decide_eq_true_eq] at admitted ⊢
      exact ⟨admitted.1, UInt8.le_trans admitted.2 (by decide)⟩
    · exact admitted

/-- After a lead of `E0` the admitted second bytes leave out the overlong
forms, and after `ED` the surrogates. -/
theorem secondOfThree_bounds {lead byte : UInt8} (admitted : secondOfThree lead byte = true) :
    (lead.toNat = 0xE0 → 0xA0 ≤ byte.toNat) ∧ (lead.toNat = 0xED → byte.toNat ≤ 0x9F) := by
  unfold secondOfThree at admitted
  constructor
  · intro overlong
    rw [if_pos (by simp [← UInt8.toNat_inj, overlong])] at admitted
    simp only [Bool.and_eq_true, decide_eq_true_eq, UInt8.le_iff_toNat_le, UInt8.reduceToNat] at admitted
    exact admitted.1
  · intro surrogates
    rw [if_neg (by simp [← UInt8.toNat_inj, surrogates]), if_pos (by simp [← UInt8.toNat_inj, surrogates])]
      at admitted
    simp only [Bool.and_eq_true, decide_eq_true_eq, UInt8.le_iff_toNat_le, UInt8.reduceToNat] at admitted
    exact admitted.2

/-- After a lead of `F0` the admitted second bytes leave out the overlong
forms, and after `F4` everything past U+10FFFF. -/
theorem secondOfFour_bounds {lead byte : UInt8} (admitted : secondOfFour lead byte = true) :
    (lead.toNat = 0xF0 → 0x90 ≤ byte.toNat) ∧ (lead.toNat = 0xF4 → byte.toNat ≤ 0x8F) := by
  unfold secondOfFour at admitted
  constructor
  · intro overlong
    rw [if_pos (by simp [← UInt8.toNat_inj, overlong])] at admitted
    simp only [Bool.and_eq_true, decide_eq_true_eq, UInt8.le_iff_toNat_le, UInt8.reduceToNat] at admitted
    exact admitted.1
  · intro last
    rw [if_neg (by simp [← UInt8.toNat_inj, last]), if_pos (by simp [← UInt8.toNat_inj, last])] at admitted
    simp only [Bool.and_eq_true, decide_eq_true_eq, UInt8.le_iff_toNat_le, UInt8.reduceToNat] at admitted
    exact admitted.2

/-- Decode the piece at the front of non-empty bytes and return what follows
it; every step consumes at least one byte. -/
def decodeStep : Bytes → Option (Utf8Piece × Bytes)
  | [] => none
  | lead :: rest =>
      if lead < 0x80 then
        some (.char (Char.ofNat lead.toNat), rest)
      else if 0xC2 ≤ lead && lead ≤ 0xDF then
        match rest with
        | b1 :: rest1 =>
            if isContinuation b1 then
              some (.char (Char.ofNat ((lead.toNat % 32) * 64 + low6 b1)), rest1)
            else some (.invalid [lead], rest)
        | [] => some (.invalid [lead], [])
      else if 0xE0 ≤ lead && lead ≤ 0xEF then
        match rest with
        | b1 :: rest1 =>
            if secondOfThree lead b1 then
              match rest1 with
              | b2 :: rest2 =>
                  if isContinuation b2 then
                    some (.char (Char.ofNat ((lead.toNat % 16) * 4096 + low6 b1 * 64 + low6 b2)),
                      rest2)
                  else some (.invalid [lead, b1], rest1)
              | [] => some (.invalid [lead, b1], [])
            else some (.invalid [lead], rest)
        | [] => some (.invalid [lead], [])
      else if 0xF0 ≤ lead && lead ≤ 0xF4 then
        match rest with
        | b1 :: rest1 =>
            if secondOfFour lead b1 then
              match rest1 with
              | b2 :: rest2 =>
                  if isContinuation b2 then
                    match rest2 with
                    | b3 :: rest3 =>
                        if isContinuation b3 then
                          some (.char (Char.ofNat ((lead.toNat % 8) * 262144 + low6 b1 * 4096 +
                            low6 b2 * 64 + low6 b3)), rest3)
                        else some (.invalid [lead, b1, b2], rest2)
                    | [] => some (.invalid [lead, b1, b2], [])
                  else some (.invalid [lead, b1], rest1)
              | [] => some (.invalid [lead, b1], [])
            else some (.invalid [lead], rest)
        | [] => some (.invalid [lead], [])
      else
        some (.invalid [lead], rest)

/-- Decode with a budget of steps; a budget of the byte count always
suffices, since each step consumes a byte or more. -/
def decodeWithin : Nat → Bytes → List Utf8Piece
  | 0, _ => []
  | budget + 1, bytes =>
      match decodeStep bytes with
      | none => []
      | some (piece, rest) => piece :: decodeWithin budget rest

/-- Split bytes into characters and ill-formed pieces. -/
def decodeUtf8 (bytes : Bytes) : List Utf8Piece := decodeWithin bytes.length bytes

/-- Whether bytes are well-formed UTF-8. -/
def isUtf8 (bytes : Bytes) : Bool :=
  (decodeUtf8 bytes).all fun
    | .char _ => true
    | .invalid _ => false

/-- Text of bytes, each ill-formed piece replaced by U+FFFD. -/
def lossy (bytes : Bytes) : String :=
  String.ofList ((decodeUtf8 bytes).map fun
    | .char c => c
    | .invalid _ => '�')

/-- Text of bytes that are well-formed UTF-8. -/
def utf8? (bytes : Bytes) : Option String :=
  if isUtf8 bytes then some (lossy bytes) else none

/-- UTF-8 bytes of text. -/
def encode (text : String) : Bytes := text.toUTF8.toList

end BackupRotation.Text
