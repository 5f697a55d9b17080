import BackupRotation.Proofs.Resolve
import BackupRotation.Store.Target
/-!
# Snapshot names are plain names

A snapshot directory is named after the local time of the snapshot: digits,
an underscore, dots and the extension, every character one byte and none a
slash. Such a name is one step down when appended to the target's root, and
the store's own test takes it for a snapshot name.

The byte-level facts come from reading the UTF-8 encoding of a text as the
encodings of its characters in turn.
-/

namespace BackupRotation.Text

open Files

theorem byteArray_toList_loop (bytes : ByteArray) (index : Nat) (acc : List UInt8) :
    ByteArray.toList.loop bytes index acc = acc.reverse ++ bytes.data.toList.drop index := by
  fun_induction ByteArray.toList.loop bytes index acc with
  | case1 index acc inside ih =>
      rw [ih]
      have inRange : index < bytes.data.toList.length := by simpa using inside
      rw [List.drop_eq_getElem_cons inRange]
      simp [ByteArray.get!, inside]
  | case2 index acc outside =>
      have beyond : bytes.data.toList.length ≤ index := by simpa using outside
      simp [List.drop_eq_nil_of_le beyond]

theorem byteArray_toList (bytes : ByteArray) : bytes.toList = bytes.data.toList := by
  simp [ByteArray.toList, byteArray_toList_loop]

/-- The bytes of a text are the UTF-8 encodings of its characters, one after
another. -/
theorem encode_eq_flatMap (text : String) :
    encode text = text.toList.flatMap String.utf8EncodeChar := by
  obtain ⟨chars, rfl⟩ := String.exists_eq_ofList text
  simp [encode, byteArray_toList, List.utf8Encode]

theorem encode_append (first second : String) :
    encode (first ++ second) = encode first ++ encode second := by
  simp [encode_eq_flatMap]

/-- A text with a character has bytes, each character being one byte or more. -/
theorem encode_ne_nil {text : String} (named : text ≠ "") : encode text ≠ [] := by
  rw [encode_eq_flatMap, ne_eq, List.flatMap_eq_nil_iff]
  intro empty
  obtain ⟨chars, rfl⟩ := String.exists_eq_ofList text
  cases chars with
  | nil => exact named rfl
  | cons c rest => exact String.utf8EncodeChar_ne_nil (empty c (by simp))

/-- A character written as one byte that is not a slash. -/
def NameChar (c : Char) : Prop := c.val ≤ 127 ∧ c ≠ '/'

instance (c : Char) : Decidable (NameChar c) := inferInstanceAs (Decidable (_ ∧ _))

/-- A text whose every character is a `NameChar`. -/
def NameText (text : String) : Prop := ∀ c ∈ text.toList, NameChar c

-- decided along the text: the instance search finds for a bounded
-- quantifier over characters may instead try every character there is
instance (text : String) : Decidable (NameText text) := List.decidableBAll NameChar text.toList

theorem NameText.append {first second : String} (left : NameText first) (right : NameText second) :
    NameText (first ++ second) := by
  intro c mem
  rw [String.toList_append, List.mem_append] at mem
  rcases mem with inFirst | inSecond
  · exact left c inFirst
  · exact right c inSecond

theorem nameChar_of_isDigit {c : Char} (digit : c.isDigit = true) : NameChar c := by
  simp only [Char.isDigit, Bool.and_eq_true, decide_eq_true_eq] at digit
  obtain ⟨low, high⟩ := digit
  have low' : 48 ≤ c.val.toNat := low
  have high' : c.val.toNat ≤ 57 := high
  refine ⟨by rw [UInt32.le_iff_toNat_le]; exact Nat.le_trans high' (by decide), ?_⟩
  rintro rfl
  simp at low'

/-- A byte of a text of name characters is never a slash. -/
theorem slash_not_mem_encode {text : String} (named : NameText text) : slash ∉ encode text := by
  rw [encode_eq_flatMap, List.mem_flatMap]
  rintro ⟨c, mem, inChar⟩
  obtain ⟨small, notSlash⟩ := named c mem
  rw [String.utf8EncodeChar_eq_singleton (Char.utf8Size_eq_one_iff.mpr small), List.mem_singleton] at inChar
  apply notSlash
  apply Char.ext
  have bounded : c.val.toNat < 256 := by
    rw [UInt32.le_iff_toNat_le] at small
    exact Nat.lt_of_le_of_lt small (by decide)
  have byte : c.val.toNat % 256 = 47 := by
    exact (congrArg UInt8.toNat inChar).symm
  apply UInt32.toNat_inj.mp
  simp only [Nat.mod_eq_of_lt bounded] at byte
  simpa using byte

theorem nameText_padNat (width value : Nat) : NameText (Calendar.padNat width value) := by
  intro c mem
  simp [Calendar.padNat] at mem
  rcases mem with ⟨_, rfl⟩ | digit
  · decide
  · exact nameChar_of_isDigit (Nat.isDigit_of_mem_toDigits (by decide) (by decide) digit)

theorem nameText_renderYear (year : Int) : NameText (Calendar.renderYear year) := by
  unfold Calendar.renderYear
  split
  · exact nameText_padNat 4 _
  · refine NameText.append ?_ (nameText_padNat 4 _)
    split <;> decide

end BackupRotation.Text

namespace BackupRotation.Snapshot

open Text Files Store

theorem nameText_formatName (stamp : Calendar.Stamp) : NameText (formatName stamp) := by
  unfold formatName Calendar.WallTime.renderCompact
  refine .append (.append (.append ?_ (by decide)) (nameText_padNat 4 _)) (by decide)
  have date : NameText (Calendar.renderYear stamp.wall.date.year ++
      Calendar.padNat 2 stamp.wall.date.month ++ Calendar.padNat 2 stamp.wall.date.day ++ "_") :=
    .append (.append (.append (nameText_renderYear _) (nameText_padNat 2 _)) (nameText_padNat 2 _))
      (by decide)
  exact .append (.append (.append date (nameText_padNat 2 _)) (nameText_padNat 2 _))
    (nameText_padNat 2 _)

/-- Every snapshot name is a snapshot name by the store's own test. -/
theorem isSnapshotName_formatName (stamp : Calendar.Stamp) :
    isSnapshotName (encode (formatName stamp)) = true := by
  unfold formatName isSnapshotName
  rw [encode_append]
  exact List.isSuffixOf_iff_suffix.mpr (List.suffix_append _ _)

theorem encode_extension : encode extension = [0x2E, 0x73, 0x7A, 0x62] := by
  show encode ".szb" = _
  rw [encode_eq_flatMap]
  decide

/-- Every snapshot name is one plain name. -/
theorem plainName_formatName (stamp : Calendar.Stamp) : PlainName (encode (formatName stamp)) := by
  have ends : ∃ front, encode (formatName stamp) = front ++ encode extension := by
    unfold formatName
    exact ⟨_, encode_append _ _⟩
  obtain ⟨front, split⟩ := ends
  have long : 4 ≤ (encode (formatName stamp)).length := by
    rw [split, List.length_append, encode_extension]
    exact Nat.le_add_left _ _
  refine ⟨slash_not_mem_encode (nameText_formatName stamp), ?_, ?_, ?_⟩
  · intro empty
    rw [empty] at long
    simp at long
  · intro single
    rw [single] at long
    simp at long
  · intro double
    rw [double] at long
    simp at long

end BackupRotation.Snapshot
