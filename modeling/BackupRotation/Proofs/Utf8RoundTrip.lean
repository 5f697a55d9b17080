import BackupRotation.Proofs.Utf8Cuts
import BackupRotation.Proofs.SnapshotNames
/-!
# Decoding loses no byte

The decoder splits bytes into characters and ill-formed pieces. Written
back, a character as its UTF-8 encoding and an ill-formed piece as the bytes
it holds, the pieces are exactly the bytes read (`decodeUtf8_raw`). The step
lemma behind it, `decodeStep_raw`, says that the decoder reads a character
only from that character's encoding (`decodeStep_char`) and gives up on a
piece only after the bytes it holds.

So bytes that are well-formed UTF-8 are the encoding of their text
(`encode_lossy`), and a path name whose bytes are UTF-8 is the name of its
display text (`PathName.ofString_display`): printing such a name and reading
the text back gives the same name.
-/

namespace BackupRotation.Text

/-- The bytes a piece was read from. -/
def Utf8Piece.raw : Utf8Piece → Bytes
  | .char c => String.utf8EncodeChar c
  | .invalid bytes => bytes

/-- The step lemma: every piece the decoder reads is the bytes it consumed. -/
theorem decodeStep_raw {bytes after : Bytes} {piece : Utf8Piece} (step : decodeStep bytes = some (piece, after)) :
    bytes = piece.raw ++ after := by
  cases piece with
  | char c =>
    -- a character is read from its own encoding
    cases bytes with
    | nil => cases step
    | cons lead rest =>
      obtain ⟨-, conts, rfl, -, encoded, -⟩ := decodeStep_char step
      rw [Utf8Piece.raw, encoded, List.cons_append]
  | invalid held =>
    -- an ill-formed piece is the bytes the decoder gave up on
    unfold decodeStep at step
    repeat' split at step
    all_goals (cases step <;> rfl)

/-- The run lemma: within any budget that suffices, the pieces read,
written back, are the bytes. -/
theorem decodeWithin_raw : ∀ {budget : Nat} {bytes : Bytes}, bytes.length ≤ budget →
    (decodeWithin budget bytes).flatMap Utf8Piece.raw = bytes
  | 0, bytes, short => by
      rw [List.length_eq_zero_iff.mp (Nat.le_zero.mp short)]
      rfl
  | _ + 1, [], _ => rfl
  | budget + 1, lead :: rest, short => by
      obtain ⟨⟨piece, after⟩, step⟩ := Option.isSome_iff_exists.mp (decodeStep_cons_isSome lead rest)
      have shorter := length_lt_of_decodeStep step
      simp only [List.length_cons] at short shorter
      simp only [decodeWithin, step, List.flatMap_cons]
      rw [decodeWithin_raw (by omega), ← decodeStep_raw step]

/-- Decoding loses no byte. -/
theorem decodeUtf8_raw (bytes : Bytes) : (decodeUtf8 bytes).flatMap Utf8Piece.raw = bytes :=
  decodeWithin_raw (Nat.le_refl _)

/-- Well-formed bytes are the encoding of their text. -/
theorem encode_lossy {bytes : Bytes} (valid : isUtf8 bytes = true) : encode (lossy bytes) = bytes := by
  have chars := List.all_eq_true.mp valid
  unfold lossy
  rw [encode_eq_flatMap, String.toList_ofList, List.flatMap_map]
  conv => rhs; rw [← decodeUtf8_raw bytes]
  -- every piece is a character, which is written back as its encoding
  unfold List.flatMap
  congr 1
  apply List.map_congr_left
  intro piece read
  cases piece with
  | char c => rfl
  | invalid _ => cases chars _ read

/-- An ASCII byte at the front is read as its own character. -/
theorem lossy_cons_of_lt {lead : UInt8} (ascii : lead < 0x80) (rest : Bytes) :
    (lossy (lead :: rest)).toList = Char.ofNat lead.toNat :: (lossy rest).toList := by
  have step : decodeStep (lead :: rest) = some (.char (Char.ofNat lead.toNat), rest) := by
    simp [decodeStep, ascii]
  simp only [lossy, String.toList_ofList, decodeUtf8, List.length_cons, decodeWithin, step, List.map_cons]

end BackupRotation.Text

namespace BackupRotation.Files

open Text

/-- A name whose bytes are UTF-8 is the name of its display text. -/
theorem PathName.ofString_display {path : PathName} (valid : isUtf8 path.bytes = true) :
    PathName.ofString path.display = path := by
  rw [PathName.ofString, PathName.display, encode_lossy valid]

end BackupRotation.Files
