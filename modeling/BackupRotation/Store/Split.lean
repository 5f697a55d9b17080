import BackupRotation.Store.Target
/-!
# Splitting a path at its snapshot

A path inside a target is cut in two: the snapshot directory it passes
through, and the rest below it. The path is made canonical first, links
resolved and made absolute, so a path through `latest` is cut at the
snapshot the link names. The cut falls after the first place where the
marker matches the canonical text; the rest loses its slashes at both ends.
-/

namespace BackupRotation.Store

open Files Text Snapshot

/-- Bytes without a given byte at either end. -/
def trimByte (byte : UInt8) (bytes : Bytes) : Bytes :=
  ((bytes.dropWhile (· == byte)).reverse.dropWhile (· == byte)).reverse

/-- The snapshot directory a path passes through, and the path below it. -/
def split (path : PathName) (marker : Marker) : Task (PathName × PathName) := do
  let resolved ← Task.ask (·.canonicalize path)
  if !isUtf8 resolved.bytes then throw (.pathConversion resolved.bytes)
  match marker.find resolved.bytes with
  | none => throw (.splitNotFound resolved.bytes)
  | some (_, stop) =>
      pure (⟨resolved.bytes.take stop⟩, ⟨trimByte slash (resolved.bytes.drop stop)⟩)

end BackupRotation.Store
