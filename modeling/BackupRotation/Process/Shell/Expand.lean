import BackupRotation.Process.Shell.State
import BackupRotation.Process.Shell.Pattern
/-!
# From expanded text to fields

Expanding a word gives a sequence of pieces: runs of bytes, each marked
as quoted (it stands for itself) or not, and as split (the result of an
unquoted expansion, cut into fields at the separators) or not; and breaks
between fields, which `"$@"` puts between the positional parameters.

Field splitting follows the shell's rules. A separator that is white
space (a blank, tab or line feed in `IFS`) ends the field before it when
there is one, and runs of such separators count once; other separators
end a field even when it is empty, and white space next to one belongs to
it. Separators at the start of the text give no field, except that a
separator that is not white space gives an empty one. A field begins with
any byte that is not a separator, or with quoted text even when empty.

Then each field that holds an unquoted `*`, `?` or `[` is a pattern for
file names, matched one slash-separated component at a time; the names it
matches, sorted, replace it, and when it matches none it stays as it is.
A name starting with a dot is matched only by a pattern starting with one.
-/

namespace BackupRotation.Process

open Files Text

/-- A piece of expanded text. -/
inductive Piece where
  /-- Bytes; quoted ones stand for themselves, split ones are cut into
  fields. -/
  | text (bytes : Bytes) (quoted : Bool) (split : Bool)
  /-- A break between fields. -/
  | cut
deriving DecidableEq, Repr

/-- The pieces of bytes: quoted and whole inside double quotes, open to
splitting and patterns outside them. -/
def Piece.ofValue (bytes : Bytes) (inQuotes : Bool) : Piece := .text bytes inQuotes !inQuotes

/-- The text of pieces as one string: breaks between fields become blanks. -/
def piecesText (pieces : List Piece) : Bytes :=
  (pieces.map fun piece => match piece with
    | .text bytes _ _ => bytes
    | .cut => [0x20]).flatten

/-- The pattern pieces make: quoted bytes stand for themselves. -/
def piecesPattern (pieces : List Piece) : Pattern :=
  (pieces.map fun piece => match piece with
    | .text bytes quoted _ => bytes.map fun byte => (byte, quoted)
    | .cut => [(0x20, true)]).flatten

/-- What the last separator did, for the white space rule. -/
inductive SeparatorState where
  | none
  /-- White space just ended a field. -/
  | space
  /-- Another separator just ended a field. -/
  | other
deriving DecidableEq, Repr

/-- Fields being cut: those finished (newest first), the one being
built, whether it has begun, and what the last separator did. -/
structure Splitter where
  done : List Pattern := []
  current : Pattern := []
  begun : Bool := false
  last : SeparatorState := .none

namespace Splitter

/-- Finish the field being built. -/
def finish (s : Splitter) : Splitter := { done := s.current :: s.done }

/-- Add bytes that are not split. -/
def addWhole (s : Splitter) (bytes : Bytes) (quoted : Bool) : Splitter :=
  if bytes.isEmpty && !quoted then s
  else { s with current := s.current ++ bytes.map (·, quoted), begun := true, last := .none }

/-- Add one byte of text being split. -/
def addSplit (ifs : Bytes) (s : Splitter) (byte : UInt8) : Splitter :=
  let white := byte == 0x20 || byte == 0x09 || byte == 0x0A
  if ifs.contains byte then
    if white then
      if s.begun then { s.finish with last := .space } else s
    else if s.last == .space then { s with last := .other }
    else { s.finish with last := .other }
  else { s with current := s.current ++ [(byte, false)], begun := true, last := .none }

/-- Add a piece. -/
def add (ifs : Bytes) (s : Splitter) (piece : Piece) : Splitter :=
  match piece with
  | .text bytes quoted false => s.addWhole bytes quoted
  | .text bytes _ true => bytes.foldl (addSplit ifs) s
  | .cut => if s.begun then s.finish else s

end Splitter

/-- Cut pieces into fields at the separators `ifs`. -/
def splitPieces (ifs : Bytes) (pieces : List Piece) : List Pattern :=
  let s := pieces.foldl (Splitter.add ifs) {}
  (if s.begun then s.finish else s).done.reverse

/-- The fields of pieces that are not split: breaks still cut fields. -/
def joinPieces (pieces : List Piece) : List Pattern := splitPieces [] pieces

/-- Cut a pattern at its unquoted slashes, empty components left out. -/
def patternComponents (pattern : Pattern) : List Pattern :=
  (pattern.foldr (fun (element : UInt8 × Bool) (acc : List Pattern) =>
    if element == ((0x2F : UInt8), false) then [] :: acc
    else match acc with
      | first :: rest => (element :: first) :: rest
      | [] => [[element]]) ([[]] : List Pattern)).filter (!·.isEmpty)

/-- The names in a directory a pattern component matches, sorted. -/
def matchingNames (fs : FileSystem) (dir : Bytes) (component : Pattern) : List Bytes :=
  let place := if dir.isEmpty then encode "." else dir
  match fs.resolve ⟨place⟩ true with
  | .ok (.found key (.directory _)) =>
      let dotted := match component with
        | (0x2E, _) :: _ => true
        | _ => false
      let names := (fs.children key).map (·.1)
      let names := if dotted then [encode ".", encode ".."] ++ names else names
      let found := names.filter fun name =>
        (dotted || name.head? != some 0x2E) && component.matches name
      found.mergeSort bytesLe
  | _ => []

/-- Whether a path names something, links not followed. -/
def pathExists (fs : FileSystem) (path : Bytes) : Bool :=
  match fs.resolve ⟨path⟩ false with
  | .ok (.found _ _) => true
  | _ => false

/-- The paths below `prefix` that the components match. -/
def globFrom (fs : FileSystem) : List Pattern → Bytes → List Bytes
  | [], path => if pathExists fs path then [path] else []
  | [component], path =>
      if component.hasWildcard then (matchingNames fs path component).map (path ++ ·)
      else
        let full := path ++ component.literal
        if pathExists fs full then [full] else []
  | component :: rest, path =>
      if component.hasWildcard then
        (matchingNames fs path component).flatMap fun name => globFrom fs rest (path ++ name ++ [0x2F])
      else globFrom fs rest (path ++ component.literal ++ [0x2F])

/-- The file names a field matches, or the field's text when it is no
pattern or matches nothing. -/
def expandPathnames (fs : FileSystem) (field : Pattern) : List Bytes :=
  let text := field.map Prod.fst
  if !field.hasWildcard then [text]
  else
    let absolute := field.head? == some (0x2F, false)
    let components := patternComponents field
    let trailing := field.getLast? == some (0x2F, false)
    let found := globFrom fs components (if absolute then [0x2F] else [])
    let found := if trailing then
        found.filterMap fun path =>
          match fs.resolve ⟨path⟩ true with
          | .ok (.found _ (.directory _)) => some (path ++ [0x2F])
          | _ => none
      else found
    if found.isEmpty then [text] else found

/-- Text quoted for the shell to read back: in single quotes, with each run
of single quotes put in double quotes instead. -/
def singleQuote (text : Bytes) : Bytes :=
  let runs := text.splitBy fun a b => (a == 0x27) == (b == 0x27)
  let parts := runs.map fun run =>
    if run.head? == some 0x27 then [0x22] ++ run ++ [0x22] else [0x27] ++ run ++ [0x27]
  if text.isEmpty then [0x27, 0x27] else parts.flatten

end BackupRotation.Process
