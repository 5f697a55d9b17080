import BackupRotation.Calendar.Render
import BackupRotation.Calendar.Zone
import BackupRotation.Text.Utf8
/-!
# Snapshot names

A snapshot directory is named after the local time it was taken:
`YYYYmmdd_HHMMSS.ffff.szb`, where `ffff` counts tenths of milliseconds. The
name sorts like the time it encodes, and reading it back gives that time
truncated to a tenth of a millisecond.

Reading is strict: exactly twenty characters before `.szb`, an underscore and
a dot in their places, ASCII digits everywhere else, and a real date and time
of day (no hour 24, no second 60). The local time is placed in the zone with
the first listed offset of a repeated reading; a skipped reading has no time
and so is not a snapshot name.

`findName` locates the first place in a path that looks like a snapshot name
by a purely lexical grammar, without checking the date. It is what splits a
path into the snapshot and the part below it.
-/

namespace BackupRotation.Snapshot

open Calendar Text

/-- Extension of snapshot directories. -/
def extension : String := ".szb"

/-- Name of the link to the newest snapshot. -/
def latestLinkName : String := "latest"

/-- The snapshot name of a stamp. -/
def formatName (stamp : Stamp) : String :=
  stamp.wall.renderCompact ++ "." ++ padNat 4 (stamp.instant.nanos % nanosPerSecond / 100000) ++
    extension

/-- Value of the ASCII digits in a slice of bytes. -/
def digitField? (bytes : Bytes) (start length : Nat) : Option Nat :=
  let field := (bytes.drop start).take length
  if field.length == length && field.all (fun b => 0x30 ≤ b && b ≤ 0x39) then
    some (field.foldl (fun acc b => acc * 10 + (b.toNat - 0x30)) 0)
  else none

/-- The wall time of the twenty-byte stamp of a name. -/
def parseStamp? (stamp : Bytes) : Option WallTime := do
  if stamp.length != 20 || stamp.getD 8 0 != 0x5F || stamp.getD 15 0 != 0x2E then none
  else
    let year ← digitField? stamp 0 4
    let month ← digitField? stamp 4 2
    let day ← digitField? stamp 6 2
    let hour ← digitField? stamp 9 2
    let minute ← digitField? stamp 11 2
    let second ← digitField? stamp 13 2
    let fraction ← digitField? stamp 16 4
    let date : Date := { year := year, month := month, day := day }
    if date.isValid && hour < 24 && minute < 60 && second < 60 then
      some { date := date, second := hour * 3600 + minute * 60 + second, nanos := fraction * 100000 }
    else none

/-- The time a snapshot name encodes, read in a zone. -/
def parseName? (zone : Zone) (name : Bytes) : Option Stamp := do
  let suffix := encode extension
  if !(suffix.reverse.isPrefixOf name.reverse) then none
  else
    let wall ← parseStamp? (name.take (name.length - suffix.length))
    zone.stampOfWall? wall

/-- Byte ranges of the name grammar, one per position: a year starting with
2, month and day tens limited, an underscore, hour, minute and second tens
limited, a dot, four digits and the extension. -/
def nameGrammar : List (UInt8 × UInt8) :=
  [(0x32, 0x32), (0x30, 0x39), (0x30, 0x39), (0x30, 0x39), (0x30, 0x31), (0x30, 0x39),
   (0x30, 0x33), (0x30, 0x39), (0x5F, 0x5F), (0x30, 0x32), (0x30, 0x39), (0x30, 0x35),
   (0x30, 0x39), (0x30, 0x35), (0x30, 0x39), (0x2E, 0x2E), (0x30, 0x39), (0x30, 0x39),
   (0x30, 0x39), (0x30, 0x39), (0x2E, 0x2E), (0x73, 0x73), (0x7A, 0x7A), (0x62, 0x62)]

/-- Whether bytes begin with a window matching the grammar. -/
def matchesGrammar (bytes : Bytes) : Bool :=
  bytes.length ≥ nameGrammar.length &&
    (bytes.zip nameGrammar).all fun (byte, low, high) => low ≤ byte && byte ≤ high

/-- Start of the first window at or after `index` that satisfies a test. -/
def firstWindow (test : Bytes → Bool) (index : Nat) : Bytes → Option Nat
  | [] => if test [] then some index else none
  | byte :: rest => if test (byte :: rest) then some index else firstWindow test (index + 1) rest

/-- Byte range of the first grammar match in a path. -/
def findName (haystack : Bytes) : Option (Nat × Nat) :=
  (firstWindow matchesGrammar 0 haystack).map fun start => (start, start + nameGrammar.length)

/-- Byte range of the first occurrence of a literal. -/
def findLiteral (needle haystack : Bytes) : Option (Nat × Nat) :=
  (firstWindow (fun window => needle.isPrefixOf window) 0 haystack).map fun start =>
    (start, start + needle.length)

/-- What marks a snapshot in a path: the name grammar or a fixed text. -/
inductive Marker where
  | grammar
  | literal (text : Bytes)
deriving DecidableEq, Repr

/-- Byte range of the first match of a marker. -/
def Marker.find (marker : Marker) (haystack : Bytes) : Option (Nat × Nat) :=
  match marker with
  | .grammar => findName haystack
  | .literal text => findLiteral text haystack

end BackupRotation.Snapshot
