/-!
# Decimal numbers and plain text helpers

Numbers in settings, counts and tool output are read by one strict rule: an
optional sign, then one or more ASCII digits and nothing else, with the value
required to fit the target integer type. Numbers are written back with a
comma between groups of three digits.

The text helpers treat whitespace as Unicode does, so that a tab or a
no-break space around a value is stripped like a plain space.
-/

namespace BackupRotation.Text

/-- Value of a list of ASCII digits, if every character is one. -/
def digitsValue? (chars : List Char) : Option Nat :=
  if !chars.isEmpty && chars.all Char.isDigit then
    some (chars.foldl (fun acc c => acc * 10 + (c.toNat - '0'.toNat)) 0)
  else none

/-- Read a signed decimal integer between the given bounds: an optional `+`
or `-` followed by digits only. -/
def readSigned? (low high : Int) (text : String) : Option Int :=
  let value : Option Int := match text.toList with
    | '+' :: digits => (digitsValue? digits).map Int.ofNat
    | '-' :: digits => (digitsValue? digits).map fun magnitude => -(magnitude : Int)
    | digits => (digitsValue? digits).map Int.ofNat
  value.bind fun value => if low ≤ value && value ≤ high then some value else none

/-- Read a signed 64-bit integer. -/
def readInt64? (text : String) : Option Int :=
  readSigned? (-9223372036854775808) 9223372036854775807 text

/-- Read an unsigned 64-bit integer: an optional `+` and digits. -/
def readUInt64? (text : String) : Option Nat :=
  let value := match text.toList with
    | '+' :: digits => digitsValue? digits
    | digits => digitsValue? digits
  value.bind fun value => if value ≤ 18446744073709551615 then some value else none

/-- Insert a comma before every digit whose distance from the end is a
positive multiple of three. -/
def groupDigits (digits : List Char) : List Char :=
  let count := digits.length
  (digits.zipIdx.map fun (c, index) =>
    if index > 0 && (count - index) % 3 == 0 then [',', c] else [c]).flatten

/-- A signed count with thousands separators: `-1,234,567`. -/
def formatCount (value : Int) : String :=
  (if value < 0 then "-" else "") ++ String.ofList (groupDigits (toString value.natAbs).toList)

/-- The value of a 64-bit unsigned count read as a signed one, as a cast
between the two types does: counts from `2^63` on wrap to negative values. -/
def wrapToInt64 (value : Nat) : Int :=
  let low := value % 18446744073709551616
  if low ≥ 9223372036854775808 then (low : Int) - 18446744073709551616 else low

/-- A signed 64-bit difference of two counts, wrapping like machine
arithmetic. -/
def wrapDifference (minuend subtrahend : Int) : Int :=
  wrapToInt64 ((minuend - subtrahend) % 18446744073709551616).toNat

/-- Whitespace as Unicode defines it. -/
def isWhite (c : Char) : Bool :=
  let code := c.toNat
  (0x9 ≤ code && code ≤ 0xD) || code == 0x20 || code == 0x85 || code == 0xA0 ||
    code == 0x1680 || (0x2000 ≤ code && code ≤ 0x200A) || code == 0x2028 || code == 0x2029 ||
    code == 0x202F || code == 0x205F || code == 0x3000

/-- Characters with leading and trailing whitespace removed. -/
def trimChars (chars : List Char) : List Char :=
  ((chars.dropWhile isWhite).reverse.dropWhile isWhite).reverse

/-- Text with leading and trailing whitespace removed. -/
def trimText (text : String) : String := String.ofList (trimChars text.toList)

/-- Split at the first occurrence of a character, dropping it. -/
def splitAtFirst (separator : Char) (chars : List Char) : Option (List Char × List Char) :=
  match chars.findIdx? (· == separator) with
  | some index => some (chars.take index, chars.drop (index + 1))
  | none => none

/-- Split text at every occurrence of a character. -/
def splitChars (separator : Char) : List Char → List (List Char)
  | [] => [[]]
  | c :: rest =>
      if c == separator then [] :: splitChars separator rest
      else
        match splitChars separator rest with
        | first :: others => (c :: first) :: others
        | [] => [[c]]

/-- Lines of text: split at line feeds, a carriage return before a line feed
dropped, and no empty line after a final line feed. -/
def textLines (text : String) : List String :=
  let pieces := splitChars '\n' text.toList
  let pieces := if pieces.getLast? == some [] then pieces.dropLast else pieces
  let count := pieces.length
  (pieces.zipIdx.map fun (piece, index) =>
    let endedByFeed := index + 1 < count || text.toList.getLast? == some '\n'
    if endedByFeed && piece.getLast? == some '\r' then piece.dropLast else piece).map String.ofList

/-- Whether text starts with a prefix. -/
def startsWith (text pre : String) : Bool := pre.toList.isPrefixOf text.toList

/-- Find the first occurrence of a pattern, as a position in characters. -/
def findSub (pattern : List Char) (chars : List Char) : Option Nat :=
  let rec go (index : Nat) : List Char → Option Nat
    | [] => if pattern.isEmpty then some index else none
    | c :: rest => if pattern.isPrefixOf (c :: rest) then some index else go (index + 1) rest
  go 0 chars

/-- Replace the first occurrence of a pattern. -/
def replaceFirst (text pattern replacement : String) : String :=
  match findSub pattern.toList text.toList with
  | some index =>
      String.ofList (text.toList.take index ++ replacement.toList ++
        text.toList.drop (index + pattern.length))
  | none => text

/-- Replace occurrences of a non-empty pattern, left to right, within at
most `fuel` steps; every step consumes at least one character, so the
length of the text is always enough. -/
def replaceWithin (pattern replacement : List Char) : Nat → List Char → List Char
  | 0, chars => chars
  | _ + 1, [] => []
  | fuel + 1, c :: rest =>
      if !pattern.isEmpty && pattern.isPrefixOf (c :: rest) then
        replacement ++ replaceWithin pattern replacement fuel ((c :: rest).drop pattern.length)
      else c :: replaceWithin pattern replacement fuel rest

/-- Replace every occurrence of a non-empty pattern, left to right. -/
def replaceAllChars (pattern replacement chars : List Char) : List Char :=
  replaceWithin pattern replacement chars.length chars

/-- Replace every occurrence of a non-empty pattern. -/
def replaceAll (text pattern replacement : String) : String :=
  String.ofList (replaceAllChars pattern.toList replacement.toList text.toList)

end BackupRotation.Text
