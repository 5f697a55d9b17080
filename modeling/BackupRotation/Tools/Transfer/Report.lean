import BackupRotation.Tools.Transfer.Listing
/-!
# Lines about items

Besides its errors, the synchronizer writes lines about what it does, as
the output words in force ask (`--info`, or the levels each `-v` turns on)
and as the format of item lines says (`--out-format`, `-i`, or the names
alone once the word `NAME` is on). All of them go to standard output, and
`--quiet` silences them.

An item line is its format with the escapes replaced:

* `%n` the item's path from the transfer root, a directory's ending in a
  slash; `%f` the path it was read at, without a leading slash;
* `%L` an arrow and the target for a link, nothing otherwise;
* `%i` the summary of the change: what was done (`>` sent, `c` made at the
  destination, `h` hard-linked, `.` nothing), the kind (`f`, `d`, `L`), and
  one place for each attribute compared (contents, size, time, permissions,
  owner, group, access time, ACLs, extended attributes) holding its letter
  when it differs; a new item has `+` in every place, and an item whose
  attributes all match has spaces there unless its contents were sent;
* `%o` the operation, `%l` the length, `%B` the permission bits.

A width (digits, after a `-` to pad on the right) pads what an escape
stands for. Any other escape stays as it is written. Times count as equal
on both sides, so the time place never shows a change.
-/

namespace BackupRotation.Tools

open Files Text

/-- The level an output word takes when `--info` does not name it: the
levels each count of `-v` turns on. -/
def impliedInfoLevel (verbose : Nat) (word : String) : Nat :=
  if word == "NONREG" then 1
  else if word == "NAME" || word == "MISC" then min verbose 2
  else if ["COPY", "DEL", "FLIST", "STATS", "SYMSAFE"].contains word then min verbose 1
  else if ["BACKUP", "MOUNT", "REMOVE", "SKIP"].contains word then (if verbose ≥ 2 then 1 else 0)
  else 0

/-- The level of an output word in force: the last one `--info` gave it,
else the one `-v` implies. -/
def TransferOptions.infoLevel (options : TransferOptions) (word : String) : Nat :=
  match options.infoLevels.reverse.find? (·.1 == word) with
  | some (_, level) => level
  | none => impliedInfoLevel options.verbose word

/-- The rest of a format after the flags an escape may carry: apostrophes,
a minus sign, digits, and apostrophes again. -/
def skipEscapeFlags (rest : Bytes) : Bytes :=
  let rest := rest.dropWhile (· == 0x27)
  let rest := if rest.head? == some 0x2D then rest.drop 1 else rest
  let rest := rest.dropWhile fun byte => 0x30 ≤ byte && byte ≤ 0x39
  rest.dropWhile (· == 0x27)

/-- Whether some percent sign of a format, past its flags, is followed by
the letter. Every percent sign counts, also one that is itself the letter
of an escape before it. -/
def formatHas : Bytes → UInt8 → Bool
  | [], _ => false
  | byte :: rest, letter =>
      (byte == 0x25 && (skipEscapeFlags rest).head? == some letter) || formatHas rest letter

/-- The format of item lines: the one given, else the summary of changes
and the name with `-i`, else the name once the word `NAME` is on. -/
def TransferOptions.itemFormat (options : TransferOptions) : Option Bytes :=
  match options.outFormat with
  | some format => some format
  | none =>
      if options.itemizeCount > 0 then some (encode "%i %n%L")
      else if options.infoLevel "NAME" ≥ 1 then some (encode "%n%L")
      else none

/-- How much the format of item lines summarizes changes: 0 not at all;
else how many times `-i` was given, at least once when the format has the
escape. -/
def TransferOptions.itemizing (options : TransferOptions) : Nat :=
  match options.outFormat with
  | some format => if formatHas format 0x69 then options.itemizeCount ||| 1 else 0
  | none => options.itemizeCount

/-- What happened to one item, as far as the summary of changes tells. -/
structure ItemChange where
  /-- The contents were sent. -/
  sent : Bool := false
  /-- The item was made at the destination without sending anything. -/
  madeHere : Bool := false
  /-- It was made as a hard link to a file of a basis directory. -/
  linked : Bool := false
  /-- Nothing stood there before. -/
  fresh : Bool := false
  /-- The size differs from what stood there. -/
  resized : Bool := false
  /-- The link target differs, or with checksums the contents. -/
  altered : Bool := false
  /-- The permissions differ. -/
  remoded : Bool := false
deriving Repr

/-- Whether a change is worth a line of its own: something was sent, made
new, or found different. -/
def ItemChange.significant (change : ItemChange) : Bool :=
  change.sent || change.fresh || change.resized || change.altered || change.remoded

/-- The summary of a change to an item of the kind of `node`. -/
def itemCode (node : Node) (change : ItemChange) : Bytes :=
  let first : Char :=
    if change.madeHere then (if change.linked then 'h' else 'c')
    else if change.sent then '>' else '.'
  let kind : Char := match node with
    | .directory _ => 'd'
    | .file _ _ => 'f'
    | .link _ => 'L'
  let sizeMark := match node with
    | .link _ => '.'
    | _ => if change.resized then 's' else '.'
  let places : List Char :=
    [if change.altered then 'c' else '.', sizeMark, '.', if change.remoded then 'p' else '.',
      '.', '.', '.', '.', '.']
  let places :=
    if change.fresh then places.map fun _ => '+'
    else if first != '>' && places.all (· == '.') then places.map fun _ => ' '
    else places
  encode (String.ofList (first :: kind :: places))

/-- The permission bits as letters: read, write and execute for owner,
group and others, the set-id and sticky bits shown in the execute
places. -/
def permissionLetters (mode : Nat) : Bytes :=
  let bit := fun (value : Nat) => mode &&& value != 0
  let exec := fun (value special : Nat) (shown hidden : Char) =>
    if bit special then (if bit value then shown else hidden) else if bit value then 'x' else '-'
  encode (String.ofList
    [if bit 0o400 then 'r' else '-', if bit 0o200 then 'w' else '-', exec 0o100 0o4000 's' 'S',
     if bit 0o40 then 'r' else '-', if bit 0o20 then 'w' else '-', exec 0o10 0o2000 's' 'S',
     if bit 0o4 then 'r' else '-', if bit 0o2 then 'w' else '-', exec 0o1 0o1000 't' 'T'])

/-- Text padded with spaces to a width, on the left unless `left` asks for
the right. -/
def padTo (left : Bool) (width : Nat) (text : Bytes) : Bytes :=
  let spaces := List.replicate (width - text.length) (0x20 : UInt8)
  if left then text ++ spaces else spaces ++ text

/-- What the escapes of an item line stand for. -/
structure LineItem where
  /-- The path for `%n`, a directory's with its slash. -/
  name : Bytes
  /-- The path for `%f`. -/
  place : Bytes
  /-- The target of a link, for `%L`. -/
  target : Option Bytes
  /-- The summary for `%i`. -/
  code : Bytes
  /-- The operation for `%o`. -/
  operation : Bytes
  /-- The length for `%l`. -/
  length : Nat
  /-- The mode for `%B`. -/
  mode : Nat

/-- What one escape stands for, with the width asked (`sized` when digits
or a minus sign were given); none for an escape not known. -/
def LineItem.escape (item : LineItem) (left sized : Bool) (width : Nat) (letter : UInt8) :
    Option Bytes :=
  let padded := fun (text : Bytes) => if sized then padTo left width text else text
  if letter == 0x6E then some (padded item.name)
  else if letter == 0x66 then some (padded item.place)
  else if letter == 0x4C then
    match item.target with
    | some target => some (encode " -> " ++ padded target)
    | none => some []
  else if letter == 0x69 then some (padded item.code)
  else if letter == 0x6F then some (padded item.operation)
  else if letter == 0x6C then some (padded (encode (toString item.length)))
  else if letter == 0x42 then some (padded (permissionLetters item.mode))
  else none

/-- Replace the escapes of a format, each step taking at least one byte.
An escape cut off by the end stays as it is; so does an unknown one, whose
letter may start the next escape. -/
def expandFormat (item : LineItem) : Nat → Bytes → Bytes
  | 0, rest => rest
  | _, [] => []
  | fuel + 1, byte :: rest =>
      if byte != 0x25 then byte :: expandFormat item fuel rest
      else
        let after := skipEscapeFlags rest
        let flags := rest.take (rest.length - after.length)
        let digits := flags.filter fun b => 0x30 ≤ b && b ≤ 0x39
        let width := digits.foldl (fun acc b => acc * 10 + (b.toNat - 0x30)) 0
        let left := flags.contains 0x2D
        let sized := !digits.isEmpty || left
        match after with
        | [] => byte :: rest
        | letter :: tail =>
            match item.escape left sized width letter with
            | some text => text ++ expandFormat item fuel tail
            | none => byte :: flags ++ expandFormat item fuel (letter :: tail)

/-- The line a format gives for an item, with its line end. -/
def itemLine (format : Bytes) (item : LineItem) : Bytes :=
  expandFormat item (format.length + 2) (format ++ [0x0A])

end BackupRotation.Tools
