import BackupRotation.Files.Tree
import BackupRotation.Text.Float
/-!
# Permission changes and size limits of the synchronizer

`--chmod` takes a comma-separated list of changes, each applied in turn to
the permission bits of every file and directory sent. A change may start
with `D` (directories only) or `F` (files only) and is then either an
octal mode of up to four digits, which replaces the bits, or a symbolic
change `[ugoa]*[-+=][rwxXst]*`. A symbolic change that names nobody applies
to all three classes, less the bits the umask removes. `X` grants execute
only to directories and to files that already had an execute bit.

`--max-size` and `--min-size` take a size: a decimal number, possibly with
a fraction, then an optional unit letter `b`, `k`, `m`, `g`, `t` or `p`
(powers of 1024, or of 1000 when followed by `b`, also `ib` for 1024), and
an optional `+1` or `-1`. A plain number counts bytes. The unit is
multiplied by the number in binary floating point and the product cut
toward zero to a 64-bit integer, so `1.001kb` is 1000 bytes; a product out
of that range becomes the smallest integer, and the `+1` or `-1` then wraps
around as the machine's arithmetic does.
-/

namespace BackupRotation.Tools

open Files Text

/-- One change of permission bits: which items it applies to, the bits it
keeps and the bits it then sets. -/
structure ModeChange where
  directoriesOnly : Bool
  filesOnly : Bool
  keep : Nat
  set : Nat
  /-- Execute bits are set only on directories and on files that had one. -/
  executeIfAny : Bool
deriving DecidableEq, Repr

/-- How a symbolic change combines its bits. -/
inductive ModeOperator where
  | add
  | remove
  | assign
  | octal
deriving DecidableEq, Repr

/-- Where the reading of one change stands. -/
inductive ModeStage where
  /-- Reading the item letter, the classes, or an operator. -/
  | who
  /-- Reading permission letters after the operator. -/
  | perms
  /-- Reading octal digits. -/
  | octal
deriving DecidableEq, Repr

/-- One change being read. -/
structure ModeReading where
  stage : ModeStage := .who
  classes : Nat := 0
  perms : Nat := 0
  operator : Option ModeOperator := none
  specialOfClasses : Nat := 0
  special : Nat := 0
  directoriesOnly : Bool := false
  filesOnly : Bool := false
  executeIfAny : Bool := false
deriving Repr

/-- All permission bits, the special ones included. -/
def permissionBits : Nat := 0o7777

/-- The change a finished reading stands for, or none when it has no
operator. -/
def ModeReading.finish (reading : ModeReading) : Option ModeChange := do
  let operator ← reading.operator
  let (classes, bits) :=
    if reading.classes != 0 then (reading.classes, reading.classes * reading.perms)
    else (0o111, (0o111 * reading.perms) &&& (permissionBits ^^^ umask))
  let (keep, set) := match operator with
    | .add => (permissionBits, bits + reading.special)
    | .remove => (permissionBits - bits - reading.special, 0)
    | .assign =>
        (permissionBits - classes * 7 - (if reading.special != 0 then reading.specialOfClasses else 0),
          bits + reading.special)
    | .octal => (0, bits)
  pure { directoriesOnly := reading.directoriesOnly, filesOnly := reading.filesOnly,
         keep := keep, set := set, executeIfAny := reading.executeIfAny }

/-- Read one character of a change; none when it does not fit. -/
def ModeReading.step (reading : ModeReading) (c : Char) : Option ModeReading :=
  match reading.stage with
  | .who =>
      if c == 'D' then
        if reading.filesOnly then none else some { reading with directoriesOnly := true }
      else if c == 'F' then
        if reading.directoriesOnly then none else some { reading with filesOnly := true }
      else if c == 'u' then
        some { reading with classes := reading.classes ||| 0o100,
                            specialOfClasses := reading.specialOfClasses ||| 0o4000 }
      else if c == 'g' then
        some { reading with classes := reading.classes ||| 0o010,
                            specialOfClasses := reading.specialOfClasses ||| 0o2000 }
      else if c == 'o' then some { reading with classes := reading.classes ||| 0o001 }
      else if c == 'a' then some { reading with classes := reading.classes ||| 0o111 }
      else if c == '+' then some { reading with operator := some .add, stage := .perms }
      else if c == '-' then some { reading with operator := some .remove, stage := .perms }
      else if c == '=' then some { reading with operator := some .assign, stage := .perms }
      else if '0' ≤ c && c ≤ '7' && reading.classes == 0 then
        some { reading with operator := some .octal, stage := .octal, classes := 1,
                            perms := c.toNat - '0'.toNat }
      else none
  | .perms =>
      if c == 'r' then some { reading with perms := reading.perms ||| 4 }
      else if c == 'w' then some { reading with perms := reading.perms ||| 2 }
      else if c == 'X' then some { reading with perms := reading.perms ||| 1, executeIfAny := true }
      else if c == 'x' then some { reading with perms := reading.perms ||| 1 }
      else if c == 's' then
        some { reading with special :=
          if reading.specialOfClasses != 0 then reading.special ||| reading.specialOfClasses else 0o4000 }
      else if c == 't' then some { reading with special := reading.special ||| 0o1000 }
      else none
  | .octal =>
      if '0' ≤ c && c ≤ '7' then
        let perms := reading.perms * 8 + (c.toNat - '0'.toNat)
        if perms > permissionBits then none else some { reading with perms := perms }
      else none

/-- Read the changes of a `--chmod` value. A comma ends a change, and every
change needs an operator, so an empty change anywhere refuses the value. -/
def readModeChanges (reading : ModeReading) : List Char → Option (List ModeChange)
  | [] => reading.finish.map fun change => [change]
  | c :: rest =>
      if c == ',' then do
        let change ← reading.finish
        match rest with
        | [] => none
        | _ => (readModeChanges {} rest).map (change :: ·)
      else do
        let next ← reading.step c
        readModeChanges next rest

/-- Apply changes to permission bits. Whether a file had an execute bit is
judged on the bits before any change. -/
def applyModeChanges (changes : List ModeChange) (isDirectory : Bool) (mode : Nat) : Nat :=
  let hadExecute := mode &&& 0o111 != 0
  changes.foldl (fun mode change =>
    if (change.directoriesOnly && !isDirectory) || (change.filesOnly && isDirectory) then mode
    else
      let kept := mode &&& change.keep
      if change.executeIfAny && !hadExecute && !isDirectory then
        kept ||| (change.set &&& (permissionBits ^^^ 0o111))
      else kept ||| change.set) mode

/-! ## Sizes -/

/-- The power and base a unit letter stands for. -/
def unitPower (c : Char) : Option Nat :=
  if c == 'b' || c == 'B' then some 0
  else if c == 'k' || c == 'K' then some 1
  else if c == 'm' || c == 'M' then some 2
  else if c == 'g' || c == 'G' then some 3
  else if c == 't' || c == 'T' then some 4
  else if c == 'p' || c == 'P' then some 5
  else none

/-- A 64-bit signed integer, wrapped around into range. -/
def wrapSigned64 (value : Int) : Int :=
  if value > 9223372036854775807 then value - 18446744073709551616
  else if value < -9223372036854775808 then value + 18446744073709551616
  else value

/-- Read a size in bytes, as a 64-bit signed integer that may come out
negative; none when the text is not of the form of a size. A number with
no unit letter counts in the unit `unit` names. -/
def readSizeIn (unit : UInt8) (text : Bytes) : Option Int := do
  let isDigit := fun (byte : UInt8) => 0x30 ≤ byte && byte ≤ 0x39
  let rest := text.dropWhile isDigit
  let rest := match rest with
    | 0x2E :: more => more.dropWhile isDigit
    | _ => rest
  let (letter, rest) := match rest with
    | byte :: more => if byte != 0x2B && byte != 0x2D then (byte, more) else (unit, rest)
    | [] => (unit, [])
  let power ← unitPower (Char.ofNat letter.toNat)
  let (base, rest) ← match rest with
    | byte :: more =>
        if byte == 0x62 || byte == 0x42 then some (1000, more)
        else if byte == 0x2B || byte == 0x2D then some (1024, rest)
        else match more with
          | next :: after =>
              if (byte == 0x69 || byte == 0x49) && (next == 0x62 || next == 0x42) then some (1024, after)
              else none
          | [] => none
    | [] => some (1024, [])
  let factor := match readCDouble text with
    | some (value, _, _) => value
    | none => Binary64.ofNat 0
  let size := (Binary64.mul (Binary64.ofNat (Nat.pow base power)) factor).truncateToInt64
  let (size, rest) : Int × Bytes := match rest with
    | sign :: 0x31 :: more =>
        if (sign == 0x2B || sign == 0x2D) && rest.length < text.length then
          (wrapSigned64 (if sign == 0x2B then size + 1 else size - 1), more)
        else (size, rest)
    | _ => (size, rest)
  if rest.isEmpty then some size else none

/-- Read a size in bytes, a bare number counting bytes. -/
def readSize (text : Bytes) : Option Int := readSizeIn 0x62 text

end BackupRotation.Tools
