import BackupRotation.Process.Shell.Syntax
import BackupRotation.Text.Float
/-!
# Formatted output of scripts

What `echo` and `printf` write. Both interpret backslash escapes: `echo`
and the `%b` conversion the way `echo` does (`\c` stops all output, and an
octal escape may start with `\0`), the `printf` format with octal escapes of
one to three digits and any other backslash kept as it is.

A `printf` conversion is a `%`, flags among `#-+ 0`, a width and a
precision (digits or `*`), and one of `d i o u x X c s b` or the floating
conversions `f F e E g G a A`; the conversions behave as in C. A numeric
argument is read as C's `strtoimax`, `strtoumax` or `strtod` reads it (for
the integers with base 0: leading blanks, a sign, `0x` for hexadecimal, a
leading `0` for octal), or is the code of the character after a leading
quote. An argument that is not a number, or has text after its number, or
is out of range, still prints (as 0, the number read, or the nearest limit)
but draws a warning and makes the command fail with status 1. The format is
used again while arguments remain, provided the previous pass took at least
one. A format that ends inside a conversion, or a conversion letter not
known, is an error that stops the command with status 2.
-/

namespace BackupRotation.Process

open Text

/-- The value of an octal digit byte. -/
def octalDigit? (byte : UInt8) : Option Nat :=
  if 0x30 ≤ byte && byte ≤ 0x37 then some (byte.toNat - 0x30) else none

/-- Read up to `count` octal digits. -/
def readOctal : Nat → Nat → Bytes → Nat × Bytes
  | 0, value, rest => (value, rest)
  | count + 1, value, rest =>
      match rest with
      | byte :: more =>
          match octalDigit? byte with
          | some digit => readOctal count (value * 8 + digit) more
          | none => (value, rest)
      | [] => (value, rest)

/-- The byte a one-letter escape stands for. -/
def simpleEscape? (code : UInt8) : Option UInt8 :=
  if code == 0x6E then some 0x0A else if code == 0x74 then some 0x09
  else if code == 0x72 then some 0x0D else if code == 0x61 then some 0x07
  else if code == 0x62 then some 0x08 else if code == 0x66 then some 0x0C
  else if code == 0x76 then some 0x0B else if code == 0x5C then some 0x5C
  else none

/-- The byte an escape in a format stands for, and the bytes after it,
given the bytes after the backslash: an octal escape of one to three
digits, or a one-letter escape. Any other byte leaves the backslash
standing for itself, the byte not taken. -/
def formatEscape (after : Bytes) : UInt8 × Bytes :=
  match after with
  | code :: rest =>
      match simpleEscape? code with
      | some out => (out, rest)
      | none =>
          if (octalDigit? code).isSome then
            let (value, tail) := readOctal 3 0 after
            ((value % 256).toUInt8, tail)
          else (0x5C, after)
  | [] => (0x5C, [])

/-- Interpret escapes the way `echo` does; the flag is set when `\c` stops
the output. An octal escape may start with a `0` that does not count
among its three digits. -/
def echoEscapes : Nat → Bytes → Bytes × Bool
  | 0, _ => ([], false)
  | _ + 1, [] => ([], false)
  | fuel + 1, byte :: rest =>
      if byte != 0x5C then
        let (more, stop) := echoEscapes fuel rest
        (byte :: more, stop)
      else
        match rest with
        | 0x63 :: _ => ([], true)
        | _ =>
            let after := match rest with
              | 0x30 :: digit :: more => if (octalDigit? digit).isSome then digit :: more else rest
              | _ => rest
            let (out, tail) := formatEscape after
            let (more, stop) := echoEscapes fuel tail
            (out :: more, stop)

/-- The output of `echo`: arguments joined by spaces, escapes interpreted,
and a line feed unless `-n` came first. -/
def echoOutput (args : List Bytes) : Bytes :=
  let (newline, words) := match args with
    | first :: rest => if first == encode "-n" then (false, rest) else (true, args)
    | [] => (true, [])
  let joined := (words.intersperse [0x20]).flatten
  let (text, stopped) := echoEscapes (joined.length + 1) joined
  if stopped || !newline then text else text ++ [0x0A]

/-! ## Numbers -/

/-- Whether a byte is C white space. -/
def isCSpace (byte : UInt8) : Bool := byte == 0x20 || (0x09 ≤ byte && byte ≤ 0x0D)

/-- The value of a digit in a base, if it is one. -/
def digitIn (base : Nat) (byte : UInt8) : Option Nat :=
  let value :=
    if 0x30 ≤ byte && byte ≤ 0x39 then byte.toNat - 0x30
    else if 0x61 ≤ byte && byte ≤ 0x7A then byte.toNat - 0x61 + 10
    else if 0x41 ≤ byte && byte ≤ 0x5A then byte.toNat - 0x41 + 10
    else 36
  if value < base then some value else none

/-- Read the digits of a base at the front: their value and count, and the
rest. -/
def readDigitsIn (base : Nat) : Bytes → Nat × Nat × Bytes
  | byte :: rest =>
      match digitIn base byte with
      | some digit =>
          let (value, count, tail) := readDigitsIn base rest
          (digit * base ^ count + value, count + 1, tail)
      | none => (0, 0, byte :: rest)
  | [] => (0, 0, [])

/-- A number as C's `strtoimax` and `strtoumax` read it with base 0: its
sign and magnitude, and the bytes after it; `none` when no digits were
read, so that nothing was. -/
def readCNumber (text : Bytes) : Option (Bool × Nat × Bytes) :=
  let text := text.dropWhile isCSpace
  let (negative, text) := match text with
    | 0x2D :: rest => (true, rest)
    | 0x2B :: rest => (false, rest)
    | _ => (false, text)
  match text with
  | 0x30 :: x :: rest =>
      if x == 0x78 || x == 0x58 then
        match readDigitsIn 16 rest with
        | (_, 0, _) => some (negative, 0, x :: rest)
        | (value, _, tail) => some (negative, value, tail)
      else
        let (value, _, tail) := readDigitsIn 8 (x :: rest)
        some (negative, value, tail)
  | 0x30 :: [] => some (negative, 0, [])
  | _ =>
      match readDigitsIn 10 text with
      | (_, 0, _) => none
      | (value, _, tail) => some (negative, value, tail)

/-- The largest signed 64-bit value plus one. -/
def signedLimit : Nat := 9223372036854775808

/-- The number of unsigned 64-bit values. -/
def unsignedRange : Nat := 18446744073709551616

/-- How reading a numeric argument went. -/
inductive NumberRead where
  | exact
  | notNumeric
  | partly
  | outOfRange
deriving DecidableEq, Repr

/-- Read a numeric argument: a leading quote gives the code of the byte
after it; otherwise the number at the front, with how the reading went. -/
def numericArgument (arg : Bytes) : Option Int × NumberRead :=
  match arg with
  | 0x27 :: rest | 0x22 :: rest => (some ((rest.head?.map UInt8.toNat).getD 0), .exact)
  | _ =>
      match readCNumber arg with
      | none => (none, if arg.isEmpty then .exact else .notNumeric)
      | some (negative, magnitude, tail) =>
          let value : Int := if negative then -(magnitude : Int) else magnitude
          (some value, if tail.isEmpty then .exact else .partly)

/-- A signed argument: out of range saturates at the 64-bit limits. -/
def signedArgument (arg : Bytes) : Int × NumberRead :=
  match numericArgument arg with
  | (none, read) => (0, read)
  | (some value, read) =>
      if value ≥ (signedLimit : Int) then (signedLimit - 1, .outOfRange)
      else if value < -(signedLimit : Int) then (-(signedLimit : Int), .outOfRange)
      else (value, read)

/-- An unsigned argument: a negative number wraps around, and one too large
either way saturates at the largest value. -/
def unsignedArgument (arg : Bytes) : Nat × NumberRead :=
  match numericArgument arg with
  | (none, read) => (0, read)
  | (some value, read) =>
      if value.natAbs ≥ unsignedRange then (unsignedRange - 1, .outOfRange)
      else if value < 0 then (unsignedRange - value.natAbs, read)
      else (value.toNat, read)

/-- The warning about an argument that was not read exactly. -/
def NumberRead.complaint (read : NumberRead) (arg : Bytes) : Option Bytes :=
  match read with
  | .exact => none
  | .notNumeric => some (arg ++ encode ": expected numeric value")
  | .partly => some (arg ++ encode ": not completely converted")
  | .outOfRange => some (arg ++ encode ": Numerical result out of range")

/-- Read a floating argument as `strtod` does: a leading quote gives the
code of the byte after it. -/
def floatArgument (arg : Bytes) : Binary64 × NumberRead :=
  match arg with
  | 0x27 :: rest | 0x22 :: rest => (Binary64.ofNat ((rest.head?.map UInt8.toNat).getD 0), .exact)
  | _ =>
      match readCDouble arg with
      | none => (Binary64.ofNat 0, if arg.isEmpty then .exact else .notNumeric)
      | some (value, tail, outOfRange) =>
          (value, if !tail.isEmpty then .partly else if outOfRange then .outOfRange else .exact)

/-! ## Conversions -/

/-- A conversion specification. -/
structure Spec where
  left : Bool := false
  plus : Bool := false
  space : Bool := false
  alternate : Bool := false
  zero : Bool := false
  width : Nat := 0
  precision : Option Nat := none
deriving Repr

/-- Pad a field to the width, on the right when left-justified. -/
def Spec.pad (spec : Spec) (field : Bytes) : Bytes :=
  let fill := List.replicate (spec.width - field.length) (0x20 : UInt8)
  if spec.left then field ++ fill else fill ++ field

/-- Digits of a number in a base, lower or upper case. -/
def digitsIn (base : Nat) (upper : Bool) (value : Nat) : Bytes :=
  (Nat.toDigits base value).map fun c =>
    let byte := c.toNat.toUInt8
    if upper && 0x61 ≤ byte && byte ≤ 0x7A then byte - 0x20 else byte

/-- Digits brought to the precision: padded with zeros to it, and none
at all for zero with a precision of zero. -/
def Spec.withPrecision (spec : Spec) (digits : Bytes) : Bytes :=
  match spec.precision with
  | some 0 => if digits == [0x30] then [] else digits
  | some p => List.replicate (p - digits.length) (0x30 : UInt8) ++ digits
  | none => digits

/-- An integer field from a sign or prefix and digits already brought to
the precision, padded with zeros (when asked and no precision is given) or
blanks. -/
def Spec.integer (spec : Spec) (lead : Bytes) (digits : Bytes) : Bytes :=
  let body := lead ++ digits
  if spec.zero && !spec.left && spec.precision.isNone then
    lead ++ List.replicate (spec.width - body.length) (0x30 : UInt8) ++ digits
  else spec.pad body

/-- A signed decimal field. -/
def Spec.signed (spec : Spec) (value : Int) : Bytes :=
  let lead : Bytes :=
    if value < 0 then [0x2D] else if spec.plus then [0x2B] else if spec.space then [0x20] else []
  spec.integer lead (spec.withPrecision (digitsIn 10 false value.natAbs))

/-- An unsigned field in base 8, 10 or 16; the alternate form starts octal
with a zero and nonzero hexadecimal with `0x`. -/
def Spec.unsigned (spec : Spec) (base : Nat) (upper : Bool) (value : Nat) : Bytes :=
  let digits := spec.withPrecision (digitsIn base upper value)
  if spec.alternate && base == 16 && value != 0 then
    spec.integer (if upper then encode "0X" else encode "0x") digits
  else if spec.alternate && base == 8 && digits.head? != some 0x30 then
    spec.integer [] (0x30 :: digits)
  else spec.integer [] digits

/-- A text field, cut to the precision. -/
def Spec.text (spec : Spec) (text : Bytes) : Bytes :=
  spec.pad (match spec.precision with
    | some p => text.take p
    | none => text)

/-- A floating field: the sign, then the digits padded with zeros after
the sign (and after `0x`) when asked, or with blanks; infinities and NaN
are never padded with zeros. -/
def Spec.floating (spec : Spec) (conversion : Char) (value : Binary64) : Bytes :=
  let lead : Bytes :=
    if value.negative then [0x2D] else if spec.plus then [0x2B] else if spec.space then [0x20] else []
  let body := encode (floatBody conversion value spec.precision spec.alternate)
  let finite := match value.magnitude with
    | .finite _ _ => true
    | _ => false
  let (lead, body) :=
    if (conversion == 'a' || conversion == 'A') && finite then (lead ++ body.take 2, body.drop 2)
    else (lead, body)
  if spec.zero && !spec.left && finite then
    lead ++ List.replicate (spec.width - (lead.length + body.length)) (0x30 : UInt8) ++ body
  else spec.pad (lead ++ body)

/-- What a pass over the format has done so far. -/
structure Pass where
  out : Bytes := []
  /-- Warnings about arguments, each without the command's name. -/
  warnings : List Bytes := []
  args : List Bytes
  /-- Whether any argument was taken. -/
  taken : Bool := false
  /-- Whether a conversion failed to read its argument. -/
  failed : Bool := false
  /-- Whether `\c` stopped everything. -/
  stopped : Bool := false
  /-- The error that stopped everything. -/
  error : Option Bytes := none
deriving Repr

namespace Pass

/-- Take the next argument, if any. -/
def next (pass : Pass) : Option Bytes × Pass :=
  match pass.args with
  | arg :: rest => (some arg, { pass with args := rest, taken := true })
  | [] => (none, pass)

/-- Note how an argument was read. -/
def note (pass : Pass) (read : NumberRead) (arg : Bytes) : Pass :=
  match read.complaint arg with
  | some warning => { pass with warnings := pass.warnings ++ [warning], failed := true }
  | none => pass

/-- Take the next argument as a signed number, noting a bad one. -/
def signed (pass : Pass) : Int × Pass :=
  match pass.next with
  | (some arg, pass) =>
      let (value, read) := signedArgument arg
      (value, pass.note read arg)
  | (none, pass) => (0, pass)

/-- Take the next argument as an unsigned number, noting a bad one. -/
def unsigned (pass : Pass) : Nat × Pass :=
  match pass.next with
  | (some arg, pass) =>
      let (value, read) := unsignedArgument arg
      (value, pass.note read arg)
  | (none, pass) => (0, pass)

/-- Take the next argument as a floating number, noting a bad one. -/
def floating (pass : Pass) : Binary64 × Pass :=
  match pass.next with
  | (some arg, pass) =>
      let (value, read) := floatArgument arg
      (value, pass.note read arg)
  | (none, pass) => (Binary64.ofNat 0, pass)

/-- Write bytes. -/
def emit (pass : Pass) (bytes : Bytes) : Pass := { pass with out := pass.out ++ bytes }

/-- Stop with an error. -/
def halt (pass : Pass) (message : Bytes) : Pass := { pass with error := some message, stopped := true }

end Pass

/-- Read the flags of a conversion. -/
def readFlags (spec : Spec) : Bytes → Spec × Bytes
  | byte :: rest =>
      if byte == 0x2D then readFlags { spec with left := true } rest
      else if byte == 0x2B then readFlags { spec with plus := true } rest
      else if byte == 0x20 then readFlags { spec with space := true } rest
      else if byte == 0x23 then readFlags { spec with alternate := true } rest
      else if byte == 0x30 then readFlags { spec with zero := true } rest
      else (spec, byte :: rest)
  | [] => (spec, [])

/-- Read a width or precision: digits, or `*` for the next argument. -/
def readAmount (pass : Pass) (format : Bytes) : Option Int × Pass × Bytes :=
  match format with
  | 0x2A :: rest =>
      let (value, pass) := pass.signed
      (some value, pass, rest)
  | _ =>
      match readDigitsIn 10 format with
      | (_, 0, _) => (none, pass, format)
      | (value, _, rest) => (some value, pass, rest)

/-- Carry out one conversion whose letter is `conversion`. -/
def convert (spec : Spec) (conversion : UInt8) (pass : Pass) : Pass :=
  if conversion == 0x64 || conversion == 0x69 then
    let (value, pass) := pass.signed
    pass.emit (spec.signed value)
  else if conversion == 0x75 || conversion == 0x6F || conversion == 0x78 || conversion == 0x58 then
    let (value, pass) := pass.unsigned
    let base := if conversion == 0x6F then 8 else if conversion == 0x75 then 10 else 16
    pass.emit (spec.unsigned base (conversion == 0x58) value)
  else if conversion == 0x73 then
    let (arg, pass) := pass.next
    pass.emit (spec.text (arg.getD []))
  else if conversion == 0x63 then
    let (arg, pass) := pass.next
    pass.emit (spec.pad [(arg.bind List.head?).getD 0])
  else if conversion == 0x62 then
    let (arg, pass) := pass.next
    let text := arg.getD []
    let (out, stop) := echoEscapes (text.length + 1) text
    let pass := pass.emit (spec.text out)
    if stop then { pass with stopped := true } else pass
  else
    let (value, pass) := pass.floating
    pass.emit (spec.floating (Char.ofNat conversion.toNat) value)

/-- The conversion letters understood. -/
def conversionLetters : Bytes := encode "diouxXcsbfFeEgGaA"

/-- One pass of the format over the arguments. -/
def formatPass : Nat → Bytes → Pass → Pass
  | 0, _, pass => pass
  | _ + 1, [], pass => pass
  | fuel + 1, byte :: rest, pass =>
      if byte == 0x5C then
        let (out, tail) := formatEscape rest
        formatPass fuel tail (pass.emit [out])
      else if byte == 0x25 then
        match rest with
        | 0x25 :: after => formatPass fuel after (pass.emit [0x25])
        | _ =>
            let (spec, afterFlags) := readFlags {} rest
            let (width, pass, afterWidth) := readAmount pass afterFlags
            let spec := match width with
              | some w => if w < 0 then { spec with left := true, width := w.natAbs }
                          else { spec with width := w.toNat }
              | none => spec
            let (precision, pass, afterPrecision) := match afterWidth with
              | 0x2E :: more =>
                  match readAmount pass more with
                  | (some p, pass, tail) => (if p < 0 then none else some p.toNat, pass, tail)
                  | (none, pass, tail) => (some 0, pass, tail)
              | _ => (none, pass, afterWidth)
            let spec := { spec with precision := precision }
            match afterPrecision with
            | conversion :: tail =>
                if conversionLetters.contains conversion then
                  let pass := convert spec conversion pass
                  if pass.stopped then pass else formatPass fuel tail pass
                else
                  let written := (byte :: rest).take (rest.length + 1 - tail.length)
                  pass.halt (written ++ encode ": invalid directive")
            | [] => pass.halt (encode "missing format character")
      else formatPass fuel rest (pass.emit [byte])

/-- The passes of `printf`: the format is used again while arguments
remain and the last pass took one. -/
def printfPasses : Nat → Bytes → Pass → Pass
  | 0, _, pass => pass
  | fuel + 1, format, pass =>
      let after := formatPass (format.length + 1) format { pass with taken := false }
      if after.stopped || after.args.isEmpty || !after.taken then after
      else printfPasses fuel format after

/-- What `printf` does with its arguments: what it writes, its warnings,
its status, and the error that stopped it, if one did. An option other
than `--` is an error. -/
def printfRun (args : List Bytes) : Pass :=
  let usage : Pass := { args := [], error := some (encode "usage: printf format [arg ...]"), stopped := true }
  let run := fun (args : List Bytes) => match args with
    | format :: rest => printfPasses (rest.length + 1) format { args := rest }
    | [] => usage
  match args with
  | first :: rest =>
      if first == encode "--" then run rest
      else
        match first with
        | 0x2D :: option :: _ =>
            { args := [], error := some (encode "Illegal option -" ++ [option]), stopped := true }
        | _ => run args
  | [] => usage

end BackupRotation.Process
