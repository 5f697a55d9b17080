import BackupRotation.Failure
/-!
# Snapshot permissions

The permission given to a finished snapshot is written either in octal,
`0o0` followed by octal digits (`0o0500`), or symbolically as
`u:<p>;g:<p>;o:<p>` with `<p>` one of `rwx rw rx r wx w x -` (`u:rx;g:-;o:-`).
Either way the mode must grant something and stay within `0o777`: a
snapshot nobody may read is a mistake, and higher bits have no meaning here.
-/

namespace BackupRotation.Settings

open Text

/-- Largest mode a permission may have. -/
def maxPermission : Nat := 0o777

/-- Reason given for malformed octal text. -/
def octalSyntax : String := "octal syntax, expected 0o0NNN"

/-- Reason given for malformed symbolic text. -/
def symbolicSyntax : String := "symbolic syntax, expected u:<p>;g:<p>;o:<p>"

/-- Value of octal digits. -/
def octalValue (digits : List Char) : Nat :=
  digits.foldl (fun acc c => acc * 8 + (c.toNat - '0'.toNat)) 0

/-- Read the octal form `0o0NNN`. The digits are read as a 32-bit number,
so a value beyond that is out of range like any value above `0o777`. -/
def parseOctal (value : String) : Outcome Nat :=
  let invalid := fun reason => Except.error (Failure.invalidPermission value reason)
  match value.toList with
  | '0' :: 'o' :: '0' :: digits =>
      if digits.isEmpty || !digits.all (fun c => '0' ≤ c && c ≤ '7') then invalid octalSyntax
      else
        let mode := octalValue digits
        if mode ≥ 4294967296 || mode == 0 || mode > maxPermission then invalid "octal out of range"
        else .ok mode
  | _ => invalid octalSyntax

/-- Permission bits of one symbolic group. -/
def symbolicBits : List Char → Option Nat
  | ['r', 'w', 'x'] => some 7
  | ['r', 'w'] => some 6
  | ['r', 'x'] => some 5
  | ['r'] => some 4
  | ['w', 'x'] => some 3
  | ['w'] => some 2
  | ['x'] => some 1
  | ['-'] => some 0
  | _ => none

/-- Bits of one group that must carry the given prefix. -/
def groupBits (prefixChar : Char) : List Char → Option Nat
  | c :: ':' :: spec => if c == prefixChar then symbolicBits spec else none
  | _ => none

/-- Read the symbolic form `u:<p>;g:<p>;o:<p>`. -/
def parseSymbolic (value : String) : Outcome Nat :=
  let invalid := fun reason => Except.error (Failure.invalidPermission value reason)
  if value.isEmpty then invalid "no permissions"
  else
    match splitChars ';' value.toList with
    | [user, group, other] =>
        match groupBits 'u' user, groupBits 'g' group, groupBits 'o' other with
        | some u, some g, some o =>
            let mode := u * 64 + g * 8 + o
            if mode == 0 then invalid "no permissions" else .ok mode
        | _, _, _ => invalid symbolicSyntax
    | _ => invalid symbolicSyntax

/-- Read a permission in either form; text starting with `0o` is octal. -/
def parsePermission (value : String) : Outcome Nat :=
  if startsWith value "0o" then parseOctal value else parseSymbolic value

/-- A mode as `0o` followed by at least three octal digits. -/
def renderMode (mode : Nat) : String :=
  let digits := Nat.toDigits 8 mode
  "0o" ++ String.ofList (List.replicate (3 - digits.length) '0' ++ digits)

/-- Octal digits of a mode, without prefix or padding. -/
def octalDigits (mode : Nat) : String := String.ofList (Nat.toDigits 8 mode)

end BackupRotation.Settings
