import BackupRotation.Process.Shell.Syntax
/-!
# Shell arithmetic

The arithmetic of `$((...))`: signed 64-bit integers that wrap around,
with the C operators the shell knows. From loosest to tightest binding:
assignments (`=` and the compound ones such as `+=`), the conditional
`?:`, `||`, `&&`, `|`, `^`, `&`, equality, comparison, shifts, `+ -`, and
`* / %`; the unary `- + ! ~` bind tightest of all. Binary operators of one
level group to the left; assignments and conditionals to the right.
`&&`, `||` and `?:` evaluate only the operands they need: the others are
read but not evaluated, so their assignments do not happen and their
division by zero is no error.

Numbers are read as C's `strtoimax` reads them with base 0: decimal,
octal after a leading `0`, hexadecimal after `0x`; a number too large is
the largest one. A variable's value counts as a number when it is one,
blanks around it allowed, and as zero when unset or empty; any other value
is an error, as is a number too large.

Errors name the expression: `arithmetic expression: expecting primary:
"1 +"`.
-/

namespace BackupRotation.Process

open Text

/-- A signed 64-bit value of an integer, wrapping around. -/
def wrapInt64 (value : Int) : Int :=
  let modulus : Int := 18446744073709551616
  let half : Int := 9223372036854775808
  (value + half) % modulus - half

/-- The tokens of an arithmetic expression. -/
inductive ArithToken where
  | number (value : Int)
  | name (name : Bytes)
  /-- An operator, as written. -/
  | op (text : String)
  | openParen
  | closeParen
  | question
  | colon
  /-- A byte no token starts with. -/
  | bad
  | finish
deriving DecidableEq, Repr

/-- Operators of two or three bytes, longest first, then those of one. -/
def arithOperators : List String :=
  ["<<=", ">>=", "<=", ">=", "==", "!=", "&&", "||", "<<", ">>", "+=", "-=", "*=", "/=", "%=", "&=",
   "^=", "|=", "<", ">", "=", "+", "-", "*", "/", "%", "&", "^", "|", "!", "~"]

/-- The number at the front of some bytes, read as `strtoimax` with base
0 reads its digits, and the bytes after it; none when no digit is there. -/
def readBaseNumber (text : Bytes) : Option (Nat × Bytes) :=
  let digitsOf := fun (base : Nat) (bytes : Bytes) =>
    let digit := fun (byte : UInt8) =>
      let value :=
        if 0x30 ≤ byte && byte ≤ 0x39 then byte.toNat - 0x30
        else if 0x61 ≤ byte && byte ≤ 0x7A then byte.toNat - 0x61 + 10
        else if 0x41 ≤ byte && byte ≤ 0x5A then byte.toNat - 0x41 + 10
        else 36
      if value < base then some value else none
    let taken := bytes.takeWhile fun byte => (digit byte).isSome
    (taken.foldl (fun acc byte => acc * base + (digit byte).getD 0) 0, taken.length, bytes.drop taken.length)
  match text with
  | 0x30 :: x :: rest =>
      if x == 0x78 || x == 0x58 then
        match digitsOf 16 rest with
        | (_, 0, _) => some (0, x :: rest)
        | (value, _, after) => some (value, after)
      else
        let (value, _, after) := digitsOf 8 (x :: rest)
        some (value, after)
  | _ =>
      match digitsOf 10 text with
      | (_, 0, _) => none
      | (value, _, after) => some (value, after)

/-- The number at the front of an expression, clamped to the largest
signed 64-bit value, and the bytes after it. -/
def readArithNumber (text : Bytes) : Option (Int × Bytes) :=
  (readBaseNumber text).map fun (value, after) => ((min value 9223372036854775807 : Nat), after)

/-- Cut an arithmetic expression into tokens. -/
def arithTokens : Nat → Bytes → List ArithToken
  | 0, _ => [.finish]
  | fuel + 1, text =>
      match text with
      | [] => [.finish]
      | byte :: rest =>
          if byte == 0x20 || byte == 0x09 || byte == 0x0A then arithTokens fuel rest
          else if isDigitByte byte then
            match readArithNumber text with
            | some (value, after) => .number value :: arithTokens fuel after
            | none => [.bad]
          else if isNameStart byte then
            let name := text.takeWhile isNameByte
            .name name :: arithTokens fuel (text.drop name.length)
          else if byte == 0x28 then .openParen :: arithTokens fuel rest
          else if byte == 0x29 then .closeParen :: arithTokens fuel rest
          else if byte == 0x3F then .question :: arithTokens fuel rest
          else if byte == 0x3A then .colon :: arithTokens fuel rest
          else
            match arithOperators.find? fun op => text.take op.length == encode op with
            | some op => .op op :: arithTokens fuel (text.drop op.length)
            | none => [.bad]

/-- How tightly a binary operator binds: lower binds tighter. -/
def binaryLevel : String → Option Nat
  | "*" | "/" | "%" => some 0
  | "+" | "-" => some 1
  | "<<" | ">>" => some 2
  | "<" | "<=" | ">" | ">=" => some 3
  | "==" | "!=" => some 4
  | "&" => some 5
  | "^" => some 6
  | "|" => some 7
  | _ => none

/-- The binary operator an assignment operator applies, `=` none. -/
def compoundOperator : String → Option (Option String)
  | "=" => some none
  | "+=" => some (some "+") | "-=" => some (some "-") | "*=" => some (some "*")
  | "/=" => some (some "/") | "%=" => some (some "%") | "<<=" => some (some "<<")
  | ">>=" => some (some ">>") | "&=" => some (some "&") | "^=" => some (some "^")
  | "|=" => some (some "|")
  | _ => none

/-- The value of a shift count as the machine uses it: its low six bits. -/
def shiftCount (count : Int) : Nat := (count % 64).toNat

/-- The 64 bits of a signed value, as an unsigned number. -/
def toBits (value : Int) : Nat := (value % 18446744073709551616).toNat

/-- The signed value of 64 bits. -/
def fromBits (bits : Nat) : Int := wrapInt64 bits

/-- Apply a binary operator, as C does on 64-bit values. -/
def applyBinary (op : String) (a b : Int) : Except String Int :=
  match op with
  | "*" => .ok (wrapInt64 (a * b))
  | "/" => if b == 0 then .error "division by zero" else .ok (wrapInt64 (a.tdiv b))
  | "%" => if b == 0 then .error "division by zero" else .ok (wrapInt64 (a.tmod b))
  | "+" => .ok (wrapInt64 (a + b))
  | "-" => .ok (wrapInt64 (a - b))
  | "<<" => .ok (wrapInt64 (a * Int.pow 2 (shiftCount b)))
  | ">>" => .ok (a / Int.pow 2 (shiftCount b))
  | "<" => .ok (if a < b then 1 else 0)
  | "<=" => .ok (if a ≤ b then 1 else 0)
  | ">" => .ok (if a > b then 1 else 0)
  | ">=" => .ok (if a ≥ b then 1 else 0)
  | "==" => .ok (if a == b then 1 else 0)
  | "!=" => .ok (if a != b then 1 else 0)
  | "&" => .ok (fromBits (toBits a &&& toBits b))
  | "^" => .ok (fromBits (toBits a ^^^ toBits b))
  | "|" => .ok (fromBits (toBits a ||| toBits b))
  | _ => .ok 0

/-- The variables an evaluation sees: the shell's values, then those
assigned so far, newest first. -/
structure ArithScope where
  lookup : Bytes → Option Bytes
  readonly : Bytes → Bool
  assigned : List (Bytes × Int) := []

/-- Whether a byte is C white space. -/
def isCSpaceByte (byte : UInt8) : Bool := byte == 0x20 || (0x09 ≤ byte && byte ≤ 0x0D)

/-- A value read as a number the way the shell reads a number it needs:
C's `strtoimax` with base `base` (0 for any of the C forms), blanks
allowed around it. Out of the signed 64-bit range, or with other text
after it, it is an illegal number; so is an empty value unless `base` is 0,
when it is zero. -/
def shellNumber (base : Nat) (value : Bytes) : Except String Int :=
  let illegal : Except String Int := .error ("Illegal number: " ++ lossy value)
  let trimmed := value.dropWhile isCSpaceByte
  let (negative, digits) := match trimmed with
    | 0x2D :: rest => (true, rest)
    | 0x2B :: rest => (false, rest)
    | _ => (false, trimmed)
  let read := if base == 10 then
      let taken := digits.takeWhile isDigitByte
      if taken.isEmpty then none
      else some (taken.foldl (fun acc byte => acc * 10 + (byte.toNat - 0x30)) 0, digits.drop taken.length)
    else readBaseNumber digits
  match read with
  | some (magnitude, after) =>
      if !after.all isCSpaceByte then illegal
      else if negative then
        if magnitude > 9223372036854775808 then illegal else .ok (-(magnitude : Int))
      else if magnitude > 9223372036854775807 then illegal
      else .ok magnitude
  | none => if base == 0 && value.all isCSpaceByte then .ok 0 else illegal

namespace ArithScope

/-- The value of a variable as a number. -/
def value (scope : ArithScope) (name : Bytes) : Except String Int :=
  match scope.assigned.find? (·.1 == name) with
  | some (_, value) => .ok value
  | none => shellNumber 0 ((scope.lookup name).getD [])

/-- Assign a variable. -/
def assign (scope : ArithScope) (name : Bytes) (value : Int) : Except String ArithScope :=
  if scope.readonly name then .error (lossy name ++ ": is read only")
  else .ok { scope with assigned := (name, value) :: scope.assigned.filter (·.1 != name) }

end ArithScope

/-- The state of an evaluation: the tokens left and the variables. -/
abbrev ArithRun := List ArithToken × ArithScope

/-- An error of the expression's form. -/
def ArithRun.fail {α : Type} (message : String) : Except String α := .error ("\x00" ++ message)

/-- The next token. -/
def peekToken (tokens : List ArithToken) : ArithToken := tokens.headD .finish

mutual

/-- An assignment, or a conditional expression. Nothing is evaluated
unless `live`. -/
def evalAssignment : Nat → Bool → ArithRun → Except String (Int × ArithRun)
  | 0, _, _ => ArithRun.fail "expression too deep"
  | fuel + 1, live, (tokens, scope) =>
      match tokens with
      | .name name :: .op op :: rest =>
          match compoundOperator op with
          | some compound => do
              let (value, (after, scope)) ← evalAssignment fuel live (rest, scope)
              if !live then pure (value, (after, scope))
              else
                let result ← match compound with
                  | none => pure value
                  | some binary => do applyBinary binary (← scope.value name) value
                let scope ← scope.assign name result
                pure (result, (after, scope))
          | none => evalConditional fuel live (tokens, scope)
      | _ => evalConditional fuel live (tokens, scope)

/-- A conditional expression `a ? b : c`, or what it is made of. -/
def evalConditional : Nat → Bool → ArithRun → Except String (Int × ArithRun)
  | 0, _, _ => ArithRun.fail "expression too deep"
  | fuel + 1, live, run => do
      let (test, (tokens, scope)) ← evalOr fuel live run
      match tokens with
      | .question :: rest => do
          let (yes, (after, scope)) ← evalAssignment fuel (live && test != 0) (rest, scope)
          match after with
          | .colon :: more => do
              let (no, (tail, scope)) ← evalConditional fuel (live && test == 0) (more, scope)
              pure (if test != 0 then yes else no, (tail, scope))
          | _ => ArithRun.fail "expecting ':'"
      | _ => pure (test, (tokens, scope))

/-- Operands joined by `||`. -/
def evalOr : Nat → Bool → ArithRun → Except String (Int × ArithRun)
  | 0, _, _ => ArithRun.fail "expression too deep"
  | fuel + 1, live, run => do
      let (first, (tokens, scope)) ← evalAnd fuel live run
      match tokens with
      | .op "||" :: rest => do
          let (second, after) ← evalOr fuel (live && first == 0) (rest, scope)
          pure (if first != 0 || second != 0 then 1 else 0, after)
      | _ => pure (first, (tokens, scope))

/-- Operands joined by `&&`. -/
def evalAnd : Nat → Bool → ArithRun → Except String (Int × ArithRun)
  | 0, _, _ => ArithRun.fail "expression too deep"
  | fuel + 1, live, run => do
      let (first, (tokens, scope)) ← evalBinary fuel live 8 run
      match tokens with
      | .op "&&" :: rest => do
          let (second, after) ← evalAnd fuel (live && first != 0) (rest, scope)
          pure (if first != 0 && second != 0 then 1 else 0, after)
      | _ => pure (first, (tokens, scope))

/-- Operands joined by binary operators binding tighter than `level`. -/
def evalBinary : Nat → Bool → Nat → ArithRun → Except String (Int × ArithRun)
  | 0, _, _, _ => ArithRun.fail "expression too deep"
  | fuel + 1, live, level, run => do
      let (first, after) ← evalUnary fuel live run
      evalOperators fuel live level first after

/-- Apply the binary operators that follow a first operand, as long as
they bind tighter than `level`. -/
def evalOperators : Nat → Bool → Nat → Int → ArithRun → Except String (Int × ArithRun)
  | 0, _, _, _, _ => ArithRun.fail "expression too deep"
  | fuel + 1, live, level, first, (tokens, scope) =>
      match tokens with
      | .op op :: rest =>
          match binaryLevel op with
          | some opLevel =>
              if opLevel < level then do
                let (second, after) ← evalBinary fuel live opLevel (rest, scope)
                let value ← if live then applyBinary op first second else pure 0
                evalOperators fuel live level value after
              else pure (first, (tokens, scope))
          | none => pure (first, (tokens, scope))
      | _ => pure (first, (tokens, scope))

/-- A unary expression: a primary after any number of unary operators. -/
def evalUnary : Nat → Bool → ArithRun → Except String (Int × ArithRun)
  | 0, _, _ => ArithRun.fail "expression too deep"
  | fuel + 1, live, (tokens, scope) =>
      match tokens with
      | .op "-" :: rest => do
          let (value, after) ← evalUnary fuel live (rest, scope)
          pure (wrapInt64 (-value), after)
      | .op "+" :: rest => evalUnary fuel live (rest, scope)
      | .op "!" :: rest => do
          let (value, after) ← evalUnary fuel live (rest, scope)
          pure (if value == 0 then 1 else 0, after)
      | .op "~" :: rest => do
          let (value, after) ← evalUnary fuel live (rest, scope)
          pure (wrapInt64 (-value - 1), after)
      | .openParen :: rest => do
          let (value, (after, scope)) ← evalAssignment fuel live (rest, scope)
          match after with
          | .closeParen :: more => pure (value, (more, scope))
          | _ => ArithRun.fail "expecting ')'"
      | .number value :: rest => pure (value, (rest, scope))
      | .name name :: rest =>
          if live then do
            let value ← scope.value name
            pure (value, (rest, scope))
          else pure (0, (rest, scope))
      | _ => ArithRun.fail "expecting primary"

end

/-- Evaluate an arithmetic expression: its value and the variables it
assigned, oldest first, or the message of the error. -/
def evalArithmetic (text : Bytes) (lookup : Bytes → Option Bytes) (readonly : Bytes → Bool) :
    Except String (Int × List (Bytes × Int)) :=
  let tokens := arithTokens (text.length + 1) text
  let scope : ArithScope := { lookup := lookup, readonly := readonly }
  let quote := fun (message : String) =>
    "arithmetic expression: " ++ message ++ ": \"" ++ lossy text ++ "\""
  match evalAssignment (4 * tokens.length + 8) true (tokens, scope) with
  | .ok (value, (rest, scope)) =>
      match rest with
      | [.finish] | [] => .ok (value, scope.assigned.reverse)
      | _ => .error (quote "expecting EOF")
  | .error message =>
      match message.toList with
      | '\x00' :: rest => .error (quote (String.ofList rest))
      | _ => .error message

end BackupRotation.Process
