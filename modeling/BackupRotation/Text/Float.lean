import BackupRotation.Text.Utf8
/-!
# Binary floating point

Some of the numbers the program meets are read and written the way C does
with `double`: a size given with a fraction is multiplied in floating point
and then cut to an integer, and `printf` conversions such as `%f` and `%e`
read their argument with `strtod` and print its exact value rounded to the
digits asked for.

A value here is a sign and a magnitude that is finite, infinite or not a
number. A finite magnitude is `mantissa * 2 ^ exponent` with a mantissa
below `2 ^ 53` and an exponent no smaller than `-1074`, which is exactly the
set of IEEE binary64 magnitudes. Every operation computes its result
exactly as a fraction and then rounds it once to the nearest such value,
ties going to the even mantissa, as the hardware does. Decimal output
rounds the exact binary value the same way.
-/

namespace BackupRotation.Text

/-- The magnitude of a binary64 value. -/
inductive Magnitude where
  | finite (mantissa : Nat) (exponent : Int)
  | infinite
  | notANumber
deriving DecidableEq, Repr

/-- A binary64 value. -/
structure Binary64 where
  negative : Bool := false
  magnitude : Magnitude
deriving DecidableEq, Repr

/-- The quotient and remainder of `num * 2 ^ shift` by `den`, with the
divisor used; a negative shift multiplies the divisor instead. -/
def scaledDivision (num den : Nat) (shift : Int) : Nat × Nat × Nat :=
  if shift ≥ 0 then
    let scaled := num * Nat.pow 2 shift.toNat
    (scaled / den, scaled % den, den)
  else
    let divisor := den * Nat.pow 2 (-shift).toNat
    (num / divisor, num % divisor, divisor)

/-- Round a quotient whose remainder is `rest` out of `divisor`: up when
the remainder is more than half, and at exactly half when that makes the
quotient even. -/
def roundHalfEven (quotient rest divisor : Nat) : Nat :=
  if 2 * rest > divisor || (2 * rest == divisor && quotient % 2 == 1) then quotient + 1 else quotient

/-- The magnitude nearest to `num / den`. The scale is chosen so that the
quotient has 53 bits, or fewer for the smallest exponents; a rounding that
carries into a 54th bit is renormalized, and a result from `2 ^ 1024` up is
infinite. -/
def nearestMagnitude (num den : Nat) : Magnitude :=
  if num == 0 || den == 0 then .finite 0 0
  else
    let estimate : Int := 52 - ((Nat.log2 num : Int) - (Nat.log2 den : Int))
    let (first, _, _) := scaledDivision num den estimate
    let shift := min (if first < Nat.pow 2 52 then estimate + 1 else estimate) 1074
    let (quotient, rest, divisor) := scaledDivision num den shift
    let rounded := roundHalfEven quotient rest divisor
    let (mantissa, shift) := if rounded == Nat.pow 2 53 then (Nat.pow 2 52, shift - 1) else (rounded, shift)
    if -shift > 971 then .infinite else .finite mantissa (-shift)

/-- A finite magnitude as a fraction. -/
def fractionOf (mantissa : Nat) (exponent : Int) : Nat × Nat :=
  if exponent ≥ 0 then (mantissa * Nat.pow 2 exponent.toNat, 1) else (mantissa, Nat.pow 2 (-exponent).toNat)

namespace Binary64

/-- The value of a natural number, rounded. -/
def ofNat (value : Nat) : Binary64 := { magnitude := nearestMagnitude value 1 }

/-- The product, rounded once. -/
def mul (a b : Binary64) : Binary64 :=
  let negative := a.negative != b.negative
  match a.magnitude, b.magnitude with
  | .finite m e, .finite n f =>
      let (num, den) := fractionOf (m * n) (e + f)
      { negative := negative, magnitude := nearestMagnitude num den }
  | .notANumber, _ | _, .notANumber => { magnitude := .notANumber }
  | .infinite, .finite 0 _ | .finite 0 _, .infinite => { magnitude := .notANumber }
  | _, _ => { negative := negative, magnitude := .infinite }

/-- The integer part, cut toward zero; none for infinities and NaN. -/
def truncate? (value : Binary64) : Option Int :=
  match value.magnitude with
  | .finite m e =>
      let (num, den) := fractionOf m e
      let whole : Int := num / den
      some (if value.negative then -whole else whole)
  | _ => none

/-- The integer part as a conversion to a 64-bit signed integer gives it:
a value out of range, infinite or not a number gives the smallest
integer, as the machine's conversion does. -/
def truncateToInt64 (value : Binary64) : Int :=
  match value.truncate? with
  | some whole =>
      if -9223372036854775808 ≤ whole && whole ≤ 9223372036854775807 then whole
      else -9223372036854775808
  | none => -9223372036854775808

/-- Whether the value is zero. -/
def isZero (value : Binary64) : Bool :=
  match value.magnitude with
  | .finite 0 _ => true
  | _ => false

end Binary64

/-! ## Reading -/

/-- Whether a byte is C white space. -/
def isCSpaceByte (byte : UInt8) : Bool := byte == 0x20 || (0x09 ≤ byte && byte ≤ 0x0D)

/-- The value of a hexadecimal digit. -/
def hexDigitValue? (byte : UInt8) : Option Nat :=
  if 0x30 ≤ byte && byte ≤ 0x39 then some (byte.toNat - 0x30)
  else if 0x61 ≤ byte && byte ≤ 0x66 then some (byte.toNat - 0x61 + 10)
  else if 0x41 ≤ byte && byte ≤ 0x46 then some (byte.toNat - 0x41 + 10)
  else none

/-- Read digits of a base at the front: their value, how many, and the rest. -/
def readRadixDigits (base : Nat) (digit : UInt8 → Option Nat) : Bytes → Nat × Nat × Bytes
  | byte :: rest =>
      match digit byte with
      | some value =>
          let (more, count, tail) := readRadixDigits base digit rest
          (value * Nat.pow base count + more, count + 1, tail)
      | none => (0, 0, byte :: rest)
  | [] => (0, 0, [])

/-- The value of a decimal digit. -/
def decimalDigitValue? (byte : UInt8) : Option Nat :=
  if 0x30 ≤ byte && byte ≤ 0x39 then some (byte.toNat - 0x30) else none

/-- Lower-case an ASCII letter. -/
def lowerByte (byte : UInt8) : UInt8 := if 0x41 ≤ byte && byte ≤ 0x5A then byte + 0x20 else byte

/-- Whether the bytes start with a word, ignoring case. -/
def startsWithWord (word : String) (bytes : Bytes) : Bool :=
  (encode word).isPrefixOf (bytes.map lowerByte)

/-- An exponent after `e` or `p`: a sign and digits; none when no digit
follows, so that the letter is not part of the number. -/
def readExponent (bytes : Bytes) : Option (Int × Bytes) :=
  let (negative, rest) := match bytes with
    | 0x2D :: rest => (true, rest)
    | 0x2B :: rest => (false, rest)
    | _ => (false, bytes)
  match readRadixDigits 10 decimalDigitValue? rest with
  | (_, 0, _) => none
  | (value, _, tail) => some (if negative then -(value : Int) else value, tail)

/-- The magnitude of `digits * base ^ power`, rounded. A value whose
leading digit lies further than any binary64 value reaches is infinite or
zero at once, so the exact fraction is never built for it. -/
def scaledMagnitude (digits : Nat) (base : Nat) (power : Int) : Magnitude :=
  let size : Int := if base == 2 then Nat.log2 digits + 1 else (toString digits).length
  let reach : Int := if base == 2 then 1200 else 400
  if digits == 0 then .finite 0 0
  else if power + size > reach then .infinite
  else if power + size < -reach then .finite 0 0
  else if power ≥ 0 then nearestMagnitude (digits * Nat.pow base power.toNat) 1
  else nearestMagnitude digits (Nat.pow base (-power).toNat)

/-- Whether a rounded result left the range: a finite input that became
infinite, or a nonzero one that became zero or lost precision below the
normal range. -/
def leftRange (digits : Nat) (magnitude : Magnitude) : Bool :=
  match magnitude with
  | .infinite => true
  | .finite m _ => digits != 0 && m < Nat.pow 2 52
  | .notANumber => false

/-- What C's `strtod` reads at the front of bytes: the value, the bytes
after it, and whether the value was out of range; none when no number
starts there. Leading white space and a sign are accepted, then a decimal
number with an optional fraction and exponent, a hexadecimal one after
`0x` with a binary exponent after `p`, `inf`, `infinity` or `nan`. -/
def readCDouble (text : Bytes) : Option (Binary64 × Bytes × Bool) :=
  let text := text.dropWhile isCSpaceByte
  let (negative, text) := match text with
    | 0x2D :: rest => (true, rest)
    | 0x2B :: rest => (false, rest)
    | _ => (false, text)
  if startsWithWord "infinity" text then
    some ({ negative := negative, magnitude := .infinite }, text.drop 8, false)
  else if startsWithWord "inf" text then
    some ({ negative := negative, magnitude := .infinite }, text.drop 3, false)
  else if startsWithWord "nan" text then
    let rest := text.drop 3
    let rest := match rest with
      | 0x28 :: inside =>
          let body := inside.takeWhile fun b => (decimalDigitValue? b).isSome ||
            (0x41 ≤ b && b ≤ 0x5A) || (0x61 ≤ b && b ≤ 0x7A) || b == 0x5F
          match inside.drop body.length with
          | 0x29 :: after => after
          | _ => rest
      | _ => rest
    some ({ negative := negative, magnitude := .notANumber }, rest, false)
  else
    let hex := match text with
      | 0x30 :: x :: rest =>
          if lowerByte x == 0x78 then
            let (whole, wholeCount, afterWhole) := readRadixDigits 16 hexDigitValue? rest
            let (fraction, fractionCount, afterFraction) := match afterWhole with
              | 0x2E :: more => readRadixDigits 16 hexDigitValue? more
              | _ => (0, 0, afterWhole)
            if wholeCount + fractionCount == 0 then none
            else
              let afterFraction := if fractionCount == 0 then
                  (match afterWhole with
                    | 0x2E :: more => more
                    | _ => afterWhole)
                else afterFraction
              let (power, tail) := match afterFraction with
                | p :: more => if lowerByte p == 0x70 then (readExponent more).getD (0, afterFraction)
                               else (0, afterFraction)
                | [] => (0, [])
              let digits := whole * Nat.pow 16 fractionCount + fraction
              let magnitude := scaledMagnitude digits 2 (power - 4 * fractionCount)
              some ({ negative := negative, magnitude := magnitude }, tail, leftRange digits magnitude)
          else none
      | _ => none
    match hex with
    | some read => some read
    | none =>
        let (whole, wholeCount, afterWhole) := readRadixDigits 10 decimalDigitValue? text
        let (fraction, fractionCount, afterFraction) := match afterWhole with
          | 0x2E :: more => readRadixDigits 10 decimalDigitValue? more
          | _ => (0, 0, afterWhole)
        if wholeCount + fractionCount == 0 then none
        else
          let afterFraction := if fractionCount == 0 then
              (match afterWhole with
                | 0x2E :: more => more
                | _ => afterWhole)
            else afterFraction
          let (power, tail) := match afterFraction with
            | e :: more => if lowerByte e == 0x65 then (readExponent more).getD (0, afterFraction)
                           else (0, afterFraction)
            | [] => (0, [])
          let digits := whole * Nat.pow 10 fractionCount + fraction
          let magnitude := scaledMagnitude digits 10 (power - fractionCount)
          some ({ negative := negative, magnitude := magnitude }, tail, leftRange digits magnitude)

/-! ## Writing -/

/-- The decimal digits of a number, at least `width` of them. -/
def paddedDigits (value width : Nat) : String :=
  let digits := toString value
  String.ofList (List.replicate (width - digits.length) '0') ++ digits

/-- The power of ten of the leading digit of a positive fraction: the `e`
with `10 ^ e ≤ num / den < 10 ^ (e + 1)`. The estimate from the digit
counts is off by at most one. -/
def decimalExponent (num den : Nat) : Int :=
  let estimate : Int := ((toString num).length : Int) - ((toString den).length : Int)
  let atLeast := fun (e : Int) =>
    if e ≥ 0 then num ≥ den * Nat.pow 10 e.toNat else num * Nat.pow 10 (-e).toNat ≥ den
  if !atLeast estimate then estimate - 1
  else if atLeast (estimate + 1) then estimate + 1
  else estimate

/-- A fraction times `10 ^ power`, rounded to an integer, ties to even. -/
def roundScaled (num den : Nat) (power : Int) : Nat :=
  if power ≥ 0 then
    let scaled := num * Nat.pow 10 power.toNat
    roundHalfEven (scaled / den) (scaled % den) den
  else
    let divisor := den * Nat.pow 10 (-power).toNat
    roundHalfEven (num / divisor) (num % divisor) divisor

/-- The digits of `%f` for a non-negative fraction: the integer part, and
`precision` digits after the point; the point is left out with no digits
after it unless `alternate`. -/
def fixedText (num den : Nat) (precision : Nat) (alternate : Bool) : String :=
  let scaled := roundScaled num den precision
  let text := paddedDigits scaled (precision + 1)
  let whole := text.take (text.length - precision)
  let fraction := text.drop (text.length - precision)
  if precision == 0 then whole.toString ++ (if alternate then "." else "")
  else whole.toString ++ "." ++ fraction.toString

/-- The significant digits and decimal exponent of a fraction rounded to
`precision + 1` significant digits. -/
def scientificParts (num den : Nat) (precision : Nat) : Nat × Int :=
  if num == 0 then (0, 0)
  else
    let exponent := decimalExponent num den
    let digits := roundScaled num den ((precision : Int) - exponent)
    if digits ≥ Nat.pow 10 (precision + 1) then (digits / 10, exponent + 1) else (digits, exponent)

/-- The exponent part of `%e`: the letter, a sign and at least two digits. -/
def exponentText (upper : Bool) (exponent : Int) : String :=
  (if upper then "E" else "e") ++ (if exponent < 0 then "-" else "+") ++ paddedDigits exponent.natAbs 2

/-- The digits of `%e` for a non-negative fraction. -/
def scientificText (num den : Nat) (precision : Nat) (alternate upper : Bool) : String :=
  let (digits, exponent) := scientificParts num den precision
  let text := paddedDigits digits (precision + 1)
  let lead := text.take 1
  let rest := text.drop 1
  let body := if precision == 0 then lead.toString ++ (if alternate then "." else "")
    else lead.toString ++ "." ++ rest.toString
  body ++ exponentText upper exponent

/-- Drop trailing zeros after a decimal point, and the point if nothing
follows it. -/
def trimFraction (text : String) : String :=
  if text.contains '.' then
    let trimmed := (text.toList.reverse.dropWhile (· == '0')).reverse
    let trimmed := match trimmed.reverse with
      | '.' :: rest => rest.reverse
      | _ => trimmed
    String.ofList trimmed
  else text

/-- The digits of `%g` for a non-negative fraction: `%e` when the exponent
is below `-4` or not below the precision, `%f` otherwise, with trailing
zeros removed unless `alternate`. -/
def generalText (num den : Nat) (precision : Nat) (alternate upper : Bool) : String :=
  let precision := if precision == 0 then 1 else precision
  let (_, exponent) := scientificParts num den (precision - 1)
  if exponent < -4 || exponent ≥ precision then
    let text := scientificText num den (precision - 1) alternate upper
    if alternate then text
    else
      let cut := text.toList.findIdx (fun c => c == 'e' || c == 'E')
      trimFraction (String.ofList (text.toList.take cut)) ++ String.ofList (text.toList.drop cut)
  else
    let text := fixedText num den (precision - 1 - exponent).toNat alternate
    if alternate then text else trimFraction text

/-- Lower-case hexadecimal digits of a number, at least `width` of them. -/
def hexText (value width : Nat) : String :=
  let digits := String.ofList (Nat.toDigits 16 value)
  String.ofList (List.replicate (width - digits.length) '0') ++ digits

/-- The digits of `%a` for a finite non-negative magnitude: a leading `1`
(or `0` for zero and the smallest values), hexadecimal digits after the
point, as many as the mantissa needs or `precision`, and a binary
exponent. -/
def hexFloatText (mantissa : Nat) (exponent : Int) (precision : Option Nat) (alternate upper : Bool) :
    String :=
  let (lead, fraction, power) : Nat × Nat × Int :=
    if mantissa == 0 then (0, 0, 0)
    else if mantissa < Nat.pow 2 52 then (0, mantissa, -1022)
    else (1, mantissa - Nat.pow 2 52, exponent + 52)
  let (lead, digits, count) : Nat × Nat × Nat := match precision with
    | none =>
        let full := hexText fraction 13
        let trimmed := (full.toList.reverse.dropWhile (· == '0')).reverse
        (lead, fraction / Nat.pow 16 (13 - trimmed.length), trimmed.length)
    | some p =>
        if p ≥ 13 then (lead, fraction * Nat.pow 16 (p - 13), p)
        else
          let divisor := Nat.pow 16 (13 - p)
          let rounded := roundHalfEven (fraction / divisor) (fraction % divisor) divisor
          if rounded ≥ Nat.pow 16 p then (lead + 1, rounded - Nat.pow 16 p, p) else (lead, rounded, p)
  let body := toString lead ++ (if count == 0 then (if alternate then "." else "")
    else "." ++ hexText digits count)
  let text := "0x" ++ body ++ "p" ++ (if power < 0 then "-" else "+") ++ toString power.natAbs
  if upper then text.map Char.toUpper else text

/-- A floating conversion of `printf` for a value: `f`, `F`, `e`, `E`,
`g`, `G`, `a` or `A`, with the precision given (6 when none, except for
`a`). The sign is left to the caller; infinities and NaN are `inf` and
`nan`, upper-cased for the upper-case letters. -/
def floatBody (conversion : Char) (value : Binary64) (precision : Option Nat) (alternate : Bool) :
    String :=
  let upper := conversion == 'F' || conversion == 'E' || conversion == 'G' || conversion == 'A'
  match value.magnitude with
  | .infinite => if upper then "INF" else "inf"
  | .notANumber => if upper then "NAN" else "nan"
  | .finite mantissa exponent =>
      let (num, den) := fractionOf mantissa exponent
      let p := precision.getD 6
      if conversion == 'f' || conversion == 'F' then fixedText num den p alternate
      else if conversion == 'e' || conversion == 'E' then scientificText num den p alternate upper
      else if conversion == 'g' || conversion == 'G' then generalText num den p alternate upper
      else hexFloatText mantissa exponent precision alternate upper

end BackupRotation.Text
