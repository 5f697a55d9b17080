import BackupRotation.Failure
/-!
# Shell patterns

The patterns of `case`, of the trimming expansions and of file names: `*`
matches any run of bytes, `?` any one byte, and a bracket expression one
byte of a set. A set lists bytes, ranges `a-z` and classes `[:alpha:]`; a
leading `!` or `^` takes its complement, and a `]` right after the opening
bracket (and the complement mark) is a member. A bracket that is not closed
stands for itself. Bytes that were quoted in the word stand for themselves,
and so does the byte after an unquoted backslash.

Matching is by bytes, as the shell's C locale has it.
-/

namespace BackupRotation.Process

open Text

/-- A pattern: its bytes, each marked when it was quoted and so stands for
itself. -/
abbrev Pattern := List (UInt8 × Bool)

/-- Whether a byte belongs to a named character class. -/
def classHolds (name : Bytes) (byte : UInt8) : Bool :=
  let upper := 0x41 ≤ byte && byte ≤ 0x5A
  let lower := 0x61 ≤ byte && byte ≤ 0x7A
  let digit := 0x30 ≤ byte && byte ≤ 0x39
  let space := byte == 0x20 || (0x09 ≤ byte && byte ≤ 0x0D)
  let printable := 0x20 ≤ byte && byte ≤ 0x7E
  let text := lossy name
  if text == "alpha" then upper || lower
  else if text == "digit" then digit
  else if text == "alnum" then upper || lower || digit
  else if text == "upper" then upper
  else if text == "lower" then lower
  else if text == "space" then space
  else if text == "blank" then byte == 0x20 || byte == 0x09
  else if text == "punct" then printable && byte != 0x20 && !(upper || lower || digit)
  else if text == "print" then printable
  else if text == "graph" then printable && byte != 0x20
  else if text == "cntrl" then byte < 0x20 || byte == 0x7F
  else if text == "xdigit" then digit || (0x41 ≤ byte && byte ≤ 0x46) || (0x61 ≤ byte && byte ≤ 0x66)
  else false

/-- One member of a bracket expression. -/
inductive Member where
  | range (low high : UInt8)
  | named (name : Bytes)
deriving Repr

/-- Whether a byte belongs to a member. -/
def Member.holds (member : Member) (byte : UInt8) : Bool :=
  match member with
  | .range low high => low ≤ byte && byte ≤ high
  | .named name => classHolds name byte

/-- The byte at the head of a pattern, with the backslash that quotes it
taken away. -/
def unescapeHead : Pattern → Option (UInt8 × Pattern)
  | (0x5C, false) :: (byte, _) :: rest => some (byte, rest)
  | (byte, _) :: rest => some (byte, rest)
  | [] => none

/-- Read the members of a bracket expression up to its closing bracket:
the members and the pattern after the bracket, or none when the bracket
is not closed. `first` is set for the first member, where `]` is a member. -/
def readMembers : Nat → Bool → Pattern → Option (List Member × Pattern)
  | 0, _, _ => none
  | _ + 1, _, [] => none
  | fuel + 1, first, pattern =>
      match pattern with
      | (0x5D, false) :: rest => if first then addMember fuel (.range 0x5D 0x5D) rest else some ([], rest)
      | (0x5B, false) :: (0x3A, false) :: rest =>
          let name := (rest.takeWhile fun (byte, quoted) => quoted || byte != 0x3A).map Prod.fst
          match rest.drop name.length with
          | (0x3A, false) :: (0x5D, false) :: after => addMember fuel (.named name) after
          | _ => addMember fuel (.range 0x5B 0x5B) ((0x3A, false) :: rest)
      | _ =>
          match unescapeHead pattern with
          | some (low, (0x2D, false) :: after) =>
              match after with
              | (0x5D, false) :: _ => addMember fuel (.range low low) ((0x2D, true) :: after)
              | _ =>
                  match unescapeHead after with
                  | some (high, tail) => addMember fuel (.range low high) tail
                  | none => none
          | some (byte, rest) => addMember fuel (.range byte byte) rest
          | none => none
where
  /-- Add a member to those read after it. -/
  addMember (fuel : Nat) (member : Member) (rest : Pattern) : Option (List Member × Pattern) :=
    (readMembers fuel false rest).map fun (members, after) => (member :: members, after)

/-- Read a bracket expression after its opening bracket: whether it is
complemented, its members and the pattern after it. -/
def readBracket (pattern : Pattern) : Option (Bool × List Member × Pattern) :=
  let (complement, rest) := match pattern with
    | (0x21, false) :: rest | (0x5E, false) :: rest => (true, rest)
    | _ => (false, pattern)
  (readMembers (rest.length + 1) true rest).map fun (members, after) => (complement, members, after)

/-- Whether a pattern matches all of some bytes. -/
def matchPattern : Nat → Pattern → Bytes → Bool
  | 0, _, _ => false
  | _ + 1, [], text => text.isEmpty
  | fuel + 1, (0x2A, false) :: rest, text =>
      matchPattern fuel rest text || match text with
        | [] => false
        | _ :: more => matchPattern fuel ((0x2A, false) :: rest) more
  | fuel + 1, (0x3F, false) :: rest, text =>
      match text with
      | [] => false
      | _ :: more => matchPattern fuel rest more
  | fuel + 1, (0x5B, false) :: rest, text =>
      match readBracket rest with
      | some (complement, members, after) =>
          match text with
          | [] => false
          | byte :: more => (members.any (·.holds byte) != complement) && matchPattern fuel after more
      | none =>
          match text with
          | 0x5B :: more => matchPattern fuel rest more
          | _ => false
  | fuel + 1, pattern, text =>
      match unescapeHead pattern, text with
      | some (byte, rest), next :: more => next == byte && matchPattern fuel rest more
      | _, _ => false

/-- Whether a pattern matches bytes. -/
def Pattern.matches (pattern : Pattern) (text : Bytes) : Bool :=
  matchPattern ((pattern.length + 1) * (text.length + 1) + 1) pattern text

/-- Whether a pattern has an unquoted wildcard, so that it can match more
than its own text. -/
def Pattern.hasWildcard (pattern : Pattern) : Bool :=
  pattern.any fun (byte, quoted) => !quoted && (byte == 0x2A || byte == 0x3F || byte == 0x5B)

/-- The literal text a pattern without wildcards stands for. -/
def Pattern.literal : Pattern → Bytes
  | (0x5C, false) :: (byte, _) :: rest => byte :: Pattern.literal rest
  | (byte, _) :: rest => byte :: Pattern.literal rest
  | [] => []

/-- A value with the shortest or longest prefix the pattern matches taken
away; the value itself when none matches. -/
def trimPrefix (pattern : Pattern) (longest : Bool) (value : Bytes) : Bytes :=
  let cuts := (List.range (value.length + 1)).filter fun n => pattern.matches (value.take n)
  match (if longest then cuts.getLast? else cuts.head?) with
  | some n => value.drop n
  | none => value

/-- A value with the shortest or longest suffix the pattern matches taken
away; the value itself when none matches. -/
def trimSuffix (pattern : Pattern) (longest : Bool) (value : Bytes) : Bytes :=
  let cuts := (List.range (value.length + 1)).filter fun n =>
    pattern.matches (value.drop (value.length - n))
  match (if longest then cuts.getLast? else cuts.head?) with
  | some n => value.take (value.length - n)
  | none => value

end BackupRotation.Process
