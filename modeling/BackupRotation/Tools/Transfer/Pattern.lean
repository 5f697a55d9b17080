import BackupRotation.Files.PathName
/-!
# Wildcard patterns of filter rules

A filter pattern is matched byte by byte against a path relative to the
transfer root:

* `?` matches one byte other than a slash;
* `*` matches a run of bytes without a slash, while two or more stars in a
  row match any run, slashes included;
* `[...]` matches one byte other than a slash that is (or, after `!` or `^`,
  is not) among its members: single bytes, ranges `a-z`, classes such as
  `[:digit:]`, and bytes made literal by a backslash;
* a backslash makes the byte after it literal;
* every other byte matches itself.

The matcher reports more than yes or no. `abandon` says that the text ran
out while the pattern still wanted a byte, or that the pattern itself is
malformed: no later starting point can do better, so a search over starting
points stops there. `backToStars` says that a single star met a slash: only
an enclosing double star can still help, by trying a later position.

Every function here recurses on the pattern (through a fuel argument no
larger than the pattern's length plus one) or on the text, so all of them
are total.
-/

namespace BackupRotation.Tools

open Files Text

/-- What trying a pattern at one place of a text gives. -/
inductive WildOutcome where
  | matched
  | failed
  /-- The text ended early or the pattern is malformed; stop searching. -/
  | abandon
  /-- A single star met a slash; only an enclosing double star may retry. -/
  | backToStars
deriving DecidableEq, Repr

/-- The star byte. -/
def starByte : UInt8 := 0x2A

/-- The question mark byte. -/
def questionByte : UInt8 := 0x3F

/-- The opening bracket byte. -/
def openBracket : UInt8 := 0x5B

/-- The closing bracket byte. -/
def closeBracket : UInt8 := 0x5D

/-- The backslash byte. -/
def backslashByte : UInt8 := 0x5C

/-- The colon byte. -/
def colonByte : UInt8 := 0x3A

/-- The dash byte. -/
def dashByte : UInt8 := 0x2D

/-- Whether a byte lies between two bounds. -/
def byteWithin (low high : Nat) (byte : UInt8) : Bool := low ≤ byte.toNat && byte.toNat ≤ high

/-- Whether a byte belongs to a named character class, or none when the
name is not one of the twelve classes. Only ASCII bytes belong to any. -/
def classHolds (name : Bytes) (byte : UInt8) : Option Bool :=
  let upper := byteWithin 0x41 0x5A byte
  let lower := byteWithin 0x61 0x7A byte
  let digit := byteWithin 0x30 0x39 byte
  let alpha := upper || lower
  let graph := byteWithin 0x21 0x7E byte
  let n := byte.toNat
  if name == encode "alnum" then some (alpha || digit)
  else if name == encode "alpha" then some alpha
  else if name == encode "blank" then some (n == 0x20 || n == 0x09)
  else if name == encode "cntrl" then some (n < 0x20 || n == 0x7F)
  else if name == encode "digit" then some digit
  else if name == encode "graph" then some graph
  else if name == encode "lower" then some lower
  else if name == encode "print" then some (byteWithin 0x20 0x7E byte)
  else if name == encode "punct" then some (graph && !(alpha || digit))
  else if name == encode "space" then some (n == 0x20 || byteWithin 0x09 0x0D byte)
  else if name == encode "upper" then some upper
  else if name == encode "xdigit" then
    some (digit || byteWithin 0x41 0x46 byte || byteWithin 0x61 0x66 byte)
  else none

/-- Split bytes before the first closing bracket: what comes before it and
what comes after it, or none when there is no closing bracket. -/
def splitAtClose : Bytes → Option (Bytes × Bytes)
  | [] => none
  | byte :: rest =>
      if byte == closeBracket then some ([], rest)
      else (splitAtClose rest).map fun (inside, after) => (byte :: inside, after)

/-- One member of a bracket expression, tried against `byte`: the byte the
member leaves as the start of a possible range (zero after a range or a
class), the pattern after the member, and whether `byte` matched so far.
None means the expression is malformed or unfinished. -/
def readMember (byte : UInt8) (previous : UInt8) (matched : Bool) (member : UInt8) (rest : Bytes) :
    Option (UInt8 × Bytes × Bool) :=
  if member == backslashByte then
    match rest with
    | literal :: after => some (literal, after, matched || byte == literal)
    | [] => none
  else if member == dashByte && previous != 0 && (rest.head?.any fun next => next != closeBracket) then
    match rest with
    | next :: after =>
        if next == backslashByte then
          match after with
          | literal :: more => some (0, more, matched || (previous ≤ byte && byte ≤ literal))
          | [] => none
        else some (0, after, matched || (previous ≤ byte && byte ≤ next))
    | [] => none
  else if member == openBracket && rest.head? == some colonByte then
    match splitAtClose (rest.drop 1) with
    | none => none
    | some (inside, after) =>
        if inside.isEmpty || inside.getLast? != some colonByte then
          some (openBracket, rest, matched || byte == openBracket)
        else
          match classHolds inside.dropLast byte with
          | some holds => some (0, after, matched || holds)
          | none => none
  else some (member, rest, matched || byte == member)

/-- Read the members of a bracket expression from its first one on. The
first member is taken even when it is a closing bracket; after that a
closing bracket ends the expression. Gives whether `byte` matched and the
pattern after the expression. -/
def readMembers (byte : UInt8) : Nat → UInt8 → Bool → Bytes → Option (Bool × Bytes)
  | 0, _, _, _ => none
  | _ + 1, _, _, [] => none
  | fuel + 1, previous, matched, member :: rest =>
      match readMember byte previous matched member rest with
      | none => none
      | some (previous, after, matched) =>
          match after with
          | next :: more => if next == closeBracket then some (matched, more) else readMembers byte fuel previous matched after
          | [] => none

/-- Match a bracket expression, given the pattern after its opening
bracket, against one byte: whether the byte is accepted, and the pattern
after the expression. -/
def matchBracket (byte : UInt8) (body : Bytes) : Option (Bool × Bytes) :=
  let (negated, members) := match body with
    | first :: rest => if first == 0x21 || first == 0x5E then (true, rest) else (false, body)
    | [] => (false, body)
  (readMembers byte (members.length + 1) 0 false members).map fun (matched, after) =>
    (matched != negated && byte != slash, after)

/-- Try what follows a run of stars at each position of the text in turn.
A single star may not pass a slash; a double star may. -/
def starSearch (attempt : Bytes → WildOutcome) (double : Bool) : Bytes → WildOutcome
  | [] => .abandon
  | byte :: more =>
      match attempt (byte :: more) with
      | .failed => if !double && byte == slash then .backToStars else starSearch attempt double more
      | .backToStars => if double then starSearch attempt double more else .backToStars
      | outcome => outcome

/-- Match a pattern against the whole of a text. -/
def wildFrom : Nat → Bytes → Bytes → WildOutcome
  | 0, _, _ => .abandon
  | _ + 1, [], text => if text.isEmpty then .matched else .failed
  | fuel + 1, head :: rest, text =>
      if head == starByte then
        let double := rest.head? == some starByte
        let after := rest.dropWhile (· == starByte)
        if after.isEmpty then
          if double || !text.contains slash then .matched else .failed
        else starSearch (wildFrom fuel after) double text
      else
        match text with
        | [] => .abandon
        | byte :: more =>
            if head == backslashByte then
              match rest with
              | literal :: after => if byte == literal then wildFrom fuel after more else .failed
              | [] => .failed
            else if head == questionByte then
              if byte == slash then .failed else wildFrom fuel rest more
            else if head == openBracket then
              match matchBracket byte rest with
              | none => .abandon
              | some (accepted, after) => if accepted then wildFrom fuel after more else .failed
            else if byte == head then wildFrom fuel rest more
            else .failed

/-- Try a pattern at the start of a text. -/
def wildAt (pattern text : Bytes) : WildOutcome := wildFrom (pattern.length + 1) pattern text

/-- Try a pattern just after each slash of a text, until one try matches or
abandons the search. -/
def afterSlashes (pattern : Bytes) : Bytes → Bool
  | [] => false
  | byte :: more =>
      if byte == slash then
        match wildAt pattern more with
        | .matched => true
        | .abandon => false
        | _ => afterSlashes pattern more
      else afterSlashes pattern more

/-- The last `count` names of a path: the text after its `count`-th slash
from the end, or the whole text when it has exactly one slash fewer; none
when it has fewer names than that. -/
def lastNames (count : Nat) (text : Bytes) : Option Bytes :=
  let slashes := text.count slash
  if count = 0 then none
  else if count ≤ slashes then
    some (((splitSlashes text).drop (slashes + 1 - count)).intersperse [slash]).flatten
  else if count = slashes + 1 then some text
  else none

/-- Where a match may start. -/
inductive MatchStart where
  /-- At the start of the text only. -/
  | first
  /-- At the start or just after any slash. -/
  | anySlash
  /-- At the start of the last so many names. -/
  | lastNames (count : Nat)
deriving DecidableEq, Repr

/-- Whether a wildcard pattern matches a text from the allowed start. -/
def wildMatchFrom (start : MatchStart) (pattern text : Bytes) : Bool :=
  match start with
  | .first => wildAt pattern text == .matched
  | .anySlash =>
      match wildAt pattern text with
      | .matched => true
      | .abandon => false
      | _ => afterSlashes pattern text
  | .lastNames count =>
      match lastNames count text with
      | some tail => wildAt pattern tail == .matched
      | none => false

/-- Whether a pattern without wildcards equals the text from the allowed
start; a literal pattern is never retried after slashes. -/
def literalMatchFrom (start : MatchStart) (pattern text : Bytes) : Bool :=
  match start with
  | .lastNames count => lastNames count text == some pattern
  | _ => pattern == text

end BackupRotation.Tools
