import BackupRotation.Failure
/-!
# The syntax of shell scripts

Helper programs may be shell scripts, run by the POSIX shell of the
machine. This module reads a script into commands the way that shell does.

Reading goes in two passes. The first cuts the text into tokens: words,
operators, redirections and line breaks, each with the line it starts on.
A word keeps its quoting, since only unquoted text is a pattern and only
unquoted expansions are split into fields; its expansions are read into
their parts as they are met. A here-document's body is read after the line
break that ends the line holding its operator. Text that cannot form a
token (an unterminated quote, a `${` without its `}`) becomes a failure
token at the place it starts, so that everything before it still reads.

The second pass builds commands from tokens: simple commands with their
assignments, words and redirections; pipelines, `!`, `&&`, `||`, `;` and
`&`; brace groups, subshells, `if`, `while`, `until`, `for`, `case` and
function definitions. Reserved words count only where a command may start
and where the grammar expects them. The shell reads and runs one complete
command at a time, so a syntax error ends a script only when the reader
gets to it; `parseComplete` reads one such command.

Every reading function is bounded by fuel proportional to what it reads:
each call consumes a byte or a token, or descends into a construct that
does so before it calls back.
-/

namespace BackupRotation.Process

open Text

mutual

/-- A piece of a shell word as written. -/
inductive Part where
  /-- Text written without quotes. -/
  | plain (bytes : Bytes)
  /-- Text in quotes or after a backslash; an empty one stands for `""`. -/
  | quoted (bytes : Bytes)
  /-- `~` or `~name` at the start of a word. -/
  | tilde (user : Bytes)
  /-- A parameter expansion; the flag says it stands inside double quotes. -/
  | parameter (name : Bytes) (form : Form) (inQuotes : Bool)
  /-- A command substitution: the text of its commands and the line it is on. -/
  | substitution (body : Bytes) (line : Nat) (inQuotes : Bool)
  /-- An arithmetic expansion. -/
  | arithmetic (body : List Part) (inQuotes : Bool)

/-- What a parameter expansion does with its parameter. -/
inductive Form where
  /-- `$name` or `${name}`. -/
  | value
  /-- `${#name}`. -/
  | length
  /-- `${name-word}`, or `${name:-word}` when `colon`. -/
  | fallback (colon : Bool) (word : List Part)
  /-- `${name=word}`, or `${name:=word}`. -/
  | assign (colon : Bool) (word : List Part)
  /-- `${name?word}`, or `${name:?word}`. -/
  | complain (colon : Bool) (word : List Part)
  /-- `${name+word}`, or `${name:+word}`. -/
  | alternative (colon : Bool) (word : List Part)
  /-- `${name%word}`, or `${name%%word}` when `longest`. -/
  | trimSuffix (longest : Bool) (word : List Part)
  /-- `${name#word}`, or `${name##word}`. -/
  | trimPrefix (longest : Bool) (word : List Part)
  /-- Braces holding no expansion the shell knows. -/
  | malformed

end

/-- A shell word as written. -/
abbrev Word := List Part

/-! ## Bytes -/

/-- Bytes that end an unquoted word. -/
def isMetaByte (byte : UInt8) : Bool :=
  byte == 0x20 || byte == 0x09 || byte == 0x0A || byte == 0x3B || byte == 0x26 || byte == 0x7C ||
    byte == 0x28 || byte == 0x29 || byte == 0x3C || byte == 0x3E

/-- Whether a byte is a decimal digit. -/
def isDigitByte (byte : UInt8) : Bool := 0x30 ≤ byte && byte ≤ 0x39

/-- Whether a byte may start a variable name. -/
def isNameStart (byte : UInt8) : Bool :=
  (0x41 ≤ byte && byte ≤ 0x5A) || (0x61 ≤ byte && byte ≤ 0x7A) || byte == 0x5F

/-- Whether a byte may appear in a variable name. -/
def isNameByte (byte : UInt8) : Bool := isNameStart byte || isDigitByte byte

/-- Whether bytes form a variable name. -/
def isName (bytes : Bytes) : Bool :=
  match bytes with
  | first :: _ => isNameStart first && bytes.all isNameByte
  | [] => false

/-- The one-byte parameters: `!#$*-?@` and the digits. -/
def isSpecialParameter (byte : UInt8) : Bool :=
  byte == 0x21 || byte == 0x23 || byte == 0x24 || byte == 0x2A || byte == 0x2D || byte == 0x3F ||
    byte == 0x40 || isDigitByte byte

/-- Whether a byte is a blank. -/
def isBlankByte (byte : UInt8) : Bool := byte == 0x20 || byte == 0x09

/-! ## Scanning nested text -/

/-- The text of a command substitution `$(...)` after its opening
parenthesis, up to the parenthesis that closes it, and what follows; quotes,
backslashes, back-quotes and nested parentheses are stepped over. -/
def scanParenthesized : Nat → Nat → Bytes → Bytes → Option (Bytes × Bytes)
  | 0, _, _, _ => none
  | _ + 1, _, _, [] => none
  | fuel + 1, depth, taken, byte :: rest =>
      if byte == 0x29 then
        if depth == 0 then some (taken.reverse, rest) else scanParenthesized fuel (depth - 1) (byte :: taken) rest
      else if byte == 0x28 then scanParenthesized fuel (depth + 1) (byte :: taken) rest
      else if byte == 0x5C then
        match rest with
        | next :: after => scanParenthesized fuel depth (next :: byte :: taken) after
        | [] => none
      else if byte == 0x27 then
        let inside := rest.takeWhile (· != 0x27)
        match rest.drop inside.length with
        | _ :: after => scanParenthesized fuel depth (0x27 :: inside.reverse ++ byte :: taken) after
        | [] => none
      else if byte == 0x22 || byte == 0x60 then
        match scanQuoted fuel byte [] rest with
        | some (inside, after) => scanParenthesized fuel depth (byte :: inside.reverse ++ byte :: taken) after
        | none => none
      else scanParenthesized fuel depth (byte :: taken) rest
where
  /-- Text up to an unescaped closing quote, the quote left out. -/
  scanQuoted : Nat → UInt8 → Bytes → Bytes → Option (Bytes × Bytes)
    | 0, _, _, _ => none
    | _ + 1, _, _, [] => none
    | fuel + 1, close, taken, byte :: rest =>
        if byte == close then some (taken.reverse, rest)
        else if byte == 0x5C then
          match rest with
          | next :: after => scanQuoted fuel close (next :: byte :: taken) after
          | [] => none
        else scanQuoted fuel close (byte :: taken) rest

/-- The text of an arithmetic expansion after its `$((`, up to the `))`
that closes it, and what follows; none when a closing parenthesis at the
outer level is not followed by another, which makes the text a command
substitution instead. -/
def scanArithmetic : Nat → Nat → Bytes → Bytes → Option (Bytes × Bytes)
  | 0, _, _, _ => none
  | _ + 1, _, _, [] => none
  | fuel + 1, depth, taken, byte :: rest =>
      if byte == 0x29 then
        if depth == 0 then
          match rest with
          | 0x29 :: after => some (taken.reverse, after)
          | _ => none
        else scanArithmetic fuel (depth - 1) (byte :: taken) rest
      else if byte == 0x28 then scanArithmetic fuel (depth + 1) (byte :: taken) rest
      else scanArithmetic fuel depth (byte :: taken) rest

/-- The text of a back-quoted command substitution up to the closing
back-quote, with the backslashes that quote `$`, `` ` ``, `\` (and `"`
inside double quotes) removed; none when the back-quote is not closed. -/
def scanBackquoted : Nat → Bool → Bytes → Bytes → Option (Bytes × Bytes)
  | 0, _, _, _ => none
  | _ + 1, _, _, [] => none
  | fuel + 1, inQuotes, taken, byte :: rest =>
      if byte == 0x60 then some (taken.reverse, rest)
      else if byte == 0x5C then
        match rest with
        | next :: after =>
            if next == 0x24 || next == 0x60 || next == 0x5C || (inQuotes && next == 0x22) then
              scanBackquoted fuel inQuotes (next :: taken) after
            else if next == 0x0A then scanBackquoted fuel inQuotes taken after
            else scanBackquoted fuel inQuotes (next :: byte :: taken) after
        | [] => none
      else scanBackquoted fuel inQuotes (byte :: taken) rest

/-! ## Words -/

/-- How the text being read is quoted, and where it ends. -/
inductive LexMode where
  /-- An unquoted word, ending at a metacharacter. -/
  | word
  /-- The word of a `${...}` expansion, ending at its `}`; the flag says the
  expansion stands inside double quotes. -/
  | braced (inQuotes : Bool)
  /-- The inside of double quotes, ending at the closing quote. -/
  | double
  /-- The body of a here-document: expansions only, to the end. -/
  | document
  /-- The inside of an arithmetic expansion, to the end. -/
  | arithmetic
deriving DecidableEq, Repr

/-- Whether text read in a mode is quoted. -/
def LexMode.quotes : LexMode → Bool
  | .double | .document => true
  | .braced inQuotes => inQuotes
  | _ => false

/-- A literal byte in a mode. -/
def LexMode.literal (mode : LexMode) (byte : UInt8) : Part :=
  if mode.quotes then .quoted [byte] else .plain [byte]

/-- The bytes after a backslash that a backslash quotes in a mode; any
other byte keeps the backslash. -/
def LexMode.escapes (mode : LexMode) (byte : UInt8) : Bool :=
  match mode with
  | .double => byte == 0x24 || byte == 0x60 || byte == 0x22 || byte == 0x5C
  | .document => byte == 0x24 || byte == 0x60 || byte == 0x5C
  | .braced true => byte == 0x24 || byte == 0x60 || byte == 0x22 || byte == 0x5C || byte == 0x7D
  | _ => true

/-- What reading part of a word gives: its parts and the text after it, or
why it could not be read. -/
abbrev Lexed := Except String (Word × Bytes)

mutual

/-- Read text in a mode up to where the mode ends. -/
def lexParts : Nat → LexMode → Nat → Bytes → Lexed
  | 0, _, _, _ => .error "Syntax error: input too deeply nested"
  | fuel + 1, mode, line, input =>
      match input with
      | [] =>
          match mode with
          | .double => .error "Syntax error: Unterminated quoted string"
          | .braced _ => .error "Syntax error: Missing '\x7d'"
          | _ => .ok ([], [])
      | byte :: rest =>
          if mode == .word && isMetaByte byte then .ok ([], input)
          else if mode == .double && byte == 0x22 then .ok ([], rest)
          else if (match mode with | .braced _ => true | _ => false) && byte == 0x7D then .ok ([], rest)
          else if byte == 0x27 && !mode.quotes then
            let inside := rest.takeWhile (· != 0x27)
            match rest.drop inside.length with
            | _ :: after => do
                let (more, tail) ← lexParts fuel mode line after
                pure (.quoted inside :: more, tail)
            | [] => .error "Syntax error: Unterminated quoted string"
          else if byte == 0x22 && !mode.quotes && mode != .document then do
            let (inside, after) ← lexParts fuel .double line rest
            let (more, tail) ← lexParts fuel mode line after
            pure ((if inside.isEmpty then [.quoted []] else inside) ++ more, tail)
          else if byte == 0x5C then
            match rest with
            | 0x0A :: after => lexParts fuel mode line after
            | next :: after =>
                if mode.escapes next then do
                  let (more, tail) ← lexParts fuel mode line after
                  pure (.quoted [next] :: more, tail)
                else do
                  let (more, tail) ← lexParts fuel mode line rest
                  pure (.quoted [byte] :: more, tail)
            | [] => .ok ([mode.literal byte], [])
          else if byte == 0x24 then do
            let (found, after) ← lexDollar fuel mode.quotes line rest
            let (more, tail) ← lexParts fuel mode line after
            pure ((found.getD (mode.literal byte)) :: more, tail)
          else if byte == 0x60 then
            match scanBackquoted (rest.length + 1) mode.quotes [] rest with
            | some (body, after) => do
                let (more, tail) ← lexParts fuel mode line after
                pure (.substitution body line mode.quotes :: more, tail)
            | none => .error "Syntax error: EOF in backquote substitution"
          else do
            let (more, tail) ← lexParts fuel mode line rest
            pure (mode.literal byte :: more, tail)

/-- Read what follows a `$`: an expansion and the text after it, or none
when the `$` is literal. -/
def lexDollar : Nat → Bool → Nat → Bytes → Except String (Option Part × Bytes)
  | 0, _, _, _ => .error "Syntax error: input too deeply nested"
  | fuel + 1, inQuotes, line, input =>
      match input with
      | 0x28 :: 0x28 :: more =>
          match scanArithmetic (more.length + 1) 0 [] more with
          | some (body, after) => do
              let (parts, _) ← lexParts fuel .arithmetic line body
              pure (some (.arithmetic parts inQuotes), after)
          | none =>
              match scanParenthesized (input.length + 1) 0 [] (input.drop 1) with
              | some (body, after) => pure (some (.substitution body line inQuotes), after)
              | none => .error "Syntax error: end of file unexpected (expecting \")\")"
      | 0x28 :: more =>
          match scanParenthesized (more.length + 1) 0 [] more with
          | some (body, after) => pure (some (.substitution body line inQuotes), after)
          | none => .error "Syntax error: end of file unexpected (expecting \")\")"
      | 0x7B :: more => do
          let (part, after) ← lexBraced fuel inQuotes line more
          pure (some part, after)
      | byte :: more =>
          if isNameStart byte then
            let name := (byte :: more).takeWhile isNameByte
            pure (some (.parameter name .value inQuotes), (byte :: more).drop name.length)
          else if isSpecialParameter byte then pure (some (.parameter [byte] .value inQuotes), more)
          else pure (none, input)
      | [] => pure (none, [])

/-- Read a `${...}` expansion after its opening brace. -/
def lexBraced : Nat → Bool → Nat → Bytes → Except String (Part × Bytes)
  | 0, _, _, _ => .error "Syntax error: input too deeply nested"
  | fuel + 1, inQuotes, line, input =>
      let readName : Bytes → Option (Bytes × Bytes) := fun text =>
        match text with
        | byte :: more =>
            if isNameStart byte then
              let name := text.takeWhile isNameByte
              some (name, text.drop name.length)
            else if isDigitByte byte then
              let name := text.takeWhile isDigitByte
              some (name, text.drop name.length)
            else if isSpecialParameter byte then some ([byte], more)
            else none
        | [] => none
      let wordOf := fun (form : Word → Form) (text : Bytes) => do
        let quotedWord := match form [] with
          | .trimSuffix _ _ | .trimPrefix _ _ => false
          | _ => inQuotes
        let (word, after) ← lexParts fuel (.braced quotedWord) line text
        pure (Part.parameter [] (form word) inQuotes, after)
      let withName := fun (name : Bytes) (text : Bytes) =>
        let named := fun (result : Except String (Part × Bytes)) => result.map fun (part, after) =>
          match part with
          | .parameter _ form quoted => (Part.parameter name form quoted, after)
          | other => (other, after)
        match text with
        | 0x7D :: after => pure (Part.parameter name .value inQuotes, after)
        | 0x3A :: op :: after =>
            if op == 0x2D then named (wordOf (.fallback true) after)
            else if op == 0x3D then named (wordOf (.assign true) after)
            else if op == 0x3F then named (wordOf (.complain true) after)
            else if op == 0x2B then named (wordOf (.alternative true) after)
            else named (wordOf (fun _ => .malformed) (op :: after))
        | op :: after =>
            if op == 0x2D then named (wordOf (.fallback false) after)
            else if op == 0x3D then named (wordOf (.assign false) after)
            else if op == 0x3F then named (wordOf (.complain false) after)
            else if op == 0x2B then named (wordOf (.alternative false) after)
            else if op == 0x25 then
              match after with
              | 0x25 :: more => named (wordOf (.trimSuffix true) more)
              | _ => named (wordOf (.trimSuffix false) after)
            else if op == 0x23 then
              match after with
              | 0x23 :: more => named (wordOf (.trimPrefix true) more)
              | _ => named (wordOf (.trimPrefix false) after)
            else named (wordOf (fun _ => .malformed) text)
        | [] => .error "Syntax error: Missing '\x7d'"
      let lengthOf := fun (name : Bytes) (text : Bytes) =>
        match text with
        | 0x7D :: after => pure (Part.parameter name .length inQuotes, after)
        | _ => wordOf (fun _ => .malformed) text
      match input with
      | 0x23 :: after =>
          match after with
          | next :: more =>
              if isNameByte next then
                match readName after with
                | some (name, rest) => lengthOf name rest
                | none => wordOf (fun _ => .malformed) after
              else
                match more with
                | 0x7D :: rest =>
                    if next != 0x7D && isSpecialParameter next then lengthOf [next] (0x7D :: rest)
                    else if next == 0x7D then withName [0x23] after
                    else wordOf (fun _ => .malformed) after
                | _ => withName [0x23] after
          | [] => .error "Syntax error: Missing '\x7d'"
      | _ =>
          match readName input with
          | some (name, rest) => withName name rest
          | none => wordOf (fun _ => .malformed) input

end

/-- Join neighbouring literal parts of the same kind. -/
def mergeParts : Word → Word
  | .plain first :: .plain second :: rest => mergeParts (.plain (first ++ second) :: rest)
  | .quoted first :: .quoted second :: rest =>
      if first.isEmpty || second.isEmpty then .quoted first :: mergeParts (.quoted second :: rest)
      else mergeParts (.quoted (first ++ second) :: rest)
  | part :: rest => part :: mergeParts rest
  | [] => []
termination_by word => word.length

/-- A word with a tilde prefix split off: an unquoted `~` at its start
and the unquoted name after it, up to the first slash. -/
def withTilde (word : Word) : Word :=
  match word with
  | .plain (0x7E :: text) :: rest =>
      let user := text.takeWhile (· != 0x2F)
      let after := text.drop user.length
      let ends := !after.isEmpty || match rest with
        | [] => true
        | .plain (0x2F :: _) :: _ => true
        | _ => false
      if !ends then word
      else .tilde user :: (if after.isEmpty then rest else .plain after :: rest)
  | _ => word

/-- The text of a word with no expansions in it, quotes removed. -/
def Word.literalText (word : Word) : Option Bytes :=
  word.foldr (fun part text => match part, text with
    | .plain bytes, some rest => some (bytes ++ rest)
    | .quoted bytes, some rest => some (bytes ++ rest)
    | _, _ => none) (some [])

/-- Whether a word is the unquoted text `text`. -/
def Word.isText (word : Word) (text : String) : Bool :=
  match word with
  | [.plain bytes] => bytes == encode text
  | _ => false

/-! ## Tokens -/

/-- What a redirection operator does. -/
inductive RedirectOp where
  | input
  | output
  | clobber
  | append
  | duplicateInput
  | duplicateOutput
  | readWrite
  /-- `<<` with no delimiter after it. -/
  | document
deriving DecidableEq, Repr

/-- A token of a script. -/
inductive Token where
  | word (word : Word)
  | newline
  | semicolon
  | doubleSemicolon
  | ampersand
  | andIf
  | orIf
  | pipe
  | openParen
  | closeParen
  /-- A redirection operator, the file descriptor written before it if any;
  its target is the next token. -/
  | redirect (fd : Option Nat) (op : RedirectOp)
  /-- A here-document with its body. -/
  | hereDocument (fd : Option Nat) (body : Word)
  | endOfInput
  /-- Text that could not be read, and why. -/
  | failure (message : String)

/-- A token and the line it starts on. -/
structure Located where
  token : Token
  line : Nat

/-- A here-document waiting for its body: where its token is, its
delimiter, whether the delimiter was quoted (then the body is literal), and
whether leading tabs are stripped. -/
structure PendingDocument where
  index : Nat
  fd : Option Nat
  delimiter : Bytes
  quoted : Bool
  strip : Bool

/-- The number of line breaks in some bytes. -/
def countLines (bytes : Bytes) : Nat := bytes.foldl (fun n b => if b == 0x0A then n + 1 else n) 0

/-- The lines of a here-document body up to its delimiter line, leading
tabs removed when `strip`; the body, and the input after the delimiter
line. -/
def readDocument (strip : Bool) (delimiter : Bytes) : Nat → Bytes → Bytes → Bytes × Bytes
  | 0, taken, input => (taken, input)
  | _ + 1, taken, [] => (taken, [])
  | fuel + 1, taken, input =>
      let lineText := input.takeWhile (· != 0x0A)
      let after := (input.drop lineText.length).drop 1
      let lineText := if strip then lineText.dropWhile (· == 0x09) else lineText
      if lineText == delimiter then (taken, after)
      else
        let complete := input.length > (input.takeWhile (· != 0x0A)).length
        readDocument strip delimiter fuel (taken ++ lineText ++ (if complete then [0x0A] else [])) after

/-- The literal text a here-document delimiter word stands for, and
whether any of it was quoted. -/
def delimiterText (word : Word) : Bytes × Bool :=
  word.foldl (fun (text, quoted) part => match part with
    | .plain bytes => (text ++ bytes, quoted)
    | .quoted bytes => (text ++ bytes, true)
    | .tilde user => (text ++ 0x7E :: user, quoted)
    | .parameter name _ _ => (text ++ 0x24 :: name, quoted)
    | _ => (text, quoted)) ([], false)

/-- Put the bodies of the pending here-documents in place: read each body
from the input in turn and replace its token. The tokens are kept newest
first. -/
def fillDocuments (line : Nat) (tokens : List Located) (input : Bytes) :
    List PendingDocument → List Located × Bytes × Nat
  | [] => (tokens, input, line)
  | doc :: rest =>
      let (body, after) := readDocument doc.strip doc.delimiter (input.length + 1) [] input
      let consumed := input.take (input.length - after.length)
      let parts : Word :=
        if doc.quoted then [.quoted body]
        else match lexParts (2 * body.length + 8) .document line body with
          | .ok (parts, _) => mergeParts parts
          | .error _ => [.quoted body]
      let position := tokens.length - 1 - doc.index
      let tokens := tokens.set position { token := .hereDocument doc.fd parts, line := (tokens.getD position ⟨.newline, line⟩).line }
      fillDocuments (line + countLines consumed) tokens after rest

/-- The operator at the start of the input, if one starts there, and the
input after it. -/
def readOperator (fd : Option Nat) (input : Bytes) : Option (Token × Bytes) :=
  match input with
  | 0x26 :: 0x26 :: rest => some (.andIf, rest)
  | 0x26 :: rest => some (.ampersand, rest)
  | 0x7C :: 0x7C :: rest => some (.orIf, rest)
  | 0x7C :: rest => some (.pipe, rest)
  | 0x3B :: 0x3B :: rest => some (.doubleSemicolon, rest)
  | 0x3B :: rest => some (.semicolon, rest)
  | 0x28 :: rest => some (.openParen, rest)
  | 0x29 :: rest => some (.closeParen, rest)
  | 0x3C :: 0x26 :: rest => some (.redirect fd .duplicateInput, rest)
  | 0x3C :: 0x3E :: rest => some (.redirect fd .readWrite, rest)
  | 0x3C :: rest => some (.redirect fd .input, rest)
  | 0x3E :: 0x3E :: rest => some (.redirect fd .append, rest)
  | 0x3E :: 0x26 :: rest => some (.redirect fd .duplicateOutput, rest)
  | 0x3E :: 0x7C :: rest => some (.redirect fd .clobber, rest)
  | 0x3E :: rest => some (.redirect fd .output, rest)
  | _ => none

/-- Read a here-document operator's delimiter word: the pending document,
or none when no word follows. -/
def readDelimiter (line : Nat) (input : Bytes) : Option (Bytes × Bool × Bytes) :=
  let input := input.dropWhile isBlankByte
  match input with
  | byte :: _ =>
      if isMetaByte byte then none
      else
        match lexParts (2 * input.length + 8) .word line input with
        | .ok (word, after) =>
            let (text, quoted) := delimiterText word
            some (text, quoted, after)
        | .error _ => none
  | [] => none

/-- Cut a script into tokens, newest first in `taken`. -/
def tokenizeFrom : Nat → Nat → Bytes → List Located → List PendingDocument → List Located
  | 0, line, _, taken, _ => ⟨.endOfInput, line⟩ :: taken
  | fuel + 1, line, input, taken, pending =>
      match input with
      | [] => ⟨.endOfInput, line⟩ :: taken
      | byte :: rest =>
          if isBlankByte byte then tokenizeFrom fuel line rest taken pending
          else if byte == 0x5C && rest.head? == some 0x0A then tokenizeFrom fuel (line + 1) (rest.drop 1) taken pending
          else if byte == 0x23 then tokenizeFrom fuel line (rest.dropWhile (· != 0x0A)) taken pending
          else if byte == 0x0A then
            let taken := ⟨.newline, line + 1⟩ :: taken
            let (taken, after, line) := fillDocuments (line + 1) taken rest pending.reverse
            tokenizeFrom fuel line after taken []
          else if byte == 0x3C && rest.take 1 == [0x3C] then
            let strip := (rest.drop 1).head? == some 0x2D
            let after := if strip then rest.drop 2 else rest.drop 1
            match readDelimiter line after with
            | some (delimiter, quoted, tail) =>
                let doc : PendingDocument :=
                  { index := taken.length, fd := none, delimiter := delimiter, quoted := quoted, strip := strip }
                tokenizeFrom fuel (line + countLines (after.take (after.length - tail.length))) tail
                  (⟨.hereDocument none [], line⟩ :: taken) (doc :: pending)
            | none => tokenizeFrom fuel line after (⟨.redirect none .document, line⟩ :: taken) pending
          else
            match readOperator none input with
            | some (token, after) => tokenizeFrom fuel line after (⟨token, line⟩ :: taken) pending
            | none =>
                match lexParts (2 * input.length + 8) .word line input with
                | .error message => ⟨.failure message, line⟩ :: taken
                | .ok (word, after) =>
                    let word := mergeParts word
                    let newLine := line + countLines (input.take (input.length - after.length))
                    let fd := match word with
                      | [.plain digits] =>
                          if !digits.isEmpty && digits.length ≤ 2 && digits.all isDigitByte &&
                              (after.head? == some 0x3C || after.head? == some 0x3E) then
                            some (digits.foldl (fun n d => n * 10 + (d.toNat - 0x30)) 0)
                          else none
                      | _ => none
                    match fd with
                    | some number =>
                        if after.take 2 == [0x3C, 0x3C] then
                          let strip := (after.drop 2).head? == some 0x2D
                          let tail := if strip then after.drop 3 else after.drop 2
                          match readDelimiter newLine tail with
                          | some (delimiter, quoted, rest) =>
                              let doc : PendingDocument :=
                                { index := taken.length, fd := some number, delimiter := delimiter,
                                  quoted := quoted, strip := strip }
                              tokenizeFrom fuel (newLine + countLines (tail.take (tail.length - rest.length))) rest
                                (⟨.hereDocument (some number) [], line⟩ :: taken) (doc :: pending)
                          | none =>
                              tokenizeFrom fuel newLine tail (⟨.redirect (some number) .document, line⟩ :: taken)
                                pending
                        else
                          match readOperator (some number) after with
                          | some (token, tail) => tokenizeFrom fuel newLine tail (⟨token, line⟩ :: taken) pending
                          | none => tokenizeFrom fuel newLine after (⟨.word word, line⟩ :: taken) pending
                    | none => tokenizeFrom fuel newLine after (⟨.word word, line⟩ :: taken) pending

/-- The tokens of a script whose first line has the given number. -/
def tokenize (line : Nat) (script : Bytes) : List Located :=
  (tokenizeFrom (2 * script.length + 8) line script [] []).reverse

/-! ## Commands -/

/-- A redirection of a command. -/
inductive Redirection where
  /-- Descriptor `fd` opened on the file the target word names, or made a
  copy of the descriptor it names. -/
  | file (fd : Nat) (op : RedirectOp) (target : Word)
  /-- Descriptor `fd` reading a here-document's body. -/
  | document (fd : Nat) (body : Word)

/-- The descriptor a redirection operator acts on when none is written. -/
def RedirectOp.defaultFd : RedirectOp → Nat
  | .input | .duplicateInput | .readWrite | .document => 0
  | _ => 1

/-- A parsed command. -/
inductive Command where
  /-- Assignments, words and redirections, and the line the command is on. -/
  | simple (line : Nat) (assignments : List (Bytes × Word)) (words : List Word)
      (redirections : List Redirection)
  /-- `! command`. -/
  | negation (command : Command)
  /-- Commands joined by `|`. -/
  | pipeline (commands : List Command)
  /-- `first && second`. -/
  | both (first second : Command)
  /-- `first || second`. -/
  | either (first second : Command)
  /-- `first; second`. -/
  | sequence (first second : Command)
  /-- `command &`. -/
  | background (command : Command)
  /-- `( body )` and its redirections. -/
  | subshell (body : Command) (redirections : List Redirection)
  /-- A compound command followed by redirections. -/
  | redirected (body : Command) (redirections : List Redirection)
  /-- `if test; then thenPart; else elsePart; fi`; `elif` nests. -/
  | conditional (test thenPart : Command) (elsePart : Option Command)
  /-- `while test; do body; done`, or `until` when `untilTrue`. -/
  | loop (untilTrue : Bool) (test body : Command)
  /-- `for name in words; do body; done`; no words means the positional
  parameters. -/
  | forEach (line : Nat) (name : Bytes) (words : Option (List Word)) (body : Command)
  /-- `case subject in patterns) body;; … esac`. -/
  | choice (line : Nat) (subject : Word) (arms : List (List Word × Option Command))
  /-- `name() body`. -/
  | function (line : Nat) (name : Bytes) (body : Command)

/-- Why a script could not be read, and on which line. -/
structure SyntaxError where
  message : String
  line : Nat

/-- The reserved words. -/
def reservedWords : List String :=
  ["!", "\x7b", "\x7d", "case", "do", "done", "elif", "else", "esac", "fi", "for", "if", "in", "then",
   "until", "while"]

/-- The reserved word a token is, when it is one. -/
def Located.keyword? (located : Located) : Option String :=
  match located.token with
  | .word [.plain bytes] => reservedWords.find? fun word => encode word == bytes
  | _ => none

/-- Whether a token is the reserved word `text`. -/
def Located.isKeyword (located : Located) (text : String) : Bool := located.keyword? == some text

/-- How a token is named in a syntax error. -/
def Located.describe (located : Located) : String :=
  match located.keyword? with
  | some word => "\"" ++ word ++ "\""
  | none =>
      match located.token with
      | .word _ => "word"
      | .newline => "newline"
      | .semicolon => "\";\""
      | .doubleSemicolon => "\";;\""
      | .ampersand => "\"&\""
      | .andIf => "\"&&\""
      | .orIf => "\"||\""
      | .pipe => "\"|\""
      | .openParen => "\"(\""
      | .closeParen => "\")\""
      | .redirect _ _ | .hereDocument _ _ => "redirection"
      | .endOfInput => "end of file"
      | .failure _ => "word"

/-- The tokens to read, never empty: the end is always there. -/
def headOf (tokens : List Located) : Located := tokens.headD ⟨.endOfInput, 0⟩

/-- A syntax error at the next token: it was not expected, or another was. -/
def unexpected {α : Type} (tokens : List Located) (expecting : Option String) : Except SyntaxError α :=
  let next := headOf tokens
  match next.token with
  | .failure message => .error { message := message, line := next.line }
  | _ =>
      .error { message := "Syntax error: " ++ next.describe ++ " unexpected" ++
                 (match expecting with
                  | some what => " (expecting " ++ what ++ ")"
                  | none => ""),
               line := next.line }

/-- Skip line breaks. -/
def skipNewlines : List Located → List Located
  | ⟨.newline, _⟩ :: rest => skipNewlines rest
  | tokens => tokens

/-- Whether a token ends a list inside a compound command. -/
def endsList (located : Located) : Bool :=
  match located.token with
  | .closeParen | .doubleSemicolon | .endOfInput => true
  | _ =>
      match located.keyword? with
      | some word => ["do", "done", "elif", "else", "esac", "fi", "then", "\x7d"].contains word
      | none => false

/-- The name and value of an assignment word `NAME=value`. -/
def assignmentOf? : Word → Option (Bytes × Word)
  | .plain bytes :: rest =>
      let name := bytes.takeWhile (· != 0x3D)
      if name.length < bytes.length && isName name then
        let value := bytes.drop (name.length + 1)
        some (name, withTilde (if value.isEmpty then rest else .plain value :: rest))
      else none
  | _ => none

/-- Names of the special built-in commands, which no function may take. -/
def specialBuiltins : List String :=
  [".", ":", "break", "continue", "eval", "exec", "exit", "export", "readonly", "return", "set", "shift",
   "times", "trap", "unset", "local"]

/-- Read the redirections that follow a compound command. -/
def parseRedirections : Nat → List Located → Except SyntaxError (List Redirection × List Located)
  | 0, tokens => .ok ([], tokens)
  | fuel + 1, tokens =>
      match tokens with
      | ⟨.redirect fd op, _⟩ :: ⟨.word target, _⟩ :: rest => do
          let (more, tail) ← parseRedirections fuel rest
          pure (.file (fd.getD op.defaultFd) op target :: more, tail)
      | ⟨.redirect _ _, _⟩ :: rest => unexpected rest none
      | ⟨.hereDocument fd body, _⟩ :: rest => do
          let (more, tail) ← parseRedirections fuel rest
          pure (.document (fd.getD 0) body :: more, tail)
      | _ => .ok ([], tokens)

/-- Expect a reserved word next. -/
def expectKeyword (word : String) (tokens : List Located) : Except SyntaxError (List Located) :=
  if (headOf tokens).isKeyword word then .ok (tokens.drop 1) else unexpected tokens (some ("\"" ++ word ++ "\""))

/-- The words of a `for` loop, up to the first token that is not one. -/
def collectWords : List Located → List Word × List Located
  | ⟨.word word, _⟩ :: rest =>
      let (more, tail) := collectWords rest
      (withTilde word :: more, tail)
  | tokens => ([], tokens)

/-- Run `second` after `first`, when there is a second. -/
def joinSequence (first : Command) (second : Option Command) : Command :=
  match second with
  | some next => .sequence first next
  | none => first

mutual

/-- Read a list of commands inside a compound command, up to a token that
ends it. Unless `mayBeEmpty`, the list must hold a command. -/
def parseList : Nat → Bool → List Located → Except SyntaxError (Option Command × List Located)
  | 0, _, tokens => unexpected tokens none
  | fuel + 1, mayBeEmpty, tokens =>
      let tokens := skipNewlines tokens
      if mayBeEmpty && endsList (headOf tokens) then .ok (none, tokens)
      else do
        let (command, rest) ← parseAndOr fuel tokens
        match rest with
        | ⟨.ampersand, _⟩ :: after => do
            let (more, tail) ← parseList fuel true after
            pure (some (joinSequence (.background command) more), tail)
        | ⟨.semicolon, _⟩ :: after | ⟨.newline, _⟩ :: after => do
            let (more, tail) ← parseList fuel true after
            pure (some (joinSequence command more), tail)
        | _ => .ok (some command, rest)

/-- Read commands joined by `&&` and `||`, left to right. -/
def parseAndOr : Nat → List Located → Except SyntaxError (Command × List Located)
  | 0, tokens => unexpected tokens none
  | fuel + 1, tokens => do
      let (first, rest) ← parsePipeline fuel tokens
      parseLinks fuel first rest

/-- Read the commands that follow `&&` or `||`. -/
def parseLinks : Nat → Command → List Located → Except SyntaxError (Command × List Located)
  | 0, first, tokens => .ok (first, tokens)
  | fuel + 1, first, tokens =>
      match tokens with
      | ⟨.andIf, _⟩ :: rest => do
          let (second, tail) ← parsePipeline fuel (skipNewlines rest)
          parseLinks fuel (.both first second) tail
      | ⟨.orIf, _⟩ :: rest => do
          let (second, tail) ← parsePipeline fuel (skipNewlines rest)
          parseLinks fuel (.either first second) tail
      | _ => .ok (first, tokens)

/-- Read a pipeline, with a leading `!`. -/
def parsePipeline : Nat → List Located → Except SyntaxError (Command × List Located)
  | 0, tokens => unexpected tokens none
  | fuel + 1, tokens => do
      let negated := (headOf tokens).isKeyword "!"
      let tokens := if negated then tokens.drop 1 else tokens
      let (first, rest) ← parseCommand fuel tokens
      let (others, tail) ← parsePiped fuel rest
      let command := if others.isEmpty then first else .pipeline (first :: others)
      pure (if negated then .negation command else command, tail)

/-- Read the commands after each `|`. -/
def parsePiped : Nat → List Located → Except SyntaxError (List Command × List Located)
  | 0, tokens => .ok ([], tokens)
  | fuel + 1, tokens =>
      match tokens with
      | ⟨.pipe, _⟩ :: rest => do
          let (command, tail) ← parseCommand fuel (skipNewlines rest)
          let (more, final) ← parsePiped fuel tail
          pure (command :: more, final)
      | _ => .ok ([], tokens)

/-- Read one command: a compound command or a simple one. -/
def parseCommand : Nat → List Located → Except SyntaxError (Command × List Located)
  | 0, tokens => unexpected tokens none
  | fuel + 1, tokens =>
      let next := headOf tokens
      let rest := tokens.drop 1
      match next.keyword? with
      | some "if" => parseIf fuel rest
      | some "while" => parseLoop fuel false rest
      | some "until" => parseLoop fuel true rest
      | some "for" => parseFor fuel next.line rest
      | some "case" => parseCase fuel next.line rest
      | some "\x7b" => do
          let (body, after) ← parseList fuel false rest
          let after ← expectKeyword "\x7d" after
          let (redirections, tail) ← parseRedirections (after.length + 1) after
          let body := body.getD (.simple next.line [] [] [])
          pure (if redirections.isEmpty then body else .redirected body redirections, tail)
      | some _ => unexpected tokens none
      | none =>
          match next.token with
          | .openParen => do
              let (body, after) ← parseList fuel false rest
              match after with
              | ⟨.closeParen, _⟩ :: more => do
                  let (redirections, tail) ← parseRedirections (more.length + 1) more
                  pure (.subshell (body.getD (.simple next.line [] [] [])) redirections, tail)
              | _ => unexpected after (some "\")\"")
          | .word _ | .redirect _ _ | .hereDocument _ _ => parseSimple fuel next.line [] [] [] tokens
          | _ => unexpected tokens none

/-- Read the rest of an `if` command. -/
def parseIf : Nat → List Located → Except SyntaxError (Command × List Located)
  | 0, tokens => unexpected tokens none
  | fuel + 1, tokens => do
      let (test, rest) ← parseList fuel false tokens
      let rest ← expectKeyword "then" rest
      let (thenPart, rest) ← parseList fuel false rest
      let test := test.getD (.simple 0 [] [] [])
      let thenPart := thenPart.getD (.simple 0 [] [] [])
      let next := headOf rest
      if next.isKeyword "elif" then do
        let (nested, tail) ← parseIfTail fuel (rest.drop 1)
        pure (.conditional test thenPart (some nested), tail)
      else if next.isKeyword "else" then do
        let (elsePart, after) ← parseList fuel false (rest.drop 1)
        let after ← expectKeyword "fi" after
        let (redirections, tail) ← parseRedirections (after.length + 1) after
        let command := Command.conditional test thenPart elsePart
        pure (if redirections.isEmpty then command else .redirected command redirections, tail)
      else do
        let after ← expectKeyword "fi" rest
        let (redirections, tail) ← parseRedirections (after.length + 1) after
        let command := Command.conditional test thenPart none
        pure (if redirections.isEmpty then command else .redirected command redirections, tail)

/-- Read an `elif` branch and what follows it, up to and with the `fi`;
redirections after the `fi` belong to the outer `if`. -/
def parseIfTail : Nat → List Located → Except SyntaxError (Command × List Located)
  | 0, tokens => unexpected tokens none
  | fuel + 1, tokens => do
      let (test, rest) ← parseList fuel false tokens
      let rest ← expectKeyword "then" rest
      let (thenPart, rest) ← parseList fuel false rest
      let test := test.getD (.simple 0 [] [] [])
      let thenPart := thenPart.getD (.simple 0 [] [] [])
      let next := headOf rest
      if next.isKeyword "elif" then do
        let (nested, tail) ← parseIfTail fuel (rest.drop 1)
        pure (.conditional test thenPart (some nested), tail)
      else if next.isKeyword "else" then do
        let (elsePart, after) ← parseList fuel false (rest.drop 1)
        let after ← expectKeyword "fi" after
        pure (.conditional test thenPart elsePart, after)
      else do
        let after ← expectKeyword "fi" rest
        pure (.conditional test thenPart none, after)

/-- Read the rest of a `while` or `until` loop. -/
def parseLoop : Nat → Bool → List Located → Except SyntaxError (Command × List Located)
  | 0, _, tokens => unexpected tokens none
  | fuel + 1, untilTrue, tokens => do
      let (test, rest) ← parseList fuel false tokens
      let rest ← expectKeyword "do" rest
      let (body, rest) ← parseList fuel false rest
      let rest ← expectKeyword "done" rest
      let (redirections, tail) ← parseRedirections (rest.length + 1) rest
      let command := Command.loop untilTrue (test.getD (.simple 0 [] [] [])) (body.getD (.simple 0 [] [] []))
      pure (if redirections.isEmpty then command else .redirected command redirections, tail)

/-- Read the rest of a `for` loop. -/
def parseFor : Nat → Nat → List Located → Except SyntaxError (Command × List Located)
  | 0, _, tokens => unexpected tokens none
  | fuel + 1, line, tokens =>
      match tokens with
      | ⟨.word [.plain name], _⟩ :: rest =>
          if !isName name then .error { message := "Syntax error: Bad for loop variable", line := (headOf tokens).line }
          else do
            let rest := skipNewlines rest
            let (words, rest) ← if (headOf rest).isKeyword "in" then do
                let (words, after) := collectWords (rest.drop 1)
                match after with
                | ⟨.newline, _⟩ :: more | ⟨.semicolon, _⟩ :: more => pure (some words, more)
                | _ => unexpected after none
              else
                match rest with
                | ⟨.semicolon, _⟩ :: more => pure (none, more)
                | _ => pure (none, rest)
            let rest := skipNewlines rest
            let rest ← expectKeyword "do" rest
            let (body, rest) ← parseList fuel false rest
            let rest ← expectKeyword "done" rest
            let (redirections, tail) ← parseRedirections (rest.length + 1) rest
            let command := Command.forEach line name words (body.getD (.simple 0 [] [] []))
            pure (if redirections.isEmpty then command else .redirected command redirections, tail)
      | _ => .error { message := "Syntax error: Bad for loop variable", line := (headOf tokens).line }

/-- Read the rest of a `case` command. -/
def parseCase : Nat → Nat → List Located → Except SyntaxError (Command × List Located)
  | 0, _, tokens => unexpected tokens none
  | fuel + 1, line, tokens =>
      match tokens with
      | ⟨.word subject, _⟩ :: rest => do
          let rest ← expectKeyword "in" (skipNewlines rest)
          let (arms, rest) ← parseArms fuel rest
          let (redirections, tail) ← parseRedirections (rest.length + 1) rest
          let command := Command.choice line subject arms
          pure (if redirections.isEmpty then command else .redirected command redirections, tail)
      | _ => unexpected tokens (some "word")

/-- Read the arms of a `case` up to and with its `esac`. -/
def parseArms : Nat → List Located → Except SyntaxError (List (List Word × Option Command) × List Located)
  | 0, tokens => unexpected tokens none
  | fuel + 1, tokens =>
      let tokens := skipNewlines tokens
      if (headOf tokens).isKeyword "esac" then .ok ([], tokens.drop 1)
      else do
        let tokens := match tokens with
          | ⟨.openParen, _⟩ :: rest => rest
          | _ => tokens
        let (patterns, rest) ← collectPatterns fuel tokens
        let rest ← match rest with
          | ⟨.closeParen, _⟩ :: more => pure more
          | _ => unexpected rest (some "\")\"")
        let (body, rest) ← parseList fuel true rest
        let rest := skipNewlines rest
        if (headOf rest).isKeyword "esac" then .ok ([(patterns, body)], rest.drop 1)
        else
          match rest with
          | ⟨.doubleSemicolon, _⟩ :: more => do
              let (arms, tail) ← parseArms fuel more
              pure ((patterns, body) :: arms, tail)
          | _ => unexpected rest (some "\";;\"")

/-- Read the `|`-separated patterns of a `case` arm. -/
def collectPatterns : Nat → List Located → Except SyntaxError (List Word × List Located)
  | 0, tokens => unexpected tokens none
  | fuel + 1, tokens =>
      match tokens with
      | ⟨.word pattern, _⟩ :: ⟨.pipe, _⟩ :: rest => do
          let (more, tail) ← collectPatterns fuel rest
          pure (pattern :: more, tail)
      | ⟨.word pattern, _⟩ :: rest => .ok ([pattern], rest)
      | _ => unexpected tokens (some "word")

/-- Read a simple command, or a function definition. -/
def parseSimple : Nat → Nat → List (Bytes × Word) → List Word → List Redirection → List Located →
    Except SyntaxError (Command × List Located)
  | 0, line, assignments, words, redirections, tokens =>
      .ok (.simple line assignments.reverse words.reverse redirections.reverse, tokens)
  | fuel + 1, line, assignments, words, redirections, tokens =>
      match tokens with
      | ⟨.word word, _⟩ :: rest =>
          match (if words.isEmpty then assignmentOf? word else none) with
          | some assignment => parseSimple fuel line (assignment :: assignments) words redirections rest
          | none => parseSimple fuel line assignments (withTilde word :: words) redirections rest
      | ⟨.redirect fd op, _⟩ :: ⟨.word target, _⟩ :: rest =>
          parseSimple fuel line assignments words (.file (fd.getD op.defaultFd) op target :: redirections) rest
      | ⟨.redirect _ _, _⟩ :: rest => unexpected rest none
      | ⟨.hereDocument fd body, _⟩ :: rest =>
          parseSimple fuel line assignments words (.document (fd.getD 0) body :: redirections) rest
      | ⟨.openParen, parenLine⟩ :: rest =>
          match words, assignments, redirections with
          | [[.plain name]], [], [] =>
              match rest with
              | ⟨.closeParen, _⟩ :: body =>
                  if !isName name || specialBuiltins.contains (lossy name) then
                    .error { message := "Syntax error: Bad function name", line := parenLine }
                  else do
                    let (command, tail) ← parseCommand fuel (skipNewlines body)
                    pure (.function parenLine name command, tail)
              | _ => unexpected rest (some "\")\"")
          | _, _, _ => .ok (.simple line assignments.reverse words.reverse redirections.reverse, tokens)
      | _ => .ok (.simple line assignments.reverse words.reverse redirections.reverse, tokens)

end

/-- Read the next complete command of a script: the commands up to the
end of a line, or none at the end of the script. -/
def parseComplete (tokens : List Located) : Except SyntaxError (Option Command × List Located) := do
  let tokens := skipNewlines tokens
  match (headOf tokens).token with
  | .endOfInput => pure (none, tokens)
  | _ =>
      let fuel := 6 * tokens.length + 16
      let (first, rest) ← parseAndOr fuel tokens
      completeLine fuel first rest
where
  /-- Read the commands that follow on the same line, after `;` or `&`. -/
  completeLine : Nat → Command → List Located → Except SyntaxError (Option Command × List Located)
    | 0, command, tokens => .ok (some command, tokens)
    | fuel + 1, command, tokens =>
        match tokens with
        | ⟨.semicolon, _⟩ :: rest | ⟨.ampersand, _⟩ :: rest =>
            let command := match tokens with
              | ⟨.ampersand, _⟩ :: _ => Command.background command
              | _ => command
            match (headOf rest).token with
            | .newline => .ok (some command, rest.drop 1)
            | .endOfInput => .ok (some command, rest)
            | _ => do
                let (next, tail) ← parseAndOr (6 * rest.length + 16) rest
                let (more, final) ← completeLine fuel next tail
                pure (some (joinSequence command more), final)
        | ⟨.newline, _⟩ :: rest => .ok (some command, rest)
        | ⟨.endOfInput, _⟩ :: _ => .ok (some command, tokens)
        | _ => unexpected tokens none

end BackupRotation.Process
