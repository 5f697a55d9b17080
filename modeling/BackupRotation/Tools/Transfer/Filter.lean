import BackupRotation.Tools.Transfer.Pattern
/-!
# Filter rules

A filter rule says whether the items its pattern matches are included or
excluded, and on which side of a transfer it counts: the sending side,
where it decides what is sent, and the receiving side, where an excluded
item is protected from deletion. Rules are tried in order and the first one
that matches decides; an item no rule matches is included.

## Reading rules

Rules arrive in three spellings.

* `--exclude` and `--include` take a bare pattern, which may start with
  `- ` or `+ ` to choose the other kind; `!` alone clears the list.
* `--filter` takes a rule: a name (`exclude`, `include`, `hide`, `show`,
  `protect`, `risk`, `merge`, `dir-merge`, `clear`) or its one-letter form
  (`-`, `+`, `H`, `S`, `P`, `R`, `.`, `:`, `!`), modifiers, then a space or
  an underscore and the pattern. `hide` and `show` count on the sending side
  only, `protect` and `risk` on the receiving side only; the modifiers `s`
  and `r` do the same for the others, `!` negates the match, `/` matches
  against the absolute path, and `C` stands for the default list of names
  version-control systems ignore.
* A merge rule names a file whose lines are rules of their own; lines
  starting with `;` or `#` are comments. A per-directory merge rule
  (`dir-merge` or `:`) keeps a place in the list, which the rules of the
  file of that name in each directory visited fill; see
  `BackupRotation.Tools.Transfer.Local`. A rule for extended attributes
  (modifier `x`) never applies to a file.

With `--delete-excluded`, rules that name no side count on the sending side
only, wherever the option stands among the rules, so what they exclude is no
longer protected.

## Matching

A pattern is matched against the path of an item relative to the transfer
root. A trailing slash matches directories only. A pattern with no slash
and no double star looks at the last name only; one that starts with a
slash is anchored at the root; any other pattern with a slash must match
the last names of the path, as many as it has names itself. A pattern with
a double star is instead tried at the start and after every slash, and one
that ends in `/***` also matches the directory itself.
-/

namespace BackupRotation.Tools

open Files Text

/-- A filter rule, its pattern already examined. -/
structure FilterRule where
  /-- A match includes the item rather than excluding it. -/
  admits : Bool
  /-- The pattern with any trailing slash removed; a leading slash anchors it. -/
  pattern : Bytes
  /-- Only a directory can match; anything else counts as not matching. -/
  directoryOnly : Bool
  /-- The rule applies to the items its pattern does not match. -/
  negated : Bool
  /-- The pattern is matched against the absolute path. -/
  absolute : Bool
  /-- The rule was restricted to the sending side. -/
  senderOnly : Bool
  /-- The rule was restricted to the receiving side. -/
  receiverOnly : Bool
  /-- The pattern holds `*`, `?` or `[`. -/
  wild : Bool
  /-- The pattern holds `**`. -/
  doubleStar : Bool
  /-- The pattern starts with `**`. -/
  leadingDoubleStar : Bool
  /-- The pattern ends with `***`. -/
  trailingTripleStar : Bool
  /-- The number of slashes in the pattern. -/
  slashCount : Nat
  /-- The rule does not protect what lies inside a directory being deleted. -/
  perishable : Bool := false
deriving DecidableEq, Repr

/-- Whether `part` occurs in `text`. -/
def bytesInfix (part text : Bytes) : Bool :=
  (List.range (text.length + 1)).any fun start => part.isPrefixOf (text.drop start)

/-- The flags a rule carries apart from its pattern. -/
structure RuleFlags where
  admits : Bool := false
  negated : Bool := false
  absolute : Bool := false
  /-- Restricted to the sending side. -/
  senderOnly : Bool := false
  /-- Restricted to the receiving side. -/
  receiverOnly : Bool := false
  /-- Default names ignored by version-control systems. -/
  cvs : Bool := false
  /-- Rules read from a merge file carry no prefix. -/
  noPrefixes : Bool := false
  /-- Rules read from a merge file are split at white space. -/
  wordSplit : Bool := false
  /-- A merge rule: the pattern names a file of rules. -/
  merge : Bool := false
  /-- A merge rule whose file is read in every directory. -/
  perDirectory : Bool := false
  /-- The rule clears the list. -/
  clear : Bool := false
  /-- The rule matches extended attribute names, never files. -/
  attributes : Bool := false
  /-- A merge rule that also excludes the file it names. -/
  excludeSelf : Bool := false
  /-- A per-directory merge rule whose rules do not pass to subdirectories. -/
  noInherit : Bool := false
  /-- Rules that do not protect what lies inside a directory being deleted. -/
  perishable : Bool := false
deriving DecidableEq, Repr

/-- The rule a pattern makes with the given flags. -/
def FilterRule.make (flags : RuleFlags) (text : Bytes) : FilterRule :=
  let wild := text.any fun byte => byte == starByte || byte == questionByte || byte == openBracket
  let doubleStar := wild && bytesInfix [starByte, starByte] text
  let directoryOnly := text.length > 1 && text.getLast? == some slash
  let body := if directoryOnly then text.dropLast else text
  { admits := flags.admits, pattern := body, directoryOnly := directoryOnly,
    negated := flags.negated, absolute := flags.absolute,
    senderOnly := flags.senderOnly, receiverOnly := flags.receiverOnly,
    wild := wild, doubleStar := doubleStar,
    leadingDoubleStar := doubleStar && [starByte, starByte].isPrefixOf text,
    trailingTripleStar := doubleStar && [starByte, starByte, starByte].isSuffixOf text,
    slashCount := body.count slash, perishable := flags.perishable }

/-- The last name of a path. -/
def lastName (path : Bytes) : Bytes := (splitSlashes path).getLastD []

/-- Whether `tail` ends `path` at a name boundary. -/
def endsPath (tail path : Bytes) : Bool :=
  tail.isSuffixOf path &&
    (tail.length == path.length || path[path.length - tail.length - 1]? == some slash)

/-- Whether a rule applies to an item, given its path from the transfer
root (never empty), whether it is a directory, and the absolute place of
the transfer root for rules matched against absolute paths. -/
def FilterRule.applies (rule : FilterRule) (root : Bytes) (path : Bytes) (isDirectory : Bool) : Bool :=
  let hit := !rule.negated
  let lastOnly := rule.slashCount == 0 && !rule.doubleStar
  let subject := if lastOnly then lastName path else path
  let front : Bytes :=
    if lastOnly then []
    else if rule.absolute && root.length > 0 then root ++ [slash]
    else if rule.leadingDoubleStar then [slash]
    else []
  let back : Bytes := if isDirectory && rule.trailingTripleStar then [slash] else []
  if path.isEmpty then false
  else if rule.directoryOnly && !isDirectory then !hit
  else
    let anchored := rule.pattern.head? == some slash
    let pattern := if anchored then rule.pattern.drop 1 else rule.pattern
    let start : MatchStart :=
      if !anchored && rule.slashCount > 0 && !rule.doubleStar then .lastNames (rule.slashCount + 1)
      else if !anchored && !rule.leadingDoubleStar && rule.doubleStar then .anySlash
      else .first
    let text := front ++ subject ++ back
    let found :=
      if rule.wild then wildMatchFrom start pattern text
      else if !front.isEmpty || !back.isEmpty then literalMatchFrom start pattern text
      else if anchored then subject == pattern
      else endsPath pattern subject
    if found then hit else !hit

/-- The verdict of the first rule that applies to an item: some true for
included, some false for excluded, none when no rule applies. -/
def firstVerdict (rules : List FilterRule) (root path : Bytes) (isDirectory : Bool) : Option Bool :=
  (rules.find? fun rule => rule.applies root path isDirectory).map (·.admits)

/-- One place in the list of rules: a rule, or the place of a
per-directory merge rule with the rules it holds in the directory being
visited. -/
inductive RuleSlot where
  | rule (rule : FilterRule)
  /-- The file name to read in each directory, the flags of the merge rule,
  whether the directories above the first one visited are still to be read
  (for a name with a slash), and the rules in force, the nearest
  directory's first. -/
  | perDirectory (file : Bytes) (flags : RuleFlags) (pending : Bool) (active : List FilterRule)
deriving Repr

/-- The rules a slot stands for. -/
def RuleSlot.rules : RuleSlot → List FilterRule
  | .rule single => [single]
  | .perDirectory _ _ _ active => active

/-- The rules a list of slots stands for, in order. -/
def slotRules (slots : List RuleSlot) : List FilterRule := slots.flatMap RuleSlot.rules

/-- Whether a rule decides what is sent: every rule does but one
restricted to the receiving side alone. -/
def FilterRule.sends (rule : FilterRule) : Bool := rule.senderOnly || !rule.receiverOnly

/-- Whether a rule decides what is protected from deletion: a rule
restricted to the receiving side does, and so does a rule that names no
side unless `--delete-excluded` turns it into a sending rule. -/
def FilterRule.protects (deleteExcluded : Bool) (rule : FilterRule) : Bool :=
  rule.receiverOnly || (!rule.senderOnly && !deleteExcluded)

/-- Whether the sending side leaves an item out. -/
def sendsNot (slots : List RuleSlot) (root path : Bytes) (isDirectory : Bool) : Bool :=
  firstVerdict ((slotRules slots).filter (·.sends)) root path isDirectory == some false

/-- Whether the receiving side protects an item from deletion. -/
def keepsFromDeletion (deleteExcluded : Bool) (slots : List RuleSlot) (root path : Bytes)
    (isDirectory : Bool) : Bool :=
  firstVerdict ((slotRules slots).filter (·.protects deleteExcluded)) root path isDirectory == some false

/-- Whether the receiving side protects an item inside a directory being
deleted, where perishable rules do not count. -/
def keepsWhileEmptying (deleteExcluded : Bool) (slots : List RuleSlot) (root path : Bytes)
    (isDirectory : Bool) : Bool :=
  firstVerdict ((slotRules slots).filter fun rule => rule.protects deleteExcluded && !rule.perishable)
    root path isDirectory == some false

/-- Names version-control systems ignore by default, as exclude patterns. -/
def cvsIgnored : List String :=
  ["RCS", "SCCS", "CVS", "CVS.adm", "RCSLOG", "cvslog.*", "tags", "TAGS", ".make.state",
    ".nse_depinfo", "*~", "#*", ".#*", ",*", "_$*", "*$", "*.old", "*.bak", "*.BAK", "*.orig",
    "*.rej", ".del-*", "*.a", "*.olb", "*.o", "*.obj", "*.so", "*.exe", "*.Z", "*.elc", "*.ln",
    "core", ".svn/", ".git/", ".hg/", ".bzr/"]

/-! ## Reading rule text -/

/-- How a piece of rule text is read. -/
inductive RuleSyntax where
  /-- A full rule: name or letter, modifiers, pattern. -/
  | full
  /-- A pattern that may start with `- ` or `+ `, of the given kind otherwise. -/
  | prefixed (admits : Bool)
  /-- A bare pattern of the given kind. -/
  | bare (admits : Bool)
deriving DecidableEq, Repr

/-- What a piece of rule text asks for. -/
inductive RuleAction where
  | add (rule : FilterRule)
  | clear
  /-- Add the default names version-control systems ignore. -/
  | cvs (flags : RuleFlags)
  /-- Read more rules from a file, with the flags of the merge rule. -/
  | merge (file : Bytes) (flags : RuleFlags)
  /-- Read the rules of a file of this name in every directory visited. -/
  | perDirectory (file : Bytes) (flags : RuleFlags)
deriving Repr

/-- Whether a byte is white space in the C sense. -/
def isCSpaceByte (byte : UInt8) : Bool := byte == 0x20 || byteWithin 0x09 0x0D byte

/-- The letter a rule name stands for, and the text after the name (from
its separator on), when the text starts with that name followed by white
space, an underscore, a comma or its end. -/
def ruleName? (text : Bytes) : Option (UInt8 × Bytes) :=
  let names : List (String × Char) :=
    [("clear", '!'), ("dir-merge", ':'), ("exclude", '-'), ("hide", 'H'), ("include", '+'),
      ("merge", '.'), ("protect", 'P'), ("risk", 'R'), ("show", 'S')]
  names.findSome? fun (name, letter) =>
    let word := encode name
    if word.isPrefixOf text then
      let rest := text.drop word.length
      match rest with
      | [] => some (letter.toNat.toUInt8, rest)
      | next :: _ =>
          if isCSpaceByte next || next == 0x5F || next == 0x2C then some (letter.toNat.toUInt8, rest)
          else none
    else none

/-- The flags a rule letter gives, and whether it fixes the side. -/
def letterFlags (letter : UInt8) : Option (RuleFlags × Bool) :=
  if letter == 0x2D then some ({}, false)
  else if letter == 0x2B then some ({ admits := true }, false)
  else if letter == 0x48 then some ({ senderOnly := true }, true)
  else if letter == 0x53 then some ({ admits := true, senderOnly := true }, true)
  else if letter == 0x50 then some ({ receiverOnly := true }, true)
  else if letter == 0x52 then some ({ admits := true, receiverOnly := true }, true)
  else if letter == 0x2E then some ({ merge := true }, false)
  else if letter == 0x3A then some ({ merge := true, perDirectory := true }, false)
  else if letter == 0x21 then some ({ clear := true }, false)
  else none

/-- Apply one modifier to the flags of a rule; none when it does not fit. -/
def applyModifier (fixedSide : Bool) (flags : RuleFlags) (modifier : UInt8) : Option RuleFlags :=
  if modifier == 0x2D then
    if flags.merge && !flags.noPrefixes then some { flags with noPrefixes := true } else none
  else if modifier == 0x2B then
    if flags.merge && !flags.noPrefixes then some { flags with noPrefixes := true, admits := true } else none
  else if modifier == 0x2F then some { flags with absolute := true }
  else if modifier == 0x21 then
    if flags.merge then none else some { flags with negated := true }
  else if modifier == 0x43 then
    if flags.noPrefixes || fixedSide then none
    else some { flags with noPrefixes := true, wordSplit := true, cvs := true,
                           noInherit := flags.noInherit || flags.merge }
  else if modifier == 0x65 then
    if flags.merge then some { flags with excludeSelf := true } else none
  else if modifier == 0x6E then
    if flags.merge then some { flags with noInherit := true } else none
  else if modifier == 0x70 then some { flags with perishable := true }
  else if modifier == 0x78 then some { flags with attributes := true }
  else if modifier == 0x72 then
    if fixedSide then none else some { flags with receiverOnly := true }
  else if modifier == 0x73 then
    if fixedSide then none else some { flags with senderOnly := true }
  else if modifier == 0x77 then
    if flags.merge then some { flags with wordSplit := true } else none
  else none

/-- A piece of rule text that does not read: the complaint, and the line
of the rule reader that the closing error report names. -/
structure RuleProblem where
  message : String
  line : Nat
deriving Repr

/-- Read modifiers up to a space, an underscore or the end; gives the flags
and the pattern after the separator, or the modifier that does not fit with
the number of bytes from it to the end. -/
def readModifiers (fixedSide : Bool) (flags : RuleFlags) : Bytes → Except (UInt8 × Nat) (RuleFlags × Bytes)
  | [] => .ok (flags, [])
  | byte :: rest =>
      if byte == 0x20 || byte == 0x5F then .ok (flags, rest)
      else
        match applyModifier fixedSide flags byte with
        | some next => readModifiers fixedSide next rest
        | none => .error (byte, rest.length + 1)

/-- Read the head of a full rule: the flags and the pattern. -/
def readFullRule (text : Bytes) : Except RuleProblem (RuleFlags × Bytes) :=
  let unknown : RuleProblem := { message := "Unknown filter rule: `" ++ lossy text ++ "'", line := 1212 }
  let named := match ruleName? text with
    | some (letter, rest) =>
        some (letter, match rest with
          | 0x2C :: more => more
          | _ => rest)
    | none =>
        match text with
        | letter :: rest =>
            if [0x63, 0x64, 0x65, 0x68, 0x69, 0x6D, 0x70, 0x72, 0x73].contains letter then none
            else some (letter, match rest with
              | 0x2C :: more => more
              | _ => rest)
        | [] => none
  match named with
  | none => .error unknown
  | some (letter, rest) =>
      match letterFlags letter with
      | none => .error unknown
      | some (flags, fixedSide) =>
          if flags.clear then .ok (flags, rest)
          else
            match readModifiers fixedSide flags rest with
            | .ok read => .ok read
            | .error (byte, left) =>
                .error { message := "invalid modifier '" ++ lossy [byte] ++ "' at position " ++
                           toString (text.length - left) ++ " in filter rule: " ++ lossy text,
                         line := 1225 }

/-- The flags and the rest of a piece of rule text, read up to its pattern.
Rules inherit `inherited`: the kind and sides of the option or merge file
they come from. -/
def ruleHead (spelling : RuleSyntax) (inherited : RuleFlags) (text : Bytes) :
    Except RuleProblem (RuleFlags × Bytes) := do
  let (flags, pattern) ← match spelling with
    | .full => do
        let (flags, pattern) ← readFullRule text
        pure ({ flags with admits := flags.admits || inherited.admits,
                           perishable := flags.perishable || inherited.perishable }, pattern)
    | .prefixed admits =>
        match text with
        | 0x2D :: 0x20 :: rest => pure ({ inherited with admits := false }, rest)
        | 0x2B :: 0x20 :: rest => pure ({ inherited with admits := true }, rest)
        | 0x21 :: _ => pure ({ inherited with admits := admits, clear := true }, text)
        | _ => pure ({ inherited with admits := admits }, text)
    | .bare admits =>
        match text with
        | 0x21 :: _ =>
            if inherited.cvs then pure ({ inherited with admits := admits, clear := true, cvs := false }, text)
            else pure ({ inherited with admits := admits, cvs := false }, text)
        | _ => pure ({ inherited with admits := admits, cvs := false }, text)
  let sided := inherited.senderOnly || inherited.receiverOnly
  if sided && (flags.senderOnly || flags.receiverOnly) && spelling == .full then
    throw { message := "specified-side merge file contains specified-side filter: " ++ lossy text,
            line := 1300 }
  pure ({ flags with
    senderOnly := flags.senderOnly || inherited.senderOnly,
    receiverOnly := flags.receiverOnly || inherited.receiverOnly }, pattern)

/-- What the rule `text`, read as the given flags and pattern, asks for. A
merge rule marked `e` first excludes the last name of the file it names. -/
def ruleAction (spelling : RuleSyntax) (text : Bytes) (flags : RuleFlags) (pattern : Bytes) :
    Except RuleProblem (List RuleAction) :=
  if flags.clear then
    if spelling == .full && !pattern.isEmpty then
      .error { message := "'!' rule has trailing characters: " ++ lossy text, line := 1319 }
    else if pattern.length > 1 then .ok [.add (FilterRule.make { flags with clear := false } pattern)]
    else .ok [.clear]
  else if pattern.isEmpty && !flags.cvs then
    .error { message := "unexpected end of filter rule: " ++ lossy text, line := 1325 }
  else if flags.attributes then .ok []
  else if flags.merge then
    let file := if pattern.isEmpty then encode ".cvsignore" else pattern
    let itself : List RuleAction :=
      if flags.excludeSelf then [.add (FilterRule.make {} ((splitSlashes file).getLastD []))] else []
    if flags.perDirectory then .ok (itself ++ [.perDirectory file flags])
    else .ok (itself ++ [.merge file flags])
  else if flags.cvs then .ok [.cvs flags]
  else .ok [.add (FilterRule.make flags pattern)]

/-- Read one piece of rule text as a single rule. -/
def readRule (spelling : RuleSyntax) (inherited : RuleFlags) (text : Bytes) :
    Except RuleProblem (List RuleAction) := do
  let (flags, pattern) ← ruleHead spelling inherited text
  ruleAction spelling text flags pattern

/-- The words of a text, split at white space. -/
def splitWords (text : Bytes) : List Bytes :=
  (text.splitBy fun a b => isCSpaceByte a == isCSpaceByte b).filter fun word =>
    !word.isEmpty && !(word.all isCSpaceByte)

/-- Read rule text split at white space: every word is a rule of its own,
so a rule's name and its pattern cannot stand apart. -/
def readSplitRules (spelling : RuleSyntax) (inherited : RuleFlags) (text : Bytes) :
    Except RuleProblem (List RuleAction) :=
  (splitWords text).foldlM (fun (acc : List RuleAction) word => do
    pure (acc ++ (← readRule spelling inherited word))) []

/-- The rules the default ignore list makes for a `C` rule with the given
flags. -/
def cvsRules (flags : RuleFlags) : List FilterRule :=
  cvsIgnored.map fun name =>
    FilterRule.make { admits := false, senderOnly := flags.senderOnly, receiverOnly := flags.receiverOnly }
      (encode name)

/-- The lines of a rule file: split at newlines and carriage returns, empty
lines and comment lines left out. -/
def ruleLines (content : Bytes) : List Bytes :=
  ((content.splitBy fun a b => (a == 0x0A || a == 0x0D) == (b == 0x0A || b == 0x0D)).filter
    fun line => !line.isEmpty && !(line.all fun byte => byte == 0x0A || byte == 0x0D)).filter
    fun line => line.head? != some 0x3B && line.head? != some 0x23

end BackupRotation.Tools
