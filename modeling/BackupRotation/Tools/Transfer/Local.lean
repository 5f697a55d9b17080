import BackupRotation.Tools.Transfer.Options
/-!
# Per-directory rule files

A per-directory merge rule keeps a place in the list of rules. Each
directory whose entries are listed is entered first, and entering it reads
the file of the rule's name there, if it is a file: its rules go in front of
those the slot already holds, so the nearest directory's rules are tried
first, or in place of them when the rule was marked not to pass its rules
on, or when the file clears the list. The sending side enters the
directories it walks; the receiving side enters those of the destination
before deleting in them.

A rule whose name has a slash names, by that name's directory part, a
directory above the transfer: when the first directory is entered, the
files in the directories from that one down to the parent of the entered
directory are read first, in that order, as if they had been entered too.
Afterwards only the last name of the file counts.

A pattern in such a file that starts with a slash is anchored at the
directory the file lies in: it becomes a pattern on absolute paths with
that directory's path in front. Merge rules inside the file are not
followed, and a file whose rules do not read adds none.
-/

namespace BackupRotation.Tools

open Files Text

/-- A rule of a file read in `dir`, anchored there when its pattern starts
with a slash. -/
def anchorAt (dir : Key) (rule : FilterRule) : FilterRule :=
  if rule.pattern.head? == some slash && !rule.absolute then
    { rule with pattern := (dir.map (slash :: ·)).flatten ++ rule.pattern, absolute := true,
                slashCount := rule.slashCount + dir.length }
  else rule

/-- The actions the text of a per-directory file asks for, read with the
flags of its rule; none when it does not read. -/
def localActions (flags : RuleFlags) (content : Bytes) : List RuleAction :=
  let inner : RuleSyntax := if flags.noPrefixes then .bare flags.admits else .full
  let inherited : RuleFlags :=
    { admits := flags.admits, senderOnly := flags.senderOnly,
      receiverOnly := flags.receiverOnly, cvs := flags.cvs, perishable := flags.perishable }
  let read := if flags.wordSplit then readSplitRules inner inherited content
    else (ruleLines content).foldlM (fun (acc : List RuleAction) line => do
      pure (acc ++ (← readRule inner inherited line))) []
  match read with
  | .ok actions => actions
  | .error _ => []

/-- The rules of the file named `name` in `dir`, put in front of the rules
`held`. -/
def readLocalFile (fs : FileSystem) (dir : Key) (name : Bytes) (flags : RuleFlags)
    (held : List FilterRule) : List FilterRule :=
  match fs.readPermitted (dir ++ [name]).path with
  | .error _ => held
  | .ok content =>
      let (fresh, kept) := (localActions flags content).foldl
        (fun (acc : List FilterRule × List FilterRule) action =>
          let (fresh, kept) := acc
          match action with
          | .add rule => (fresh ++ [anchorAt dir rule], kept)
          | .clear => ([], [])
          | .cvs cvsFlags => (fresh ++ cvsRules cvsFlags, kept)
          | .merge _ _ => acc
          | .perDirectory _ _ => acc) ([], held)
      fresh ++ kept

/-- The directory a rule file name with a slash starts from, as a place in
the file system: its directory part, from the working directory when it is
relative, with `.` and `..` taken out. -/
def scanStart (fs : FileSystem) (name : Bytes) : Key :=
  let parts := (splitSlashes name).dropLast
  let start : Key := if name.head? == some slash then [] else fs.cwd
  parts.foldl (fun (key : Key) part =>
    if part.isEmpty || part == [dot] then key
    else if part == [dot, dot] then key.dropLast
    else key ++ [part]) start

/-- The rules held above a directory entered first, for a rule file name
with a slash: the files of its last name read from the directory the name
gives down to the parent of `dir`, when that directory lies above `dir`. -/
def scanAbove (fs : FileSystem) (dir : Key) (name : Bytes) (flags : RuleFlags) : List FilterRule :=
  let start := scanStart fs name
  if start.isPrefixOf dir then
    (List.range (dir.length - start.length)).foldl (fun held step =>
      let rules := readLocalFile fs (dir.take (start.length + step)) (lastName name) flags held
      if flags.noInherit then [] else rules) []
  else []

/-- The slots in force inside a directory once it is entered. -/
def enterDirectory (fs : FileSystem) (dir : Key) (slots : List RuleSlot) : List RuleSlot :=
  slots.map fun slot =>
    match slot with
    | .rule single => .rule single
    | .perDirectory name flags pending active =>
        let held := if pending && name.contains slash then scanAbove fs dir name flags else active
        let held := if flags.noInherit then [] else held
        .perDirectory (lastName name) flags false (readLocalFile fs dir (lastName name) flags held)

/-- The slots in force inside a directory below `top`, entering `top` and
each directory on the way down. -/
def enterPath (fs : FileSystem) (top : Key) (names : List Bytes) (slots : List RuleSlot) :
    List RuleSlot :=
  (List.range (names.length + 1)).foldl (fun slots depth =>
    enterDirectory fs (top ++ names.take depth) slots) slots

end BackupRotation.Tools
