import BackupRotation.Cli.Complaint
/-!
# Reading the command line

Words are read left to right, one level at a time: the program's options
until a word names a command, then the command's options and positional
argument until the words run out. A word is

* a command name or alias, at the top;
* `--`, after which every word is positional;
* a long option `--name` or `--name=value`;
* a cluster of short options `-abc`, where a letter that takes a value takes
  the rest of the cluster, an `=` before it dropped, or else the next word;
* anything else: the value an option is waiting for, or the next positional
  argument.

An option waiting for a value that may start with a dash takes the next
word whatever it looks like. Values are checked when the argument they
belong to is complete, which for a value in its own word is when the next
argument starts or the words run out; so a complaint about an empty value
can come after the word that follows it has been read.

A complaint about a word records what was read before it, because the usage
line it shows names the options already used. `help` as a command prints the
help of the commands named after it.
-/

namespace BackupRotation.Cli

open Text

/-- What has been found of one argument. -/
inductive Found where
  /-- A switch that appeared. -/
  | switch
  /-- A counted switch, with the number of times it appeared. -/
  | count (times : Nat)
  /-- Values given; none yet while the value is still to come or was
  refused. -/
  | values (items : List String)
deriving DecidableEq, Repr

/-- Arguments found at one level, in the order they were first recorded. -/
structure Matches where
  found : List (String × Found) := []
deriving Repr

namespace Matches

/-- What was found of an argument. -/
def get? (given : Matches) (id : String) : Option Found :=
  (given.found.find? (·.1 == id)).map (·.2)

/-- Whether an argument was given. -/
def has (given : Matches) (id : String) : Bool := given.found.any (·.1 == id)

/-- The arguments given, in order. -/
def ids (given : Matches) : List String := given.found.map (·.1)

/-- Forget an argument. -/
def without (given : Matches) (id : String) : Matches :=
  { found := given.found.filter (·.1 != id) }

/-- Record an argument: in its place if it was given, else last. -/
def put (given : Matches) (id : String) (found : Found) : Matches :=
  if given.has id then
    { found := given.found.map fun entry => if entry.1 == id then (id, found) else entry }
  else { found := given.found ++ [(id, found)] }

/-- The value given for an argument. -/
def value? (given : Matches) (id : String) : Option String :=
  match given.get? id with
  | some (.values (first :: _)) => some first
  | _ => none

/-- Whether a switch was given. -/
def flag (given : Matches) (id : String) : Bool := given.has id

/-- How many times a counted switch was given. -/
def times (given : Matches) (id : String) : Nat :=
  match given.get? id with
  | some (.count n) => n
  | _ => 0

end Matches

/-- An argument that takes values. -/
inductive Slot where
  | named (arg : NamedArg)
  | positional (arg : Positional)
deriving Repr

/-- Values read for an argument that is not complete yet. -/
structure Pending where
  slot : Slot
  values : List String
deriving Repr

/-- The state of reading one level. -/
structure Cursor where
  seen : Matches := {}
  pending : Option Pending := none
  /-- Index of the next positional argument. -/
  position : Nat := 0
  /-- The option whose value is expected in the next word. -/
  awaiting : Option NamedArg := none
  /-- Whether `--` was read. -/
  trailing : Bool := false
deriving Repr

/-- Whether the next word is taken as a value whatever it looks like. -/
def Cursor.takesAnyWord (cursor : Cursor) : Bool :=
  match cursor.awaiting with
  | some arg => arg.hyphenValues
  | none => false

/-- Reading a level: it may stop, keeping what it had read. -/
abbrev Reader := ExceptT Halt (StateM Cursor)

/-- Stop with a complaint. -/
def complain {α : Type} (level : Level) (complaint : Complaint) : Reader α :=
  throw (.refused (complaint.render level.helpHint))

/-- Change what was found. -/
def alterMatches (change : Matches → Matches) : Reader Unit :=
  modify fun cursor => { cursor with seen := change cursor.seen }

/-- Record an argument with its complete values. -/
def record (level : Level) : Slot → List String → Reader Unit
  | .positional arg, values => do
      alterMatches (·.put arg.id (.values []))
      if arg.nonEmpty && values.any (·.isEmpty) then complain level (emptyValue arg.display)
      alterMatches (·.put arg.id (.values values))
  | .named arg, values => do
      match arg.action with
      | .help => throw (.printed level.helpText)
      | .version => throw (.printed level.versionText)
      | .count =>
          let times := (← get).seen.times arg.id
          alterMatches fun found => (found.without arg.id).put arg.id (.count (times + 1))
      | .switch =>
          if (← get).seen.has arg.id then
            alterMatches (·.without arg.id)
            complain level (givenTwice arg.display level.usage)
          alterMatches (·.put arg.id .switch)
      | .value =>
          if values.isEmpty then complain level (emptyValue arg.display)
          if (← get).seen.has arg.id then
            alterMatches (·.without arg.id)
            complain level (givenTwice arg.display level.usage)
          alterMatches (·.put arg.id (.values []))
          if arg.nonEmpty && values.any (·.isEmpty) then complain level (emptyValue arg.display)
          alterMatches (·.put arg.id (.values values))

/-- Complete the argument whose values were being read. -/
def resolvePending (level : Level) : Reader Unit := do
  match (← get).pending with
  | none => pure ()
  | some pending =>
      modify fun cursor => { cursor with pending := none }
      record level pending.slot pending.values

/-- Complete the pending argument before a complaint, whose own trouble
gives way to the complaint. -/
def settleQuietly (level : Level) : Reader Unit :=
  tryCatch (resolvePending level) fun _ => pure ()

/-- An occurrence of an option with the values that came with it. -/
def react (level : Level) (arg : NamedArg) (values : List String) : Reader Unit := do
  resolvePending level
  record level (.named arg) values

/-- An option that takes a value: the attached one, or the next word. -/
def readValueOf (level : Level) (arg : NamedArg) (attached : Option String) : Reader Unit := do
  match attached with
  | some value => react level arg [value]
  | none =>
      resolvePending level
      modify fun cursor => { cursor with pending := some ⟨.named arg, []⟩, awaiting := some arg }

/-- What a dashed word turned out to be. -/
inductive Reading where
  /-- It was read as options. -/
  | done
  /-- It is a value or a positional argument after all. -/
  | asValue
deriving DecidableEq, Repr

/-- The complaint about an unknown long option, with the closest long name
of the level, or else an option of a command named later on the line. -/
def unknownLong (level : Level) (name : String) (rest : List String) : Reader Unit := do
  let own := closestName name level.longs
  let elsewhere : Option (Nat × String × String) := match own with
    | some _ => none
    | none =>
        let scored := level.commands.filterMap fun command =>
          match closestName name (level.sub command).longs,
              rest.findIdx? (· == command.name) with
          | some candidate, some index => some (index, candidate, command.name)
          | _, _ => none
        scored.foldl (fun best item => match best with
          | some kept => if item.1 < kept.1 then some item else best
          | none => some item) none
  if let some long := own then
    if let some arg := level.findLong long then
      if !(← get).seen.has arg.id then alterMatches (·.put arg.id (.values []))
  let cursor ← get
  let word := "--" ++ name
  let trailingTip :=
    if own.isNone && elsewhere.isNone && !cursor.trailing && !level.positionals.isEmpty then
      [asValueTip word ""]
    else []
  let commandTip := match elsewhere with
    | some (_, candidate, command) => [quoted (command ++ " --" ++ candidate) ++ " exists"]
    | none => []
  complain level { unexpected word (trailingTip ++ commandTip) (level.usageFor cursor.seen.ids)
    with similar := own.map fun long => ("argument", ["--" ++ long]) }

/-- Read a long option, `body` being the word without its dashes. -/
def readLong (level : Level) (body : String) (rest : List String) : Reader Reading := do
  if (← get).takesAnyWord then return .asValue
  modify fun cursor => { cursor with awaiting := none }
  let (name, attached) := match splitAtFirst '=' body.toList with
    | some (name, value) => (String.ofList name, some (String.ofList value))
    | none => (body, none)
  match level.findLong name with
  | some arg =>
      if arg.action == .value then
        readValueOf level arg attached
        return .done
      match attached with
      | some extra =>
          let used := (← get).seen.ids ++ [arg.id]
          settleQuietly level
          complain level (unwantedValue extra arg.display (level.usageFor used))
      | none =>
          react level arg []
          return .done
  | none =>
      settleQuietly level
      unknownLong level name rest
      return .done

/-- Read the letters of a short cluster. -/
def readLetters (level : Level) : List Char → Reader Reading
  | [] => pure .done
  | letter :: more => do
      match level.findShort letter with
      | some arg =>
          if arg.action == .value then
            let attached := match more with
              | [] => none
              | '=' :: value => some (String.ofList value)
              | _ => some (String.ofList more)
            readValueOf level arg attached
            return .done
          react level arg []
          readLetters level more
      | none =>
          settleQuietly level
          let word := "-" ++ String.singleton letter
          let tips := if level.positionals.isEmpty then [] else [asValueTip word ""]
          complain level (unexpected word tips level.usage)

/-- Read a short cluster, `letters` being the word without its dash. -/
def readShort (level : Level) (letters : List Char) : Reader Reading := do
  if (← get).takesAnyWord then return .asValue
  modify fun cursor => { cursor with awaiting := none }
  readLetters level letters

/-- Read a word that may be options. -/
def readWord (level : Level) (word : String) (rest : List String) : Reader Reading := do
  if word == "--" then
    if (← get).takesAnyWord then return .asValue
    modify fun cursor => { cursor with trailing := true }
    return .done
  else if startsWith word "--" then readLong level (String.ofList (word.toList.drop 2)) rest
  else if startsWith word "-" && word != "-" then readShort level (word.toList.drop 1)
  else return .asValue

/-- The complaint about a word the level has no place for. -/
def misplaced (level : Level) (word : String) : Reader Unit := do
  let trailing := (← get).trailing
  if trailing && (level.findCommand word).isSome then
    complain level (unexpected word
      ["subcommand " ++ quoted word ++ " exists; to use it, remove the " ++ quoted "--" ++
        " before it"] level.usage)
  let dashed := startsWith word "-" && word != "-" && word != "--"
  let suggestTrailing := !trailing && !level.positionals.isEmpty && dashed
  if !level.commands.isEmpty then
    let candidates := similarNames word level.commandNames
    if !candidates.isEmpty then
      complain level { unknownCommand word candidates level.usage with
        tips := if suggestTrailing then [asValueTip word (level.binName ++ " ")] else [] }
    if level.positionals.isEmpty then complain level (unknownCommand word [] level.usage)
  complain level (unexpected word (if suggestTrailing then [asValueTip word ""] else [])
    level.usage)

/-- Take a word as the next positional argument. -/
def readPositional (level : Level) (word : String) : Reader Unit := do
  match level.positionals[(← get).position]? with
  | some arg =>
      resolvePending level
      modify fun cursor =>
        { cursor with pending := some ⟨.positional arg, [word]⟩, position := cursor.position + 1,
                      awaiting := none }
  | none =>
      settleQuietly level
      misplaced level word

/-- Take a word as a value: of the option waiting for one, or positional. -/
def readValue (level : Level) (word : String) : Reader Unit := do
  match (← get).awaiting, (← get).pending with
  | some _, some pending =>
      modify fun cursor =>
        { cursor with pending := some { pending with values := pending.values ++ [word] },
                      awaiting := none }
  | _, _ => readPositional level word

/-- Where reading a level ended. -/
inductive Stop where
  /-- The words ran out. -/
  | finished
  /-- A word named a command; the words after it are its own. -/
  | command (command : Command) (rest : List String)
deriving Repr

/-- Read the words of a level. -/
def walk (level : Level) : List String → Reader Stop
  | [] => pure .finished
  | word :: rest => do
      if (← get).trailing then
        readPositional level word
        walk level rest
      else
        match level.findCommand word with
        | some command => pure (.command command rest)
        | none =>
            let reading ← readWord level word rest
            if reading == .asValue then readValue level word
            walk level rest

/-- Check a level whose words ran out: what is pending, the command the top
needs, and the positional arguments that must be given. -/
def finish (level : Level) : Reader Unit := do
  resolvePending level
  let cursor ← get
  if !level.commands.isEmpty then
    if cursor.seen.found.isEmpty then throw (.refused level.helpText)
    complain level
      { message := quoted level.binName ++ " requires a subcommand but one was not provided" ++
          "\n  [subcommands: " ++ ", ".intercalate level.commandNames ++ "]",
        usage := level.usage }
  let missing := level.positionals.filter fun arg => arg.required && !cursor.seen.has arg.id
  if !missing.isEmpty then
    complain level
      { message := "the following required arguments were not provided:" ++
          String.join (missing.map fun arg => "\n  " ++ arg.display),
        usage := level.usageOf (cursor.seen.ids ++ missing.map (·.id)) }

/-- What `help` prints for the commands named after it. -/
def helpFor (level : Level) : List String → Halt
  | [] => .printed level.helpText
  | name :: rest =>
      match level.findCommand name with
      | some command => helpFor (level.sub command) rest
      | none => .refused ((unknownCommand name [] level.usage).render level.helpHint)

/-- A command line that was read to the end. -/
structure Parsed where
  command : Command
  /-- Arguments given before the command. -/
  top : Matches
  /-- Arguments of the command. -/
  own : Matches
deriving Repr

/-- Read a whole command line, the program name left out. -/
def readLine (program : Program) (words : List String) : Except Halt Parsed :=
  let top := program.top
  match (walk top words).run.run {} with
  | (.error halt, _) => .error halt
  | (.ok .finished, cursor) =>
      match (finish top).run.run cursor with
      | (.error halt, _) => .error halt
      | (.ok _, _) => .error (.refused top.helpText)
  | (.ok (.command command rest), topCursor) =>
      if command.name == helpCommand.name then .error (helpFor top rest)
      else
        let level := top.sub command
        match (do let _ ← walk level rest; finish level).run.run {} with
        | (.error halt, _) => .error halt
        | (.ok _, cursor) =>
            .ok { command := command, top := topCursor.seen, own := cursor.seen }

end BackupRotation.Cli
