import BackupRotation.Cli.Help
/-!
# Complaints about the command line

A command line the parser cannot accept is answered on standard error with
a complaint: one line saying what is wrong, then hints, then the usage line
of the level being read, then where to find more. Hints come in two kinds:
names similar to one that was not understood, and free-standing tips, such
as how to pass a dashed word as a value.

Reading stops with either such a complaint or text the user asked for,
help or the version, which goes to standard output.
-/

namespace BackupRotation.Cli

/-- What is wrong with a command line, with its hints. -/
structure Complaint where
  message : String
  /-- Names close to the one given: the kind of name, and the names. -/
  similar : Option (String × List String) := none
  tips : List String := []
  /-- The usage line to show, if any. -/
  usage : Option String := none
deriving Repr

/-- A name as hints quote it. -/
def quoted (name : String) : String := "'" ++ name ++ "'"

/-- The hint naming similar names. -/
def similarHint : Option (String × List String) → String
  | none => ""
  | some (kind, [only]) => "\n\n  tip: a similar " ++ kind ++ " exists: " ++ quoted only
  | some (kind, names) =>
      "\n\n  tip: some similar " ++ kind ++ "s exist: " ++ ", ".intercalate (names.map quoted)

/-- The complaint as written on standard error, pointing to `hint` for more. -/
def Complaint.render (complaint : Complaint) (hint : Option String) : String :=
  let tips :=
    if complaint.tips.isEmpty then ""
    else (if complaint.similar.isSome then "" else "\n") ++
      String.join (complaint.tips.map ("\n  tip: " ++ ·))
  let usage := match complaint.usage with
    | some line => "\n\nUsage: " ++ line
    | none => ""
  let more := match hint with
    | some flag => "\n\nFor more information, try " ++ quoted flag ++ ".\n"
    | none => "\n"
  "error: " ++ complaint.message ++ similarHint complaint.similar ++ tips ++ usage ++ more

/-- Why reading a command line stopped before a command could run. -/
inductive Halt where
  /-- Text the user asked for, on standard output, status zero. -/
  | printed (text : String)
  /-- A refusal, on standard error, status two. -/
  | refused (text : String)
deriving Repr

/-- The complaint about a word that is not an argument of the level. -/
def unexpected (word : String) (tips : List String) (usage : String) : Complaint :=
  { message := "unexpected argument " ++ quoted word ++ " found", tips := tips, usage := usage }

/-- The tip on passing a dashed word as a value. -/
def asValueTip (word : String) (lead : String) : String :=
  "to pass " ++ quoted word ++ " as a value, use " ++ quoted (lead ++ "-- " ++ word)

/-- The complaint about an option given no value, or an empty one where
that is refused. -/
def emptyValue (display : String) : Complaint :=
  { message := "a value is required for " ++ quoted display ++ " but none was supplied" }

/-- The complaint about an option given twice. -/
def givenTwice (display : String) (usage : String) : Complaint :=
  { message := "the argument " ++ quoted display ++ " cannot be used multiple times",
    usage := usage }

/-- The complaint about a value attached to a switch. -/
def unwantedValue (value display : String) (usage : String) : Complaint :=
  { message := "unexpected value " ++ quoted value ++ " for " ++ quoted display ++
      " found; no more were expected",
    usage := usage }

/-- The complaint about a word that names no command. -/
def unknownCommand (word : String) (similar : List String) (usage : String) : Complaint :=
  { message := "unrecognized subcommand " ++ quoted word,
    similar := if similar.isEmpty then none else some ("subcommand", similar), usage := usage }

end BackupRotation.Cli
