import BackupRotation.Files.Calls
import BackupRotation.Tools.Transfer.Filter
/-!
# What stops the synchronizer before it transfers

A run that cannot start writes what is wrong and then a closing line
naming the kind of error, its exit status, the place in the program that
stopped, and the side of the transfer that stopped there: the client
while options are read, the receiving side (before it splits into its two
halves) for checks made at the destination.

The option reader reports an option it cannot take as the argument that
held it followed by the problem: an unknown option, a missing value, a
value given to an option that takes none, a number that does not read, or
one out of range.

`--info` and `--debug` take comma-separated words, each optionally
followed by a level (1 when none is given); `all` sets every word and
`none` silences them all.

An option that belongs to daemon mode (`--daemon`, `--config`, `--dparam`,
`--detach`, `--no-detach`) makes the reader start over with the options of
daemon mode alone, where the first argument that is none of them stops
the run.
-/

namespace BackupRotation.Tools

open Files Text

/-- Why the run stopped before anything was transferred: the exit status,
the text written first, and the source place and side of the transfer that
the closing error line names. -/
structure Refusal where
  status : Nat
  /-- The text written before the closing line, each line ended. -/
  message : String
  place : String := "main.c(1795)"
  role : String := "client"
deriving Repr

/-- A usage error the option reader reports under the program's name. -/
def usageRefusal (message : String) : Refusal := { status := 1, message := "rsync: " ++ message ++ "\n" }

/-- The refusal a rule that does not read gives. -/
def RuleProblem.refusal (problem : RuleProblem) : Refusal :=
  { status := 1, message := problem.message ++ "\n", place := "exclude.c(" ++ toString problem.line ++ ")" }

/-- The refusal for a rule file that cannot be opened. -/
def ruleFileRefusal (admits : Bool) (file : Bytes) (error : OsError) : Refusal :=
  { status := 11,
    message := "rsync: [client] failed to open " ++ (if admits then "in" else "ex") ++ "clude file " ++
      lossy file ++ ": " ++ error.describe ++ " (" ++ toString error.code ++ ")\n",
    place := "exclude.c(1481)" }

/-- The name of the kind of error an exit status stands for. -/
def statusKind (status : Nat) : String :=
  if status == 1 then "syntax or usage error"
  else if status == 2 then "protocol incompatibility"
  else if status == 3 then "errors selecting input/output files, dirs"
  else if status == 4 then "requested action not supported"
  else if status == 5 then "error starting client-server protocol"
  else if status == 11 then "error in file IO"
  else if status == 12 then "error in rsync protocol data stream"
  else if status == 23 then "some files/attrs were not transferred (see previous errors)"
  else if status == 24 then "some files vanished before they could be transferred"
  else if status == 25 then "the --max-delete limit stopped deletions"
  else "unexplained error"

/-- Whether a character is white space in the C sense. -/
def isCSpaceChar (c : Char) : Bool := c == ' ' || ('\t' ≤ c && c ≤ '\r')

/-- Read a number the way the option reader does: white space, a sign,
then decimal, octal after `0` or hexadecimal after `0x`, to the very end;
an empty text reads as zero. A number that reads but falls outside 32
signed bits is out of range. -/
def readOptionNumber (text : String) : Except String Int :=
  let chars := text.toList.dropWhile isCSpaceChar
  let (negative, body) := match chars with
    | '-' :: rest => (true, rest)
    | '+' :: rest => (false, rest)
    | _ => (false, chars)
  let digitValue := fun (c : Char) =>
    if c.isDigit then some (c.toNat - '0'.toNat)
    else if 'a' ≤ c && c ≤ 'f' then some (c.toNat - 'a'.toNat + 10)
    else if 'A' ≤ c && c ≤ 'F' then some (c.toNat - 'A'.toNat + 10)
    else none
  let readIn := fun (base : Nat) (digits : List Char) =>
    digits.foldl (fun acc c => match acc, digitValue c with
      | some value, some digit => if digit < base then some (value * base + digit) else none
      | _, _ => none) (some 0)
  let magnitude : Option Nat :=
    if text.isEmpty then some 0
    else match body with
      | '0' :: x :: rest =>
          if (x == 'x' || x == 'X') && !rest.isEmpty then readIn 16 rest
          else readIn 8 (x :: rest)
      | [] => none
      | _ => readIn 10 body
  match magnitude with
  | none => .error "invalid numeric value"
  | some value =>
      let signed : Int := if negative then -(value : Int) else value
      if signed < -2147483648 || signed > 2147483647 then .error "number too large or too small"
      else .ok signed

/-! ## Output words -/

/-- The words `--info` takes, each with what it mentions. -/
def infoDescriptions : List (String × String) :=
  [("BACKUP", "Mention files backed up"),
   ("COPY", "Mention files copied locally on the receiving side"),
   ("DEL", "Mention deletions on the receiving side"),
   ("FLIST", "Mention file-list receiving/sending (levels 1-2)"),
   ("MISC", "Mention miscellaneous information (levels 1-2)"),
   ("MOUNT", "Mention mounts that were found or skipped"),
   ("NAME", "Mention 1) updated file/dir names, 2) unchanged names"),
   ("NONREG", "Mention skipped non-regular files (default 1, 0 disables)"),
   ("PROGRESS", "Mention 1) per-file progress or 2) total transfer progress"),
   ("REMOVE", "Mention files removed on the sending side"),
   ("SKIP", "Mention files skipped due to transfer overrides (levels 1-2)"),
   ("STATS", "Mention statistics at end of run (levels 1-3)"),
   ("SYMSAFE", "Mention symlinks that are unsafe")]

/-- The words `--debug` takes, each with what it traces. -/
def debugDescriptions : List (String × String) :=
  [("ACL", "Debug extended ACL"),
   ("BACKUP", "Debug backup actions (levels 1-2)"),
   ("BIND", "Debug socket bind actions"),
   ("CHDIR", "Debug when the current directory changes"),
   ("CONNECT", "Debug connection events (levels 1-2)"),
   ("CMD", "Debug commands+options that are issued (levels 1-2)"),
   ("DEL", "Debug delete actions (levels 1-3)"),
   ("DELTASUM", "Debug delta-transfer checksumming (levels 1-4)"),
   ("DUP", "Debug weeding of duplicate names"),
   ("EXIT", "Debug exit events (levels 1-3)"),
   ("FILTER", "Debug filter actions (levels 1-3)"),
   ("FLIST", "Debug file-list operations (levels 1-4)"),
   ("FUZZY", "Debug fuzzy scoring (levels 1-2)"),
   ("GENR", "Debug generator functions"),
   ("HASH", "Debug hashtable code"),
   ("HLINK", "Debug hard-link actions (levels 1-3)"),
   ("ICONV", "Debug iconv character conversions (levels 1-2)"),
   ("IO", "Debug I/O routines (levels 1-4)"),
   ("NSTR", "Debug negotiation strings"),
   ("OWN", "Debug ownership changes in users & groups (levels 1-2)"),
   ("PROTO", "Debug protocol information"),
   ("RECV", "Debug receiver functions"),
   ("SEND", "Debug sender functions"),
   ("TIME", "Debug setting of modified times (levels 1-2)")]

/-- The words `--info` takes. -/
def infoWords : List String := infoDescriptions.map (·.1)

/-- The words `--debug` takes. -/
def debugWords : List String := debugDescriptions.map (·.1)

/-- The words each count of `-v` turns on, by count, for `--info` and for
`--debug`; counts with none are left out. -/
def verbosityWords (info : Bool) : List (Nat × String) :=
  if info then
    [(0, "NONREG"), (1, "COPY,DEL,FLIST,MISC,NAME,STATS,SYMSAFE"), (2, "BACKUP,MISC2,MOUNT,NAME2,REMOVE,SKIP")]
  else
    [(2, "BIND,CMD,CONNECT,DEL,DELTASUM,DUP,FILTER,FLIST,ICONV"),
     (3, "ACL,BACKUP,CONNECT2,DEL2,DELTASUM2,EXIT,FILTER2,FLIST2,FUZZY,GENR,OWN,RECV,SEND,TIME"),
     (4, "CMD2,DEL3,DELTASUM3,EXIT2,FLIST3,ICONV2,OWN2,PROTO,TIME2"),
     (5, "CHDIR,DELTASUM4,FLIST4,HASH,HLINK")]

/-- The text `--info=help` (or `--debug=help`) writes: every word with what
it does, the special words, and the words each count of `-v` turns on. -/
def outputWordsHelp (info : Bool) : String :=
  let option := if info then "--info" else "--debug"
  let row := fun (name text : String) => name.pushn ' ' (10 - name.length) ++ " " ++ text ++ "\n"
  let described := if info then infoDescriptions else debugDescriptions
  "Use OPT or OPT1 for level 1 output, OPT2 for level 2, etc.; OPT0 silences.\n\n" ++
    String.join (described.map fun (name, text) => row name text) ++ "\n" ++
    row "ALL" ("Set all " ++ option ++ " options (e.g. all4)") ++
    row "NONE" ("Silence all " ++ option ++ " options (same as all0)") ++
    row "HELP" "Output this help message" ++ "\n" ++
    "Options added at each level of verbosity:\n" ++
    String.join ((verbosityWords info).map fun (count, words) => toString count ++ ") " ++ words ++ "\n")

/-- The highest level an output word takes. -/
def maxOutputLevel : Nat := 4

/-- What one item of an output-word list asks for: the levels it sets, or
the help text, or the name it does not know. -/
inductive OutputItem where
  | levels (set : List (String × Nat))
  | help
  | unknown (name : String)
deriving Repr

/-- Read one item of an output-word list against the known words. An item
not starting with a digit ends in its level; `help`, `none` and `all`
are told apart without regard to case, as are the words. -/
def readOutputItem (words : List String) (item : List Char) : OutputItem :=
  let name := if item.head?.any Char.isDigit then item
    else (item.reverse.dropWhile Char.isDigit).reverse
  let digits := (item.drop name.length).takeWhile Char.isDigit
  let level := if digits.isEmpty then 1
    else min maxOutputLevel (digits.foldl (fun acc c => acc * 10 + (c.toNat - '0'.toNat)) 0)
  let upper := String.ofList (name.map Char.toUpper)
  if upper == "HELP" then .help
  else if upper == "NONE" then .levels (words.map (·, 0))
  else if upper == "ALL" then .levels (words.map (·, level))
  else if words.contains upper then .levels [(upper, level)]
  else .unknown (String.ofList name)

/-- Read a comma-separated output-word list for the option `--which`;
empty items are passed over. Gives the levels set, in order, and whether
the help text was asked for; or the refusal for an unknown word. -/
def readOutputWords (which : String) (words : List String) (text : String) :
    Except Refusal (List (String × Nat) × Bool) :=
  (text.splitOn ",").foldlM (fun (acc : List (String × Nat) × Bool) item =>
    if acc.2 || item.isEmpty then pure acc
    else
      match readOutputItem words item.toList with
      | .levels set => pure (acc.1 ++ set, false)
      | .help => pure (acc.1, true)
      | .unknown name =>
          throw { status := 1, message := "Unknown --" ++ which ++ " item: \"" ++ name ++ "\"\n",
                  place := "options.c(467)" }) ([], false)

/-! ## Daemon mode -/

/-- Whether a long option sends the reader into daemon mode. -/
def startsDaemonMode (name : String) : Bool :=
  ["daemon", "config", "dparam", "detach", "no-detach"].contains name

/-- The long options of daemon mode, and whether each takes text, a
number or nothing. -/
def daemonOptions : List (String × Nat) :=
  [("address", 1), ("bwlimit", 2), ("config", 1), ("daemon", 0), ("dparam", 1), ("ipv4", 0),
    ("ipv6", 0), ("detach", 0), ("no-detach", 0), ("log-file", 1), ("log-file-format", 1),
    ("port", 2), ("sockopts", 1), ("protocol", 2), ("server", 0), ("temp-dir", 1), ("verbose", 0),
    ("no-verbose", 0), ("no-v", 0), ("help", 0)]

/-- The short options of daemon mode and their long names. -/
def daemonShortOptions : List (Char × String) :=
  [('4', "ipv4"), ('6', "ipv6"), ('M', "dparam"), ('T', "temp-dir"), ('v', "verbose"), ('h', "help")]

/-- The line pointing to the help of daemon mode. -/
def daemonHelpLine : String := "(Type \"rsync --daemon --help\" for assistance with daemon mode.)\n"

/-- A refusal of daemon mode. -/
def daemonRefusal (message : String) : Refusal :=
  { status := 1, message := message ++ daemonHelpLine, place := "options.c(1469)" }

/-- A problem with an argument in daemon mode. -/
def daemonProblem (shown : Bytes) (problem : String) : Refusal :=
  daemonRefusal ("rsync: " ++ lossy shown ++ ": " ++ problem ++ " (in daemon mode)\n")

/-- Where reading in daemon mode got to: still reading, having seen
`--daemon` or not, or asked for its help. -/
structure DaemonReading where
  sawDaemon : Bool := false
  help : Bool := false

/-- Apply one daemon-mode option with its value: only `--dparam` checks
its value, which must hold an equals sign. -/
def DaemonReading.apply (reading : DaemonReading) (name : String) (value : Bytes) :
    Except Refusal DaemonReading :=
  if name == "dparam" && !value.contains 0x3D then
    throw (daemonRefusal ("--dparam value is missing an \x27=\x27: " ++ lossy value ++ "\n"))
  else if name == "daemon" then pure { reading with sawDaemon := true }
  else if name == "help" then pure { reading with help := true }
  else pure reading

/-- Apply a daemon-mode option that takes a value, checking a number. -/
def DaemonReading.applyValue (reading : DaemonReading) (name : String) (takes : Nat) (value shown : Bytes) :
    Except Refusal DaemonReading :=
  if takes == 2 then
    match readOptionNumber (lossy value) with
    | .error problem => throw (daemonProblem shown problem)
    | .ok _ => reading.apply name value
  else reading.apply name value

/-- Read a cluster of short options in daemon mode; gives the reading and
the arguments left. -/
def readDaemonCluster (reading : DaemonReading) (whole : Bytes) :
    Nat → Bytes → List Bytes → Except Refusal (DaemonReading × List Bytes)
  | 0, _, rest => .ok (reading, rest)
  | _ + 1, [], rest => .ok (reading, rest)
  | fuel + 1, letter :: after, rest =>
      let more := match after with
        | 0x3D :: value => value
        | _ => after
      match daemonShortOptions.lookup (Char.ofNat letter.toNat) with
      | none => throw (daemonProblem whole "unknown option")
      | some name =>
          match daemonOptions.lookup name with
          | some 0 => do
              let reading ← reading.apply name []
              if reading.help then pure (reading, rest) else readDaemonCluster reading whole fuel more rest
          | some takes =>
              if !more.isEmpty then do pure (← reading.applyValue name takes more whole, rest)
              else
                match rest with
                | value :: left => do pure (← reading.applyValue name takes value value, left)
                | [] => throw (daemonProblem whole "missing argument")
          | none => throw (daemonProblem whole "unknown option")

/-- Read all the arguments again in daemon mode. Gives unit when the run
ends here without error (the help was asked for, or a daemon starts), or
the refusal of the first argument that does not fit. -/
def readDaemonArguments : Nat → DaemonReading → List Bytes → Except Refusal Unit
  | 0, _, _ => .ok ()
  | _ + 1, reading, [] =>
      if reading.sawDaemon || reading.help then .ok ()
      else .error (daemonRefusal "Daemon option(s) used without --daemon.\n")
  | fuel + 1, reading, arg :: rest =>
      if reading.help then .ok ()
      else
        match arg with
        | 0x2D :: 0x2D :: [] => readDaemonArguments fuel reading []
        | 0x2D :: 0x2D :: body => do
            let (name, value) := match body.findIdx? (· == 0x3D) with
              | some index => (lossy (body.take index), some (body.drop (index + 1)))
              | none => (lossy body, none)
            match daemonOptions.lookup name, value, rest with
            | none, _, _ => throw (daemonProblem arg "unknown option")
            | some 0, some _, _ => throw (daemonProblem arg "option does not take an argument")
            | some 0, none, _ => readDaemonArguments fuel (← reading.apply name []) rest
            | some takes, some given, _ => readDaemonArguments fuel (← reading.applyValue name takes given arg) rest
            | some takes, none, given :: left =>
                readDaemonArguments fuel (← reading.applyValue name takes given given) left
            | some _, none, [] => throw (daemonProblem arg "missing argument")
        | 0x2D :: cluster@(_ :: _) => do
            let (reading, rest) ← readDaemonCluster reading arg (cluster.length + 1) cluster rest
            readDaemonArguments fuel reading rest
        | _ => readDaemonArguments fuel reading rest

end BackupRotation.Tools
