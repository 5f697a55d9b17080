import BackupRotation.World
import BackupRotation.Process.Output
import BackupRotation.Process.Shell.Syntax
/-!
# The state of a running shell

A running shell holds its variables, functions and positional parameters,
its options and traps, the status of the last command and how control is
leaving the commands being run (a `break`, `continue`, `return`, or the
end of the shell), and the world it acts on.

Output goes through file descriptors. A descriptor open for writing sends
its bytes to the shell's own standard output or standard error, to a file
of the world, to a capture (the output of a command substitution or of a
command piped into another, which runs first), or nowhere. A descriptor
open for reading takes bytes from an input stream: the shell's standard
input, a file's content, a here-document, or what the command before it
in a pipeline wrote.

Messages of the shell have the form `NAME: LINE: TEXT`: the name the
script was started with, and the line of the command being run, counted
from the line of the function being run when there is one.
-/

namespace BackupRotation.Process

open Files Text

/-- A shell variable. An unset one may still be exported or read-only. -/
structure Variable where
  value : Option Bytes := none
  exported : Bool := false
  readonly : Bool := false
deriving Repr

/-- Where a descriptor open for writing sends its bytes. -/
inductive Sink where
  | stdout
  | stderr
  | capture (id : Nat)
  | file (key : Key)
  | nowhere
deriving DecidableEq, Repr

/-- What a file descriptor is open on. -/
inductive Endpoint where
  | writer (sink : Sink)
  | reader (stream : Nat)
deriving DecidableEq, Repr

/-- The options of `set`. -/
structure Options where
  errexit : Bool := false
  noglob : Bool := false
  noexec : Bool := false
  xtrace : Bool := false
  verbose : Bool := false
  noclobber : Bool := false
  allexport : Bool := false
  nounset : Bool := false
deriving Repr

/-- The option letters, in the order `$-` lists them, with how to read
and set each. -/
def optionLetters : List (Char × (Options → Bool) × (Options → Bool → Options)) :=
  [('e', (·.errexit), fun o v => { o with errexit := v }),
   ('f', (·.noglob), fun o v => { o with noglob := v }),
   ('n', (·.noexec), fun o v => { o with noexec := v }),
   ('x', (·.xtrace), fun o v => { o with xtrace := v }),
   ('v', (·.verbose), fun o v => { o with verbose := v }),
   ('C', (·.noclobber), fun o v => { o with noclobber := v }),
   ('a', (·.allexport), fun o v => { o with allexport := v }),
   ('u', (·.nounset), fun o v => { o with nounset := v })]

/-- The long names of the options `set -o` knows, with their letters. -/
def optionNames : List (String × Char) :=
  [("errexit", 'e'), ("noglob", 'f'), ("noexec", 'n'), ("xtrace", 'x'), ("verbose", 'v'),
   ("noclobber", 'C'), ("allexport", 'a'), ("nounset", 'u')]

/-- How control leaves the commands being run. -/
inductive Flow where
  | normal
  /-- `break`: the number of loops still to leave. -/
  | breaking (count : Nat)
  /-- `continue`: the number of loops to leave before continuing one. -/
  | continuing (count : Nat)
  /-- `return`: leaving the function or sourced file being run. -/
  | returning
  /-- The shell is ending. -/
  | exiting
deriving DecidableEq, Repr

/-- The process number a script sees for itself. -/
def ownProcess : Nat := 4242

/-- A running shell. -/
structure Shell where
  world : World
  /-- The name the shell was started with, `$0`. -/
  name : Bytes
  params : List Bytes := []
  /-- The shell variables, by name. -/
  bindings : List (Bytes × Variable) := []
  functions : List (Bytes × Command) := []
  /-- The variables `local` saved, one list for each function being run,
  innermost first. -/
  frames : List (List (Bytes × Option Variable)) := []
  options : Options := {}
  /-- The status of the last command, `$?`. -/
  status : Nat := 0
  flow : Flow := .normal
  /-- The loops being run, counted from the innermost function. -/
  loops : Nat := 0
  /-- The functions being run. -/
  depth : Nat := 0
  /-- The line of the command being run. -/
  line : Nat := 1
  /-- The line the function being run was defined on, or zero. -/
  functionLine : Nat := 0
  /-- Actions for signals, 0 standing for the end of the shell; an empty
  action ignores the signal. -/
  traps : List (Nat × Bytes) := []
  descriptors : List (Nat × Endpoint) := []
  /-- Input streams: what is left to read of each. -/
  streams : List (Nat × Bytes) := []
  captures : List (Nat × Bytes) := []
  /-- The next number for a stream or capture. -/
  nextId : Nat := 1
  stdout : Bytes := []
  stderr : Bytes := []
  /-- The process number of the last command started in the background. -/
  lastBackground : Option Nat := none
  /-- The next process number to hand out. -/
  nextProcess : Nat := ownProcess + 1
  /-- The status of the last command substitution of the command being
  expanded. -/
  substitutionStatus : Option Nat := none
  /-- The signal that ended the shell, if one did. -/
  signal : Option Nat := none
  /-- The file mode creation mask. -/
  mask : Nat := 0o022
  /-- The name of the built-in command being run, for its messages. -/
  commandName : Option Bytes := none
  /-- Signals sent to the shell whose traps are still to run. -/
  pendingSignals : List Nat := []
  /-- Where `getopts` is: the index of the next argument, and the place
  in the argument it is reading, if inside one. -/
  optionIndex : Nat := 1
  optionOffset : Option Nat := none
  /-- Commands started in the background, with their statuses. -/
  jobs : List (Nat × Nat) := []
  /-- The status when the shell started to end, while the `EXIT` trap runs. -/
  endingStatus : Option Nat := none
  /-- Aliases defined, which this shell records but does not expand. -/
  aliases : List (Bytes × Bytes) := []

namespace Shell

/-! ## Variables -/

/-- The variable of a name. -/
def findVariable (sh : Shell) (name : Bytes) : Option Variable :=
  (sh.bindings.find? (·.1 == name)).map (·.2)

/-- The value of a variable, none when unset. -/
def lookup (sh : Shell) (name : Bytes) : Option Bytes :=
  (sh.findVariable name).bind (·.value)

/-- Whether a variable is read-only. -/
def isReadonly (sh : Shell) (name : Bytes) : Bool :=
  (sh.findVariable name).any (·.readonly)

/-- Replace a variable. -/
def putVariable (sh : Shell) (name : Bytes) (var : Variable) : Shell :=
  { sh with bindings := (name, var) :: sh.bindings.filter (·.1 != name) }

/-- The message about a read-only variable. -/
def readonlyMessage (name : Bytes) : Bytes := name ++ encode ": is read only"

/-- Set a variable, unless it is read-only; with `allexport` it is
exported. Setting `OPTIND` starts `getopts` over at the argument it names. -/
def assign (sh : Shell) (name value : Bytes) : Except Bytes Shell :=
  let sh := if name == encode "OPTIND" then
      let index := if !value.isEmpty && value.all isDigitByte then
          value.foldl (fun n d => n * 10 + (d.toNat - 0x30)) 0 else 1
      { sh with optionIndex := if index == 0 then 1 else index, optionOffset := none }
    else sh
  match sh.findVariable name with
  | some var =>
      if var.readonly then .error (readonlyMessage name)
      else .ok (sh.putVariable name { var with value := some value,
                                               exported := var.exported || sh.options.allexport })
  | none => .ok (sh.putVariable name { value := some value, exported := sh.options.allexport })

/-- Unset a variable, unless it is read-only. -/
def unassign (sh : Shell) (name : Bytes) : Except Bytes Shell :=
  match sh.findVariable name with
  | some var =>
      if var.readonly then .error (readonlyMessage name)
      else .ok { sh with bindings := sh.bindings.filter (·.1 != name) }
  | none => .ok sh

/-- The exported variables with values, as an environment. -/
def environment (sh : Shell) : List (Bytes × Bytes) :=
  sh.bindings.reverse.filterMap fun (name, var) =>
    if var.exported then var.value.map fun value => (name, value) else none

/-- The letters of the options that are set, `$-`. -/
def optionFlags (sh : Shell) : Bytes :=
  encode (String.ofList (optionLetters.filterMap fun (letter, get, _) =>
    if get sh.options then some letter else none))

/-- The value of a parameter: a special one, a positional one or a
variable; none when unset. -/
def parameter (sh : Shell) (name : Bytes) : Option Bytes :=
  match name with
  | [0x23] => some (encode (toString sh.params.length))
  | [0x3F] => some (encode (toString sh.status))
  | [0x24] => some (encode (toString ownProcess))
  | [0x21] => sh.lastBackground.map fun pid => encode (toString pid)
  | [0x2D] => some sh.optionFlags
  | [0x30] => some sh.name
  | [0x40] | [0x2A] => some ((sh.params.intersperse [0x20]).flatten)
  | _ =>
      if !name.isEmpty && name.all isDigitByte then
        let index := name.foldl (fun n d => n * 10 + (d.toNat - 0x30)) 0
        sh.params[index - 1]?
      else sh.lookup name

/-- The field separators, `IFS`, a blank, a tab and a line feed when unset. -/
def separators (sh : Shell) : Bytes := (sh.lookup (encode "IFS")).getD [0x20, 0x09, 0x0A]

/-! ## Output -/

/-- The descriptor's endpoint. -/
def endpoint? (sh : Shell) (fd : Nat) : Option Endpoint :=
  (sh.descriptors.find? (·.1 == fd)).map (·.2)

/-- Point a descriptor at an endpoint. -/
def setDescriptor (sh : Shell) (fd : Nat) (endpoint : Option Endpoint) : Shell :=
  let others := sh.descriptors.filter (·.1 != fd)
  { sh with descriptors := match endpoint with
      | some target => (fd, target) :: others
      | none => others }

/-- Send bytes to a sink. -/
def toSink (sh : Shell) (sink : Sink) (bytes : Bytes) : Shell :=
  match sink with
  | .stdout => { sh with stdout := sh.stdout ++ bytes }
  | .stderr => { sh with stderr := sh.stderr ++ bytes }
  | .nowhere => sh
  | .capture id =>
      { sh with captures := sh.captures.map fun (key, held) => if key == id then (key, held ++ bytes) else (key, held) }
  | .file key =>
      match sh.world.files.find? key with
      | some (.file mode content) =>
          { sh with world := { sh.world with files := sh.world.files.put key (.file mode (content ++ bytes)) } }
      | _ => sh

/-- Write bytes on a descriptor; on one not open for writing they are lost. -/
def write (sh : Shell) (fd : Nat) (bytes : Bytes) : Shell :=
  if bytes.isEmpty then sh
  else
    match sh.endpoint? fd with
    | some (.writer sink) => sh.toSink sink bytes
    | _ => sh

/-- The line number messages give. -/
def messageLine (sh : Shell) : Nat :=
  if sh.functionLine > 0 then sh.line - (sh.functionLine - 1) else sh.line

/-- Write a message on standard error: the shell's name, the line, the
name of the built-in command being run, and the text. -/
def complain (sh : Shell) (message : Bytes) : Shell :=
  let command := match sh.commandName with
    | some name => name ++ encode ": "
    | none => []
  sh.write 2 (sh.name ++ encode (": " ++ toString sh.messageLine ++ ": ") ++ command ++ message ++ [0x0A])

/-- Complain and end the shell with status 2, as an error does. -/
def fail (sh : Shell) (message : Bytes) : Shell :=
  { sh.complain message with status := 2, flow := .exiting }

/-! ## Input -/

/-- What is left of an input stream. -/
def streamContent (sh : Shell) (id : Nat) : Bytes :=
  ((sh.streams.find? (·.1 == id)).map (·.2)).getD []

/-- Replace what is left of an input stream. -/
def setStream (sh : Shell) (id : Nat) (content : Bytes) : Shell :=
  { sh with streams := (id, content) :: sh.streams.filter (·.1 != id) }

/-- Open a new input stream on some bytes. -/
def openStream (sh : Shell) (content : Bytes) : Shell × Nat :=
  ({ sh with streams := (sh.nextId, content) :: sh.streams, nextId := sh.nextId + 1 }, sh.nextId)

/-- What is left to read on a descriptor: none when it is not open for
reading. -/
def pending (sh : Shell) (fd : Nat) : Option (Nat × Bytes) :=
  match sh.endpoint? fd with
  | some (.reader id) => some (id, sh.streamContent id)
  | _ => none

/-- Start capturing output: a new capture and its number. -/
def openCapture (sh : Shell) : Shell × Nat :=
  ({ sh with captures := (sh.nextId, []) :: sh.captures, nextId := sh.nextId + 1 }, sh.nextId)

/-- Stop a capture: what it holds. -/
def closeCapture (sh : Shell) (id : Nat) : Shell × Bytes :=
  let held := ((sh.captures.find? (·.1 == id)).map (·.2)).getD []
  ({ sh with captures := sh.captures.filter (·.1 != id) }, held)

/-! ## Files -/

/-- The working directory's absolute name. -/
def workingDirectory (sh : Shell) : PathName := Key.path sh.world.files.cwd

/-- Whether the shell may write into a directory or a file of this mode. -/
def writable (mode : Nat) : Bool := mode &&& 0o200 != 0

/-- Whether the shell may read a file of this mode. -/
def readable (mode : Nat) : Bool := mode &&& 0o400 != 0

/-- Open a file for writing, creating it when missing: where its bytes
go, or the error. Without `append` an existing file is emptied;
`exclusive` refuses an existing regular file, as `noclobber` does. -/
def openForWriting (sh : Shell) (path : Bytes) (append exclusive : Bool) : Except OsError (Shell × Sink) :=
  if path == encode "/dev/null" then .ok (sh, .nowhere)
  else if path == encode "/dev/stdout" then
    match sh.endpoint? 1 with
    | some (.writer sink) => .ok (sh, sink)
    | _ => .ok (sh, .nowhere)
  else if path == encode "/dev/stderr" then
    match sh.endpoint? 2 with
    | some (.writer sink) => .ok (sh, sink)
    | _ => .ok (sh, .nowhere)
  else
    let files := sh.world.files
    match files.resolve ⟨path⟩ true with
    | .ok (.found key (.file mode content)) =>
        if exclusive then .error .alreadyExists
        else if !writable mode then .error .permissionDenied
        else
          let files := if append then files else files.put key (.file mode [])
          let _ := content
          .ok ({ sh with world := { sh.world with files := files } }, .file key)
    | .ok (.found _ (.directory _)) => .error .isADirectory
    | .ok (.found _ (.link _)) => .error .notFound
    | .ok (.free dir name) =>
        if path.getLast? == some slash then .error .isADirectory
        else
          match files.find? dir with
          | some (.directory mode) =>
              if !writable mode then .error .permissionDenied
              else
                let mode := 0o666 - (0o666 &&& sh.mask)
                let files := files.put (dir ++ [name]) (.file mode [])
                .ok ({ sh with world := { sh.world with files := files } }, .file (dir ++ [name]))
          | _ => .error .notFound
    | .error e => .error e

/-- The content of a file opened for reading, or the error. A directory
reads as nothing. -/
def readForInput (sh : Shell) (path : Bytes) : Except OsError Bytes :=
  if path == encode "/dev/null" then .ok []
  else
    match sh.world.files.resolve ⟨path⟩ true with
    | .ok (.found _ (.file mode content)) => if readable mode then .ok content else .error .permissionDenied
    | .ok (.found _ _) => .ok []
    | .ok (.free _ _) => .error .notFound
    | .error e => .error e

end Shell

/-- The description of a signal, as the C library gives it. -/
def signalDescription (signal : Nat) : String :=
  match signal with
  | 1 => "Hangup" | 2 => "Interrupt" | 3 => "Quit" | 4 => "Illegal instruction"
  | 5 => "Trace/breakpoint trap" | 6 => "Aborted" | 7 => "Bus error"
  | 8 => "Floating point exception" | 9 => "Killed" | 10 => "User defined signal 1"
  | 11 => "Segmentation fault" | 12 => "User defined signal 2" | 13 => "Broken pipe"
  | 14 => "Alarm clock" | 15 => "Terminated" | 16 => "Stack fault" | 17 => "Child exited"
  | 18 => "Continued" | 19 => "Stopped (signal)" | 20 => "Stopped" | 21 => "Stopped (tty input)"
  | 22 => "Stopped (tty output)" | 23 => "Urgent I/O condition" | 24 => "CPU time limit exceeded"
  | 25 => "File size limit exceeded" | 26 => "Virtual timer expired" | 27 => "Profiling timer expired"
  | 28 => "Window changed" | 29 => "I/O possible" | 30 => "Power failure" | 31 => "Bad system call"
  | n => "Real-time signal " ++ toString (n - 34)

/-- Signal names without their `SIG` prefix, numbered from 1. -/
def signalNames : List String :=
  ["HUP", "INT", "QUIT", "ILL", "TRAP", "ABRT", "BUS", "FPE", "KILL", "USR1", "SEGV", "USR2",
   "PIPE", "ALRM", "TERM", "STKFLT", "CHLD", "CONT", "STOP", "TSTP", "TTIN", "TTOU", "URG",
   "XCPU", "XFSZ", "VTALRM", "PROF", "WINCH", "IO", "PWR", "SYS"]

/-- The signal a number or a name stands for: a name in any case, with or
without its `SIG` prefix; `EXIT` is 0. -/
def decodeSignal (text : Bytes) : Option Nat :=
  if !text.isEmpty && text.all isDigitByte then
    let number := text.foldl (fun n d => n * 10 + (d.toNat - 0x30)) 0
    if number < 65 then some number else none
  else
    let name := (lossy text).map Char.toUpper
    let name := if name.startsWith "SIG" then (name.drop 3).toString else name
    if name == "EXIT" then some 0 else (signalNames.idxOf? name).map (· + 1)

/-- Whether a signal's default action leaves the process running. -/
def leavesRunning (signal : Nat) : Bool :=
  signal == 0 || signal == 17 || signal == 18 || signal == 19 || signal == 20 ||
    signal == 21 || signal == 22 || signal == 23 || signal == 28

end BackupRotation.Process
