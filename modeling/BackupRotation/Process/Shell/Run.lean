import BackupRotation.Process.Shell.Builtins
/-!
# Running shell scripts

The evaluator reads a script one complete command at a time and runs it,
so that a syntax error stops a script only when the reader gets there.

A simple command expands its words (parameters, command substitutions,
arithmetic, then field splitting and file name patterns), then applies
its redirections, then its assignments, and runs what its first field
names: a special built-in command, a function, a regular built-in command,
or a program found on the search path `PATH`, in that order. Assignments
before a special built-in command, or alone on a line, stay; before any
other command they hold for that command only, exported.

Pipelines, subshells, command substitutions and background commands run
in a copy of the shell, whose variables and working directory do not come
back; what they write and the files they change do. The commands of a
pipeline run one after the other, each reading what the one before wrote.

With `-e` set, a failing simple command, pipeline or subshell ends the
shell, unless its status is tested: by `if`, `while` or `until`, by `!`,
or as the left side of `&&` and `||`.

Programs are started through a launcher, which the caller provides; the
shell hands it the world, the program's path, its arguments, the exported
variables and its standard input, and gets back what the program left. A
file the launcher cannot run for want of a `#!` line is run by `/bin/sh`.

Every function here takes fuel, which each call spends: loops, nested
commands and command substitutions all run out of it in the end.
-/

namespace BackupRotation.Process

open Files Text

/-- How the shell starts a program: from the world, the path of the
program, its arguments (its own name left out), its environment and its
standard input, what the program left and the world after it; or why it
could not be started. -/
abbrev Launcher := World → PathName → List Bytes → List (Bytes × Bytes) → Bytes → Except OsError (Output × World)

/-- The status a shell ends with: `128` plus the signal that ended it, or
its last status. -/
def Shell.exitCode (sh : Shell) : Nat :=
  match sh.signal with
  | some signal => 128 + signal
  | none => sh.status

/-- End the shell when `-e` is set and a command whose status is not
tested failed. -/
def Shell.checkErrexit (sh : Shell) (tested : Bool) : Shell :=
  if !tested && sh.options.errexit && sh.status != 0 && sh.flow == .normal then
    { sh with flow := .exiting }
  else sh

/-- A copy of the shell for a subshell: traps other than ignored signals
are reset, and nothing is pending. -/
def Shell.enterSubshell (sh : Shell) : Shell :=
  { sh with traps := sh.traps.filter (·.2.isEmpty), pendingSignals := [], flow := .normal,
            endingStatus := none, commandName := none }

/-- Take back what a subshell changed outside itself: the world (but not
its working directory), what it wrote, its input consumed; its status is
the subshell's exit status. -/
def Shell.leaveSubshell (sh : Shell) (child : Shell) : Shell :=
  let files := { child.world.files with cwd := sh.world.files.cwd }
  { sh with world := { child.world with files := files }, stdout := child.stdout, stderr := child.stderr,
            streams := child.streams, captures := child.captures, nextId := child.nextId,
            nextProcess := child.nextProcess, status := child.exitCode }

/-- The status of a program that ended, and what the shell says about a
signal that ended it. -/
def finishedStatus (status : ExitStatus) : Nat × Option String :=
  match status with
  | .exited code => (code.toNat % 256, none)
  | .signaled signal =>
      (128 + signal, if signal == 2 || signal == 13 then none else some (signalDescription signal))

/-- What kind of command a name is, in the order the shell looks. -/
inductive CommandKind where
  | special
  | function (line : Nat) (body : Command)
  | builtin
  | external

/-- Names of the regular built-in commands. -/
def regularBuiltins : List String :=
  ["alias", "bg", "cd", "chdir", "command", "echo", "false", "fg", "getopts", "hash", "jobs", "kill",
   "printf", "pwd", "read", "test", "[", "true", "type", "ulimit", "umask", "unalias", "wait"]

/-- A function definition's line and body. -/
def Shell.function? (sh : Shell) (name : Bytes) : Option Command :=
  (sh.functions.find? (·.1 == name)).map (·.2)

/-- What a command name is. -/
def Shell.classify (sh : Shell) (name : Bytes) : CommandKind :=
  let text := lossy name
  if specialBuiltins.contains text then .special
  else
    match sh.function? name with
    | some (.function line _ body) => .function line body
    | some body => .function 0 body
    | none => if regularBuiltins.contains text then .builtin else .external

/-- The directories of the search path: `PATH`, or the usual one when
unset; an empty entry is the working directory. -/
def Shell.searchDirectories (sh : Shell) : List Bytes :=
  let path := (sh.lookup (encode "PATH")).getD
    (encode "/usr/local/sbin:/usr/local/bin:/usr/sbin:/usr/bin:/sbin:/bin")
  path.splitOn 0x3A

/-- A program's place in a directory of the search path. -/
def placeIn (dir name : Bytes) : Bytes := if dir.isEmpty then name else dir ++ [0x2F] ++ name

/-- The first place on the search path where a name is a regular file,
its index among the directories; and whether a place of another kind was
met. -/
def Shell.findProgram (sh : Shell) (name : Bytes) : Option (Nat × Bytes) × Bool :=
  let dirs := sh.searchDirectories
  let found := dirs.zipIdx.find? fun (dir, _) =>
    match sh.world.files.resolve ⟨placeIn dir name⟩ true with
    | .ok (.found _ (.file _ _)) => true
    | _ => false
  let other := dirs.any fun dir =>
    match sh.world.files.resolve ⟨placeIn dir name⟩ true with
    | .ok (.found _ (.directory _)) => true
    | _ => false
  (found.map fun (dir, index) => (index, placeIn dir name), other)

/-- How the shell names an error starting a program. -/
def startError (error : OsError) : String :=
  match error with
  | .notFound | .notADirectory => "not found"
  | other => other.describe

/-- The status of a program that could not be started. -/
def startStatus (error : OsError) : Nat :=
  match error with
  | .notFound | .notADirectory => 127
  | .permissionDenied => 126
  | _ => 2

/-- Describe what a name is, as `type` (in full) and `command -v`
(briefly) do: the text to write and the status. -/
def Shell.describe (sh : Shell) (name : Bytes) (full : Bool) : Bytes × Nat :=
  let text := lossy name
  let say := fun (long : String) (short : Bytes) =>
    (if full then name ++ encode (" is " ++ long ++ "\n") else short ++ [0x0A], 0)
  if reservedWords.contains text then say "a shell keyword" name
  else
    match sh.aliases.find? (·.1 == name) with
    | some (_, value) =>
        (if full then name ++ encode " is an alias for " ++ value ++ [0x0A]
         else encode "alias " ++ name ++ [0x3D] ++ singleQuote value ++ [0x0A], 0)
    | none =>
        if (sh.function? name).isSome then say "a shell function" name
        else if specialBuiltins.contains text then say "a special shell builtin" name
        else if regularBuiltins.contains text then say "a shell builtin" name
        else
          let notFound := (if full then name ++ encode ": not found\n" else [], 127)
          if name.contains 0x2F then
            match sh.world.files.resolve ⟨name⟩ true with
            | .ok (.found _ (.file mode _)) =>
                if mode &&& 0o111 != 0 then (if full then name ++ encode " is " ++ name ++ [0x0A] else name ++ [0x0A], 0)
                else notFound
            | _ => notFound
          else
            match (sh.findProgram name).1 with
            | some (_, place) => (if full then name ++ encode " is " ++ place ++ [0x0A] else place ++ [0x0A], 0)
            | none => notFound

/-- Strip the line feeds at the end of a command substitution's output. -/
def stripTrailingNewlines (bytes : Bytes) : Bytes :=
  (bytes.reverse.dropWhile (· == 0x0A)).reverse

/-- The message about a file a redirection could not open for reading. -/
def openMessage (path : Bytes) (error : OsError) : Bytes :=
  encode "cannot open " ++ path ++ encode ": " ++
    encode (match error with
      | .notFound | .notADirectory => "No such file"
      | other => other.describe)

/-- The message about a file a redirection could not create. -/
def createMessage (path : Bytes) (error : OsError) : Bytes :=
  encode "cannot create " ++ path ++ encode ": " ++
    encode (match error with
      | .notFound | .notADirectory => "Directory nonexistent"
      | other => other.describe)

/-- Bytes written to a descriptor and a program's output delivered to the
shell's streams, with the shell's note on a signal that ended it. -/
def Shell.deliver (sh : Shell) (output : Output) : Shell :=
  let sh := (sh.write 1 output.stdout).write 2 output.stderr
  let (status, note) := finishedStatus output.status
  let sh := match note with
    | some text => sh.write 2 (encode (text ++ "\n"))
    | none => sh
  { sh with status := status }

/-- Take all of standard input for a program. -/
def Shell.takeInput (sh : Shell) : Shell × Bytes :=
  match sh.pending 0 with
  | some (id, bytes) => (sh.setStream id [], bytes)
  | none => (sh, [])

/-- The xtrace line of a command: `PS4`, then the assignments and words. -/
def Shell.trace (sh : Shell) (assignments : List Bytes) (fields : List Bytes) : Shell :=
  if sh.options.xtrace then
    let lead := (sh.lookup (encode "PS4")).getD (encode "+ ")
    sh.write 2 (lead ++ ((assignments ++ fields).intersperse [0x20]).flatten ++ [0x0A])
  else sh

/-- Report the error a built-in command stopped with: status 2, and for a
special built-in command the end of the shell. -/
def Shell.builtinFailed (sh : Shell) (special : Bool) (message : Bytes) : Shell :=
  let sh := { sh.complain message with status := 2 }
  if special then { sh with flow := .exiting } else sh

/-- Run a built-in command that runs no other commands: none for one the
evaluator runs itself. -/
def runSimpleBuiltin (sh : Shell) (name : String) (args : List Bytes) : Option Finished :=
  match name with
  | "echo" => some (runEcho sh args)
  | "printf" => some (runPrintf sh args)
  | "true" | ":" => some (sh.done 0)
  | "false" => some (sh.done 1)
  | "test" => some (runTest sh false args)
  | "[" => some (runTest sh true args)
  | "export" => some (runMark sh false args)
  | "readonly" => some (runMark sh true args)
  | "unset" => some (runUnset sh args)
  | "local" => some (runLocal sh args)
  | "set" => some (runSet sh args)
  | "shift" => some (runShift sh args)
  | "exit" => some (runExit sh args)
  | "return" => some (runReturn sh args)
  | "break" => some (runLeaveLoop sh false args)
  | "continue" => some (runLeaveLoop sh true args)
  | "trap" => some (runTrap sh args)
  | "kill" => some (runKill sh args)
  | "read" => some (runRead sh args)
  | "getopts" => some (runGetopts sh args)
  | "cd" | "chdir" => some (runCd sh args)
  | "pwd" => some (runPwd sh args)
  | "umask" => some (runUmask sh args)
  | "wait" => some (runWait sh args)
  | "times" => some (runTimes sh)
  | "alias" => some (runAlias sh args)
  | "unalias" => some (runUnalias sh args)
  | "hash" | "jobs" | "bg" | "fg" => some (sh.done 0)
  | "ulimit" => some ((sh.write 1 (encode "unlimited\n")).done 0)
  | "type" =>
      some (args.foldl (fun ((sh, _) : Finished) name =>
        let (text, status) := sh.describe name true
        (sh.write 1 text).done (max sh.status status)) ({ sh with status := 0 }, none))
  | _ => none

/-- Set variables for the length of one command, exported: the shell to
run it in, and the saved variables to restore. -/
def Shell.assignTemporarily (sh : Shell) (assignments : List (Bytes × Bytes)) :
    Except Bytes (Shell × List (Bytes × Option Variable)) :=
  assignments.foldlM (fun (sh, saved) (name, value) => do
    let previous := sh.findVariable name
    let sh ← sh.assign name value
    let var := (sh.findVariable name).getD {}
    pure (sh.putVariable name { var with exported := true },
      if saved.any (·.1 == name) then saved else (name, previous) :: saved)) (sh, [])

/-- Restore variables saved around a command. -/
def Shell.restoreVariables (sh : Shell) (saved : List (Bytes × Option Variable)) : Shell :=
  saved.foldl (fun sh (name, previous) =>
    match previous with
    | some var => sh.putVariable name var
    | none => { sh with bindings := sh.bindings.filter (·.1 != name) }) sh

mutual

/-- Expand the parts of a word. `inQuotes` is set inside double quotes
around a parameter expansion's word. -/
def expandWord : Nat → Launcher → Shell → Word → Bool → Shell × List Piece
  | 0, _, sh, _, _ => (sh, [])
  | _ + 1, _, sh, [], _ => (sh, [])
  | fuel + 1, launch, sh, part :: rest, inQuotes =>
      let (sh, first) := expandPart fuel launch sh part inQuotes
      if sh.flow == .exiting then (sh, first)
      else
        let (sh, more) := expandWord fuel launch sh rest inQuotes
        (sh, first ++ more)

/-- Expand one part of a word. -/
def expandPart : Nat → Launcher → Shell → Part → Bool → Shell × List Piece
  | 0, _, sh, _, _ => (sh, [])
  | fuel + 1, launch, sh, part, inQuotes =>
      match part with
      | .plain bytes => (sh, [.text bytes inQuotes false])
      | .quoted bytes => (sh, [.text bytes true false])
      | .tilde user =>
          if user.isEmpty then
            match sh.lookup (encode "HOME") with
            | some home => (sh, [.text home true false])
            | none => (sh, [.text [0x7E] inQuotes false])
          else (sh, [.text (0x7E :: user) inQuotes false])
      | .parameter name form quoted => expandParameter fuel launch sh name form (quoted || inQuotes)
      | .substitution body line quoted =>
          let (sh, output) := substitute fuel launch sh body line
          (sh, [Piece.ofValue output (quoted || inQuotes)])
      | .arithmetic body quoted =>
          let (sh, pieces) := expandWord fuel launch sh body true
          if sh.flow == .exiting then (sh, [])
          else
            match evalArithmetic (piecesText pieces) sh.lookup sh.isReadonly with
            | .error message => (sh.fail (encode message), [])
            | .ok (value, assigned) =>
                match assigned.foldlM (fun (sh : Shell) (name, number) => sh.assign name (encode (toString number))) sh with
                | .error message => (sh.fail message, [])
                | .ok sh => (sh, [Piece.ofValue (encode (toString value)) (quoted || inQuotes)])

/-- Expand a parameter. -/
def expandParameter : Nat → Launcher → Shell → Bytes → Form → Bool → Shell × List Piece
  | 0, _, sh, _, _, _ => (sh, [])
  | fuel + 1, launch, sh, name, form, inQuotes =>
      let every := name == [0x40] || name == [0x2A]
      let value := sh.parameter name
      let isSet := fun (colon : Bool) =>
        if every then if colon then sh.params.any (!·.isEmpty) else !sh.params.isEmpty
        else match value with
          | some text => !colon || !text.isEmpty
          | none => false
      let valuePieces : List Piece :=
        if every then
          if name == [0x2A] && inQuotes then
            let separator := (sh.separators.head?.map fun b => [b]).getD []
            [.text ((sh.params.intersperse separator).flatten) true false]
          else (sh.params.map fun param => Piece.ofValue param inQuotes).intersperse .cut
        else [Piece.ofValue (value.getD []) inQuotes]
      let unsetError := sh.options.nounset && !every && value.isNone
      let unsetMessage := name ++ encode ": parameter not set"
      match form with
      | .value => if unsetError then (sh.fail unsetMessage, []) else (sh, valuePieces)
      | .length =>
          if unsetError then (sh.fail unsetMessage, [])
          else
            let length := if every then sh.params.length else (value.getD []).length
            (sh, [Piece.ofValue (encode (toString length)) inQuotes])
      | .fallback colon word =>
          if isSet colon then (sh, valuePieces) else expandWord fuel launch sh word inQuotes
      | .alternative colon word =>
          if isSet colon then expandWord fuel launch sh word inQuotes else (sh, [])
      | .assign colon word =>
          if isSet colon then (sh, valuePieces)
          else
            let (sh, pieces) := expandWord fuel launch sh word true
            if sh.flow == .exiting then (sh, [])
            else
              let text := piecesText pieces
              if !isName name then (sh.fail (name ++ encode ": bad variable name"), [])
              else
                match sh.assign name text with
                | .error message => (sh.fail message, [])
                | .ok sh => (sh, [Piece.ofValue text inQuotes])
      | .complain colon word =>
          if isSet colon then (sh, valuePieces)
          else
            let (sh, pieces) := expandWord fuel launch sh word true
            if sh.flow == .exiting then (sh, [])
            else
              let text := piecesText pieces
              let message := if word.isEmpty then
                  encode ("parameter not set" ++ (if colon then " or null" else ""))
                else text
              (sh.fail (name ++ encode ": " ++ message), [])
      | .trimSuffix longest word | .trimPrefix longest word =>
          if unsetError then (sh.fail unsetMessage, [])
          else
            let (sh, pieces) := expandWord fuel launch sh word false
            let pattern := piecesPattern pieces
            let suffix := match form with
              | .trimSuffix _ _ => true
              | _ => false
            let trim := fun (text : Bytes) =>
              if suffix then trimSuffix pattern longest text else trimPrefix pattern longest text
            if every then
              (sh, (sh.params.map fun param => Piece.ofValue (trim param) inQuotes).intersperse .cut)
            else (sh, [Piece.ofValue (trim (value.getD [])) inQuotes])
      | .malformed => (sh.fail (encode "Bad substitution"), [])

/-- Run a command substitution: its output without the line feeds at its
end. -/
def substitute : Nat → Launcher → Shell → Bytes → Nat → Shell × Bytes
  | 0, _, sh, _, _ => (sh, [])
  | fuel + 1, launch, sh, body, line =>
      let (sh, id) := sh.openCapture
      let child := (sh.enterSubshell.setDescriptor 1 (some (.writer (.capture id))))
      let child := runScript fuel launch { child with line := line } body line false
      let child := endShell fuel launch child
      let sh := sh.leaveSubshell child
      let (sh, output) := sh.closeCapture id
      ({ sh with substitutionStatus := some child.exitCode, status := sh.status }, stripTrailingNewlines output)

/-- Read and run a script's commands one complete command at a time, the
first line numbered `line`. -/
def runScript : Nat → Launcher → Shell → Bytes → Nat → Bool → Shell
  | 0, _, sh, _, _, _ => sh
  | fuel + 1, launch, sh, text, line, tested => runTokens fuel launch sh (tokenize line text) tested

/-- Run the commands of tokens until they end or control leaves them. -/
def runTokens : Nat → Launcher → Shell → List Located → Bool → Shell
  | 0, _, sh, _, _ => sh
  | fuel + 1, launch, sh, tokens, tested =>
      if sh.flow != .normal then sh
      else
        match parseComplete tokens with
        | .error failure =>
            { ({ sh with line := failure.line, functionLine := 0 }).fail (encode failure.message) with
              line := sh.line, functionLine := sh.functionLine }
        | .ok (none, _) => sh
        | .ok (some command, rest) =>
            let sh := runCommand fuel launch sh command tested
            runTokens fuel launch sh rest tested

/-- Run the traps of signals the shell has sent itself. -/
def runPendingTraps : Nat → Launcher → Shell → Shell
  | 0, _, sh => sh
  | fuel + 1, launch, sh =>
      match sh.pendingSignals with
      | [] => sh
      | signal :: rest =>
          let sh := { sh with pendingSignals := rest }
          match sh.traps.find? (·.1 == signal) with
          | some (_, action) =>
              let status := sh.status
              let sh := runScript fuel launch sh action sh.line false
              let sh := if sh.flow == .normal then { sh with status := status } else sh
              runPendingTraps fuel launch sh
          | none => runPendingTraps fuel launch sh

/-- Run the `EXIT` trap of a shell that is ending, unless a signal ended
it. The shell ends with the status it had, unless the trap exits with
another. -/
def endShell : Nat → Launcher → Shell → Shell
  | 0, _, sh => sh
  | fuel + 1, launch, sh =>
      if sh.signal.isSome then sh
      else
        match sh.traps.find? (·.1 == 0) with
        | some (_, action) =>
            let status := sh.status
            let sh := { sh with traps := sh.traps.filter (·.1 != 0), flow := .normal, endingStatus := some status,
                                commandName := none }
            let sh := runScript fuel launch sh action sh.line false
            if sh.signal.isSome || sh.flow == .exiting then { sh with flow := .exiting }
            else { sh with status := status, flow := .exiting }
        | none => { sh with flow := .exiting }

/-- Run a command. `tested` is set where its status is tested, so that
`-e` does not apply. -/
def runCommand : Nat → Launcher → Shell → Command → Bool → Shell
  | 0, _, sh, _, _ => sh
  | fuel + 1, launch, sh, command, tested =>
      if sh.flow != .normal || sh.options.noexec then sh
      else
        match command with
        | .simple line assignments words redirections =>
            let sh := runSimple fuel launch sh line assignments words redirections tested
            let sh := runPendingTraps fuel launch sh
            sh.checkErrexit tested
        | .negation inner =>
            let sh := runCommand fuel launch sh inner true
            if sh.flow != .normal then sh else { sh with status := if sh.status == 0 then 1 else 0 }
        | .pipeline commands =>
            let sh := runPipeline fuel launch sh commands none tested
            sh.checkErrexit tested
        | .both first second =>
            let sh := runCommand fuel launch sh first true
            if sh.flow == .normal && sh.status == 0 then runCommand fuel launch sh second tested else sh
        | .either first second =>
            let sh := runCommand fuel launch sh first true
            if sh.flow == .normal && sh.status != 0 then runCommand fuel launch sh second tested else sh
        | .sequence first second =>
            runCommand fuel launch (runCommand fuel launch sh first tested) second tested
        | .background inner =>
            let (sh, id) := sh.openStream []
            let child := (sh.enterSubshell.setDescriptor 0 (some (.reader id)))
            let child := runCommand fuel launch child inner false
            let child := endShell fuel launch child
            let pid := sh.nextProcess
            let sh := sh.leaveSubshell child
            { sh with status := 0, lastBackground := some pid, nextProcess := pid + 1,
                      jobs := (pid, child.exitCode) :: sh.jobs }
        | .subshell body redirections =>
            let child := sh.enterSubshell
            let (child, ready) := applyRedirections fuel launch child redirections
            let child := if ready then runCommand fuel launch child body false
              else if child.flow == .normal then { child with status := 2, flow := .exiting } else child
            let child := endShell fuel launch child
            (sh.leaveSubshell child).checkErrexit tested
        | .redirected body redirections =>
            let saved := sh.descriptors
            let (sh, ready) := applyRedirections fuel launch sh redirections
            if !ready then
              if sh.flow == .normal then { sh with status := 2, descriptors := saved } else sh
            else
              let sh := runCommand fuel launch sh body tested
              { sh with descriptors := saved }
        | .conditional test thenPart elsePart =>
            let sh := runCommand fuel launch sh test true
            if sh.flow != .normal then sh
            else if sh.status == 0 then runCommand fuel launch sh thenPart tested
            else
              match elsePart with
              | some other => runCommand fuel launch sh other tested
              | none => { sh with status := 0 }
        | .loop untilTrue test body =>
            let loops := sh.loops
            let sh := runLoop fuel launch { sh with loops := loops + 1 } untilTrue test body tested 0
            { sh with loops := loops }
        | .forEach line name words body =>
            let sh := { sh with line := line }
            let (sh, values) := match words with
              | some list => expandFields fuel launch sh list
              | none => (sh, sh.params)
            if sh.flow != .normal then sh
            else
              let loops := sh.loops
              let sh := runFor fuel launch { sh with loops := loops + 1, status := 0 } name values body tested
              { sh with loops := loops }
        | .choice line subject arms =>
            let sh := { sh with line := line }
            let (sh, pieces) := expandWord fuel launch sh subject false
            if sh.flow != .normal then sh
            else runArms fuel launch { sh with status := 0 } (piecesText pieces) arms tested
        | .function _ name _ =>
            { sh with functions := (name, command) :: sh.functions.filter (·.1 != name), status := 0 }

/-- Run a `while` or `until` loop from its test; `status` is that of the
last run of its body. -/
def runLoop : Nat → Launcher → Shell → Bool → Command → Command → Bool → Nat → Shell
  | 0, _, sh, _, _, _, _, status => { sh with status := status }
  | fuel + 1, launch, sh, untilTrue, test, body, tested, status =>
      let sh := runCommand fuel launch sh test true
      match sh.flow with
      | .breaking count =>
          { sh with flow := if count ≤ 1 then .normal else .breaking (count - 1), status := status }
      | .continuing count =>
          if count ≤ 1 then runLoop fuel launch { sh with flow := .normal } untilTrue test body tested status
          else { sh with flow := .continuing (count - 1), status := status }
      | .normal =>
          if (sh.status == 0) == untilTrue then { sh with status := status }
          else
            let sh := runCommand fuel launch sh body tested
            let status := sh.status
            match sh.flow with
            | .breaking count => { sh with flow := if count ≤ 1 then .normal else .breaking (count - 1) }
            | .continuing count =>
                if count ≤ 1 then runLoop fuel launch { sh with flow := .normal } untilTrue test body tested status
                else { sh with flow := .continuing (count - 1) }
            | .normal => runLoop fuel launch sh untilTrue test body tested status
            | _ => sh
      | _ => sh

/-- Run a `for` loop's body for each value. -/
def runFor : Nat → Launcher → Shell → Bytes → List Bytes → Command → Bool → Shell
  | 0, _, sh, _, _, _, _ => sh
  | _ + 1, _, sh, _, [], _, _ => sh
  | fuel + 1, launch, sh, name, value :: rest, body, tested =>
      match sh.assign name value with
      | .error message => sh.fail message
      | .ok sh =>
          let sh := runCommand fuel launch sh body tested
          match sh.flow with
          | .breaking count => { sh with flow := if count ≤ 1 then .normal else .breaking (count - 1) }
          | .continuing count =>
              if count ≤ 1 then runFor fuel launch { sh with flow := .normal } name rest body tested
              else { sh with flow := .continuing (count - 1) }
          | .normal => runFor fuel launch sh name rest body tested
          | _ => sh

/-- Run the first arm of a `case` with a pattern matching the subject. -/
def runArms : Nat → Launcher → Shell → Bytes → List (List Word × Option Command) → Bool → Shell
  | 0, _, sh, _, _, _ => sh
  | _ + 1, _, sh, _, [], _ => sh
  | fuel + 1, launch, sh, subject, (patterns, body) :: rest, tested =>
      let (sh, matched) := matchAny fuel launch sh subject patterns
      if sh.flow != .normal then sh
      else if matched then
        match body with
        | some command => runCommand fuel launch sh command tested
        | none => sh
      else runArms fuel launch sh subject rest tested

/-- Whether any of the patterns matches the subject. -/
def matchAny : Nat → Launcher → Shell → Bytes → List Word → Shell × Bool
  | 0, _, sh, _, _ => (sh, false)
  | _ + 1, _, sh, _, [] => (sh, false)
  | fuel + 1, launch, sh, subject, pattern :: rest =>
      let (sh, pieces) := expandWord fuel launch sh pattern false
      if sh.flow != .normal then (sh, false)
      else if (piecesPattern pieces).matches subject then (sh, true)
      else matchAny fuel launch sh subject rest

/-- Expand words into fields: split, and file name patterns expanded
unless `-f` is set. -/
def expandFields : Nat → Launcher → Shell → List Word → Shell × List Bytes
  | 0, _, sh, _ => (sh, [])
  | _ + 1, _, sh, [] => (sh, [])
  | fuel + 1, launch, sh, word :: rest =>
      let (sh, pieces) := expandWord fuel launch sh word false
      if sh.flow != .normal then (sh, [])
      else
        let fields := splitPieces sh.separators pieces
        let names := if sh.options.noglob then fields.map fun field => field.map Prod.fst
          else fields.flatMap (expandPathnames sh.world.files)
        let (sh, more) := expandFields fuel launch sh rest
        (sh, names ++ more)

/-- Expand words into single texts, as assignments are. -/
def expandAssignments : Nat → Launcher → Shell → List (Bytes × Word) → Shell × List (Bytes × Bytes)
  | 0, _, sh, _ => (sh, [])
  | _ + 1, _, sh, [] => (sh, [])
  | fuel + 1, launch, sh, (name, word) :: rest =>
      let (sh, pieces) := expandWord fuel launch sh word true
      if sh.flow != .normal then (sh, [])
      else
        let (sh, more) := expandAssignments fuel launch sh rest
        (sh, (name, piecesText pieces) :: more)

/-- Apply redirections to the shell's descriptors: whether they all
succeeded. A failure is reported; a malformed descriptor ends the shell. -/
def applyRedirections : Nat → Launcher → Shell → List Redirection → Shell × Bool
  | 0, _, sh, _ => (sh, true)
  | _ + 1, _, sh, [] => (sh, true)
  | fuel + 1, launch, sh, redirection :: rest =>
      match redirection with
      | .document fd body =>
          let (sh, pieces) := expandWord fuel launch sh body true
          if sh.flow != .normal then (sh, false)
          else
            let (sh, id) := sh.openStream (piecesText pieces)
            applyRedirections fuel launch (sh.setDescriptor fd (some (.reader id))) rest
      | .file fd op target =>
          let (sh, pieces) := expandWord fuel launch sh target false
          if sh.flow != .normal then (sh, false)
          else
            let path := piecesText pieces
            match op with
            | .input | .readWrite =>
                match sh.readForInput path with
                | .ok content =>
                    let (sh, id) := sh.openStream content
                    applyRedirections fuel launch (sh.setDescriptor fd (some (.reader id))) rest
                | .error .notFound =>
                    if op == .readWrite then
                      match sh.openForWriting path true false with
                      | .ok (sh, _) =>
                          let (sh, id) := sh.openStream []
                          applyRedirections fuel launch (sh.setDescriptor fd (some (.reader id))) rest
                      | .error error => (sh.complain (createMessage path error), false)
                    else (sh.complain (openMessage path .notFound), false)
                | .error error => (sh.complain (openMessage path error), false)
            | .output | .clobber | .append =>
                match sh.openForWriting path (op == .append) (op == .output && sh.options.noclobber) with
                | .ok (sh, sink) => applyRedirections fuel launch (sh.setDescriptor fd (some (.writer sink))) rest
                | .error error => (sh.complain (createMessage path error), false)
            | .duplicateInput | .duplicateOutput | .document =>
                if path == [0x2D] then applyRedirections fuel launch (sh.setDescriptor fd none) rest
                else
                  match path with
                  | [digit] =>
                      if isDigitByte digit then
                        let source := digit.toNat - 0x30
                        match sh.endpoint? source with
                        | some endpoint => applyRedirections fuel launch (sh.setDescriptor fd (some endpoint)) rest
                        | none => (sh.complain (encode (toString source ++ ": Bad file descriptor")), false)
                      else (sh.fail (encode "Syntax error: Bad fd number"), false)
                  | _ => (sh.fail (encode "Syntax error: Bad fd number"), false)

/-- Run a pipeline: each command in a subshell, reading what the one
before it wrote; the status is the last one's. -/
def runPipeline : Nat → Launcher → Shell → List Command → Option Nat → Bool → Shell
  | 0, _, sh, _, _, _ => sh
  | _ + 1, _, sh, [], _, _ => sh
  | fuel + 1, launch, sh, command :: rest, input, tested =>
      let child := sh.enterSubshell
      let child := match input with
        | some id => child.setDescriptor 0 (some (.reader id))
        | none => child
      if rest.isEmpty then
        let child := runCommand fuel launch child command tested
        let child := endShell fuel launch child
        sh.leaveSubshell child
      else
        let (child, capture) := child.openCapture
        let child := child.setDescriptor 1 (some (.writer (.capture capture)))
        let child := runCommand fuel launch child command tested
        let child := endShell fuel launch child
        let sh := sh.leaveSubshell child
        let (sh, written) := sh.closeCapture capture
        let (sh, next) := sh.openStream written
        runPipeline fuel launch sh rest (some next) tested

/-- Run a simple command. -/
def runSimple : Nat → Launcher → Shell → Nat → List (Bytes × Word) → List Word → List Redirection → Bool → Shell
  | 0, _, sh, _, _, _, _, _ => sh
  | fuel + 1, launch, sh, line, assignments, words, redirections, tested =>
      let sh := { sh with line := line, substitutionStatus := none }
      let (sh, fields) := expandFields fuel launch sh words
      if sh.flow != .normal then sh
      else
        let saved := sh.descriptors
        match fields with
        | [] =>
            let (sh, ready) := applyRedirections fuel launch sh redirections
            if !ready then
              if sh.flow == .normal then { sh with status := 2, descriptors := saved } else sh
            else
              let (sh, values) := expandAssignments fuel launch sh assignments
              if sh.flow != .normal then sh
              else
                let sh := sh.trace (values.map fun (name, value) => name ++ [0x3D] ++ value) []
                match values.foldlM (fun (sh : Shell) (name, value) => sh.assign name value) sh with
                | .error message => sh.fail message
                | .ok sh => { sh with status := sh.substitutionStatus.getD 0, descriptors := saved }
        | name :: args =>
            let kind := sh.classify name
            let special := match kind with
              | .special => true
              | _ => false
            let (sh, ready) := applyRedirections fuel launch sh redirections
            if !ready then
              if sh.flow == .normal then
                { sh with status := 2, descriptors := saved, flow := if special then .exiting else .normal }
              else sh
            else
              let (sh, values) := expandAssignments fuel launch sh assignments
              if sh.flow != .normal then sh
              else
                let sh := sh.trace (values.map fun (name, value) => name ++ [0x3D] ++ value) fields
                let keep := name == encode "exec" && args.isEmpty
                if special then
                  match values.foldlM (fun (sh : Shell) (name, value) => sh.assign name value) sh with
                  | .error message => sh.fail message
                  | .ok sh =>
                      let sh := invoke fuel launch sh kind name args tested
                      if keep then sh else { sh with descriptors := saved }
                else
                  match sh.assignTemporarily values with
                  | .error message => sh.fail message
                  | .ok (sh, previous) =>
                      let sh := invoke fuel launch sh kind name args tested
                      let sh := sh.restoreVariables previous
                      { sh with descriptors := saved }

/-- Run a command by name, its words expanded and redirections applied. -/
def invoke : Nat → Launcher → Shell → CommandKind → Bytes → List Bytes → Bool → Shell
  | 0, _, sh, _, _, _, _ => sh
  | fuel + 1, launch, sh, kind, name, args, tested =>
      match kind with
      | .function line body => runFunction fuel launch sh line body args tested
      | .external => runExternal fuel launch sh name args
      | .special | .builtin =>
          let special := match kind with
            | .special => true
            | _ => false
          let outer := sh.commandName
          let sh := { sh with commandName := some name }
          let sh := runBuiltin fuel launch sh special name args tested
          { sh with commandName := outer }

/-- Run a built-in command. -/
def runBuiltin : Nat → Launcher → Shell → Bool → Bytes → List Bytes → Bool → Shell
  | 0, _, sh, _, _, _, _ => sh
  | fuel + 1, launch, sh, special, name, args, tested =>
      let text := lossy name
      match runSimpleBuiltin sh text args with
      | some (sh, none) => sh
      | some (sh, some message) => sh.builtinFailed special message
      | none =>
          if text == "eval" then
            if args.isEmpty then { sh with status := 0 }
            else
              let sh := runScript fuel launch { sh with status := 0, commandName := none }
                ((args.intersperse [0x20]).flatten) sh.line tested
              { sh with commandName := some name }
          else if text == "." then
            match args with
            | [] => { sh with status := 0 }
            | file :: _ =>
                let place : Option Bytes :=
                  if file.contains 0x2F then some file
                  else
                    (sh.searchDirectories.map (placeIn · file)).find? fun candidate =>
                      match sh.world.files.resolve ⟨candidate⟩ true with
                      | .ok (.found _ (.file _ _)) => true
                      | _ => false
                match place with
                | none => sh.builtinFailed true (file ++ encode ": not found")
                | some path =>
                    match sh.readForInput path with
                    | .error error => sh.builtinFailed true (openMessage path error)
                    | .ok content =>
                        let line := sh.line
                        let functionLine := sh.functionLine
                        let sh := runScript fuel launch { sh with status := 0, commandName := some path, functionLine := 0 }
                          content 1 tested
                        let sh := if sh.flow == .returning then { sh with flow := .normal } else sh
                        { sh with line := line, functionLine := functionLine, commandName := some name }
          else if text == "exec" then
            match args with
            | [] => { sh with status := 0 }
            | program :: rest =>
                let sh := runExternal fuel launch sh program rest
                if sh.flow == .normal then { sh with flow := .exiting, traps := [] } else sh
          else if text == "command" then
            match readOptions "pvV" args with
            | .error message => sh.builtinFailed false message
            | .ok (options, rest) =>
                match rest with
                | [] => { sh with status := 0 }
                | target :: more =>
                    if options.any (·.1 == 'v') || options.any (·.1 == 'V') then
                      let (out, status) := sh.describe target (options.any (·.1 == 'V'))
                      { sh.write 1 out with status := status }
                    else
                      let targetText := lossy target
                      if specialBuiltins.contains targetText || regularBuiltins.contains targetText then
                        runBuiltin fuel launch { sh with commandName := some target } false target more tested
                      else runExternal fuel launch { sh with commandName := none } target more
          else { sh with status := 0 }

/-- Run a function with arguments as its positional parameters. -/
def runFunction : Nat → Launcher → Shell → Nat → Command → List Bytes → Bool → Shell
  | 0, _, sh, _, _, _, _ => sh
  | fuel + 1, launch, sh, line, body, args, tested =>
      let outer := sh
      let sh := { sh with params := args, functionLine := line, loops := 0, depth := sh.depth + 1,
                          frames := [] :: sh.frames, optionIndex := 1, optionOffset := none }
      let sh := runCommand fuel launch sh body tested
      let sh := if sh.flow == .returning then { sh with flow := .normal } else sh
      let sh := sh.restoreLocals
      { sh with params := outer.params, functionLine := outer.functionLine, loops := outer.loops,
                depth := outer.depth, optionIndex := outer.optionIndex, optionOffset := outer.optionOffset }

/-- Run a program: by its path when the name has a slash, otherwise from
the first place on the search path where it is a regular file, trying the
places after it when it cannot be run there. -/
def runExternal : Nat → Launcher → Shell → Bytes → List Bytes → Shell
  | 0, _, sh, _, _ => sh
  | _ + 1, launch, sh, name, args =>
      let env := sh.environment
      let (sh, input) := sh.takeInput
      let attempt := fun (path : Bytes) =>
        match launch sh.world ⟨path⟩ args env input with
        | .error .execFormat => launch sh.world (PathName.ofString "/bin/sh") (path :: args) env input
        | other => other
      let failed := fun (sh : Shell) (error : OsError) =>
        { sh.complain (name ++ encode (": " ++ startError error)) with status := startStatus error }
      let finish := fun (sh : Shell) (output : Output) (world : World) =>
        let files := { world.files with cwd := sh.world.files.cwd }
        ({ sh with world := { world with files := files } }).deliver output
      if name.contains 0x2F then
        match attempt name with
        | .ok (output, world) => finish sh output world
        | .error error => failed sh error
      else
        match sh.findProgram name with
        | (none, other) => { failed sh (if other then .permissionDenied else .notFound) with status := 127 }
        | (some (index, _), _) =>
            let places := (sh.searchDirectories.drop index).map (placeIn · name)
            let outcome := places.foldl (fun (acc : Except OsError (Output × World) × OsError) place =>
              match acc with
              | (.ok done, e) => (.ok done, e)
              | (.error _, remembered) =>
                  match attempt place with
                  | .ok done => (.ok done, remembered)
                  | .error .notFound | .error .notADirectory => (.error remembered, remembered)
                  | .error error => (.error error, error)) (.error .notFound, .notFound)
            match outcome.1 with
            | .ok (output, world) => finish sh output world
            | .error error => failed sh error

end

/-- The variables a shell starts with: its environment, exported, and the
defaults it sets. -/
def startingVariables (env : List (Bytes × Bytes)) (pwd : Bytes) : List (Bytes × Variable) :=
  let imported := env.map fun (name, value) => (name, ({ value := some value, exported := true } : Variable))
  let defaults : List (Bytes × Variable) :=
    [(encode "IFS", { value := some [0x20, 0x09, 0x0A] }), (encode "PS1", { value := some (encode "$ ") }),
     (encode "PS2", { value := some (encode "> ") }), (encode "PS4", { value := some (encode "+ ") }),
     (encode "OPTIND", { value := some (encode "1") })]
  let defaults := defaults.filter fun (name, _) => !env.any (·.1 == name)
  let withPwd := if env.any (·.1 == encode "PWD") then [] else [(encode "PWD", ({ value := some pwd } : Variable))]
  imported.reverse ++ defaults ++ withPwd

/-- Run a script with the shell: the name it was started as (`$0`), its
positional parameters, environment and standard input; `errexit` starts it
with `-e`. What it left, and the world after it. -/
def runShellScript (launch : Launcher) (world : World) (name : Bytes) (params : List Bytes)
    (env : List (Bytes × Bytes)) (input : Bytes) (script : Bytes) (errexit : Bool) : Output × World :=
  let cwd := (Key.path world.files.cwd).bytes
  let sh : Shell :=
    { world := world, name := name, params := params, bindings := startingVariables env cwd,
      options := { errexit := errexit }, descriptors := [(0, .reader 0), (1, .writer .stdout), (2, .writer .stderr)],
      streams := [(0, input)] }
  let fuel := 4000
  let sh := runScript fuel launch sh script 1 false
  let sh := endShell fuel launch sh
  let status : ExitStatus := match sh.signal with
    | some signal => .signaled signal
    | none => .exited (sh.status % 256)
  ({ status := status, stdout := sh.stdout, stderr := sh.stderr }, sh.world)

end BackupRotation.Process
