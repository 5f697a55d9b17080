import BackupRotation.World
import BackupRotation.Tools.Transfer
import BackupRotation.Tools.Usage
import BackupRotation.Process.Shell.Run
/-!
# Starting programs

A program named without a slash is looked for in the directories of the
search path, in order. A directory where it is missing, or which is not a
directory, is passed over; one where it exists but may not be executed is
remembered and passed over too, and decides the error if nothing is found
later. Anything else that goes wrong stops the search.

What runs is decided by the file found: an installed tool runs as that
tool; a file starting with `#!` runs under the interpreter it names, which
must be an installed shell, or `env` followed by the name of a program to
look for on the search path the environment gives; any other file is not a
format the machine executes. A file with no execute bit, or a directory,
may not be executed. The one argument a `#!` line may give the shell turns
on stopping at the first failure when it is an option holding `e`.

Programs started by the program get the search path as `PATH` in their
environment; a shell script passes its exported variables on to the
programs it starts, which are started the same way, a bounded number of
levels deep.
-/

namespace BackupRotation.Process

open Files Text Tools

/-- Whether a mode has an execute bit. -/
def isExecutable (mode : Nat) : Bool := mode &&& 0o111 != 0

/-- Whether a byte is a blank on a `#!` line. -/
def isLineBlank (byte : UInt8) : Bool := byte == 0x20 || byte == 0x09

/-- The interpreter a script names on its first line, with the one argument
that may follow it: the rest of the line after blanks, trailing blanks
removed. -/
def interpreterOf (content : Bytes) : Option (Bytes × Option Bytes) :=
  match content with
  | 0x23 :: 0x21 :: rest =>
      let line := ((rest.takeWhile (· != 0x0A)).dropWhile isLineBlank).reverse.dropWhile isLineBlank
      let line := line.reverse
      let interpreter := line.takeWhile fun byte => !isLineBlank byte
      let argument := (line.drop interpreter.length).dropWhile isLineBlank
      some (interpreter, if argument.isEmpty then none else some argument)
  | _ => none

/-- Whether an interpreter argument asks the shell to stop at the first
failure, as `-e` does. -/
def asksErrexit (argument : Option Bytes) : Bool :=
  match argument with
  | some (0x2D :: flags) => flags.contains 0x65
  | _ => false

/-- The output of a program that could not be started. -/
def failedStart (code : Int) (message : Bytes) : Output :=
  { status := .exited code, stdout := [], stderr := message }

/-- The search path an environment gives, or the machine's when it gives
none. -/
def environmentPath (world : World) (env : List (Bytes × Bytes)) : List PathName :=
  match env.find? (·.1 == encode "PATH") with
  | some (_, path) => (path.splitOn 0x3A).map fun dir => if dir.isEmpty then PathName.ofString "." else ⟨dir⟩
  | none => world.searchPath

/-- Search the path directories for a program, trying each place with
`attempt`; `denied` remembers a program found but not executable. -/
def searchWith (attempt : PathName → Except OsError (Output × World)) (program : Bytes)
    (denied : Bool) : List PathName → Except OsError (Output × World)
  | [] => .error (if denied then .permissionDenied else .notFound)
  | dir :: rest =>
      match attempt (dir.join ⟨program⟩) with
      | .ok done => .ok done
      | .error .notFound | .error .notADirectory => searchWith attempt program denied rest
      | .error .permissionDenied => searchWith attempt program true rest
      | .error e => .error e

/-- Execute the file at a path with arguments, an environment and standard
input. Shell scripts start programs through this same function, `depth`
levels deep at most. -/
def execute : Nat → World → PathName → List Bytes → List (Bytes × Bytes) → Bytes →
    Except OsError (Output × World)
  | 0, _, _, _, _, _ => .error .permissionDenied
  | depth + 1, world, path, args, env, input =>
    let launch : Launcher := fun world path args env input => execute depth world path args env input
    match world.files.resolve path true with
    | .error e => .error e
    | .ok (.free _ _) => .error .notFound
    | .ok (.found key node) =>
        match node with
        | .directory _ | .link _ => .error .permissionDenied
        | .file mode content =>
            if !isExecutable mode then .error .permissionDenied
            else
              match world.tools.lookup key with
              | some .transfer =>
                  let run := runTransfer world.files args
                  .ok (run.output, { world with files := run.files })
              | some .usage => .ok (runUsage world.files args, world)
              | some .shell =>
                  match args with
                  | script :: rest =>
                      match world.files.readFile ⟨script⟩ with
                      | .ok text => .ok (runShellScript launch world script rest env input text false)
                      | .error _ =>
                          .ok ({ status := .exited 2,
                                 stderr := encode "sh: 0: cannot open " ++ script ++ encode ": No such file\n" }, world)
                  | [] => .ok (runShellScript launch world (encode "sh") [] env [] input false)
              | some .environment =>
                  .ok ({ status := .exited 0,
                         stdout := (env.map fun (name, value) => name ++ [0x3D] ++ value ++ [0x0A]).flatten }, world)
              | none =>
                  match interpreterOf content with
                  | none => .error .execFormat
                  | some (interpreter, argument) =>
                      match world.files.resolve ⟨interpreter⟩ true with
                      | .ok (.found shellKey (.file _ _)) =>
                          match world.tools.lookup shellKey with
                          | some .shell =>
                              .ok (runShellScript launch world path.bytes args env input content (asksErrexit argument))
                          | some .environment =>
                              let name := argument.getD []
                              let attempt := fun place => execute depth world place (path.bytes :: args) env input
                              let found := if name.contains slash then attempt ⟨name⟩
                                else searchWith attempt name false (environmentPath world env)
                              match found with
                              | .ok done => .ok done
                              | .error failure =>
                                  .ok (failedStart (if failure == .notFound then 127 else 126)
                                    (encode "/usr/bin/env: '" ++ name ++ encode "': " ++
                                      encode failure.describe ++ [0x0A]), world)
                          | _ => .error .execFormat
                      | .ok _ => .error .notFound
                      | .error e => .error e

/-- Start a program with arguments and wait for it. Its environment holds
the search path as `PATH`; its standard input is empty. -/
def spawn (world : World) (program : Bytes) (args : List Bytes) : Except OsError (Output × World) :=
  let path := ((world.searchPath.map (·.bytes)).intersperse [0x3A]).flatten
  let env := [(encode "PATH", path)]
  if program.contains slash then execute 8 world ⟨program⟩ args env []
  else searchWith (fun place => execute 8 world place args env []) program false world.searchPath

end BackupRotation.Process
