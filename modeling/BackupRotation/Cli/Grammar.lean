import BackupRotation.Cli.Similarity
/-!
# The command-line grammar

The program is called as `szbck [OPTIONS] <COMMAND> ...`: a few options
that hold for every command, then one command with its own options and one
positional argument. This module describes that grammar as data, so that one
parser and one help renderer serve every command.

A command sees its own options first, then the program-wide ones, then
`-h` or `--help`; the program itself also has `-V` or `--version`. Listing order in
help is separate from that: each option has a display position, numbered
from zero per command in declaration order, and program-wide options keep
the positions they have at the top. Options sharing a position are listed by
name. The `help` command, which prints the help of the commands named after
it, closes the list of commands; it has neither options nor help of its own.
-/

namespace BackupRotation.Cli

/-- What an option does when it appears. -/
inductive Action where
  /-- A switch that may appear once. -/
  | switch
  /-- A switch counted every time it appears. -/
  | count
  /-- An option that takes one value and may appear once. -/
  | value
  /-- Print the help of the command being read. -/
  | help
  /-- Print the name and version of the program. -/
  | version
deriving DecidableEq, Repr

/-- An option, named by a short letter, a long name, or both. -/
structure NamedArg where
  id : String
  short : Option Char := none
  long : Option String := none
  action : Action
  /-- Placeholder of the value, shown as `<NAME>`. -/
  valueName : String := ""
  help : String
  /-- Position in the help listing; equal positions are ordered by name. -/
  order : Nat
  /-- The value assumed when the option is absent. -/
  default : Option String := none
  /-- Whether the value may start with a dash. -/
  hyphenValues : Bool := false
  /-- Whether an empty value is refused, as it is for a path. -/
  nonEmpty : Bool := false
deriving Repr

/-- A positional argument. -/
structure Positional where
  id : String
  valueName : String
  help : String
  required : Bool := true
  /-- Whether it takes every remaining word. -/
  many : Bool := false
  nonEmpty : Bool := true
deriving Repr

/-- A command of the program. -/
structure Command where
  name : String
  /-- Other names it answers to, all shown in the listing. -/
  aliases : List String := []
  about : String
  named : List NamedArg := []
  positionals : List Positional := []
  /-- Whether it has `-h` or `--help` and the program-wide options. -/
  ordinary : Bool := true
deriving Repr

/-- A whole program: its options, which every ordinary command shares, and
its commands. -/
structure Program where
  name : String
  version : String
  about : String
  globals : List NamedArg
  commands : List Command
deriving Repr

/-- The option that prints help. -/
def helpArg : NamedArg :=
  { id := "help", short := some 'h', long := some "help", action := .help,
    help := "Print help", order := 999 }

/-- The option that prints the version. -/
def versionArg : NamedArg :=
  { id := "version", short := some 'V', long := some "version", action := .version,
    help := "Print version", order := 999 }

/-- The command that prints the help of other commands. -/
def helpCommand : Command :=
  { name := "help", about := "Print this message or the help of the given subcommand(s)",
    positionals := [{ id := "subcommand", valueName := "COMMAND",
                      help := "Print help for the subcommand(s)", required := false,
                      many := true, nonEmpty := false }],
    ordinary := false }

/-- One level of the command line as the parser reads it: the program
before its command, or one of its commands. -/
structure Level where
  program : Program
  /-- The command being read; none before the command. -/
  command : Option Command
deriving Repr

/-- Every command, the `help` command last. -/
def Program.allCommands (program : Program) : List Command := program.commands ++ [helpCommand]

/-- The level before the command. -/
def Program.top (program : Program) : Level := { program := program, command := none }

namespace Level

/-- The level of a command of the same program. -/
def sub (level : Level) (command : Command) : Level := { level with command := some command }

/-- The name shown in usage lines: the program, then the command. -/
def binName (level : Level) : String :=
  match level.command with
  | none => level.program.name
  | some command => level.program.name ++ " " ++ command.name

/-- What the level is for. -/
def about (level : Level) : String :=
  match level.command with
  | none => level.program.about
  | some command => command.about

/-- Options in the order they are looked up and suggested: a command's own,
then the program-wide ones, then help; the program adds its version. -/
def named (level : Level) : List NamedArg :=
  match level.command with
  | none => level.program.globals ++ [helpArg, versionArg]
  | some command =>
      if command.ordinary then command.named ++ level.program.globals ++ [helpArg] else []

/-- Positional arguments. -/
def positionals (level : Level) : List Positional :=
  match level.command with
  | none => []
  | some command => command.positionals

/-- Commands that may follow; none below the top. -/
def commands (level : Level) : List Command :=
  match level.command with
  | none => level.program.allCommands
  | some _ => []

/-- Whether the level has `--help`, to which complaints point. -/
def hasHelp (level : Level) : Bool :=
  match level.command with
  | none => true
  | some command => command.ordinary

/-- The command a word names, by name or alias. -/
def findCommand (level : Level) (word : String) : Option Command :=
  level.commands.find? fun command => command.name == word || command.aliases.contains word

/-- The option with a long name. -/
def findLong (level : Level) (name : String) : Option NamedArg :=
  level.named.find? (·.long == some name)

/-- The option with a short letter. -/
def findShort (level : Level) (letter : Char) : Option NamedArg :=
  level.named.find? (·.short == some letter)

/-- Long names, in lookup order. -/
def longs (level : Level) : List String := level.named.filterMap (·.long)

/-- Every name and alias of every command, in order. -/
def commandNames (level : Level) : List String :=
  level.commands.flatMap fun command => command.name :: command.aliases

/-- Where complaints send the user for more: the help option, or the help
command of a level without one. -/
def helpHint (level : Level) : Option String :=
  if level.hasHelp then some "--help"
  else if level.commands.isEmpty then none
  else some "help"

end Level

/-- A path option of a command. -/
def pathArg (id : String) (letter : Char) (help : String) (order : Nat) : NamedArg :=
  { id := id, short := some letter, long := some id, action := .value,
    valueName := id.toUpper, help := help, order := order, nonEmpty := true }

/-- A long switch of a command. -/
def switchArg (id long help : String) (order : Nat) : NamedArg :=
  { id := id, long := some long, action := .switch, help := help, order := order }

/-- The settings file every command but `create` reads. -/
def configArg : Positional :=
  { id := "config", valueName := "CONFIG", help := "Configuration file" }

/-- The option that replaces the configured target. -/
def targetOverride (order : Nat) : NamedArg :=
  pathArg "target" 't' "Override the configured target" order

/-- The backup program's command line. -/
def program : Program :=
  { name := "szbck", version := "0.2.0",
    about := "Time-machine style rsync snapshots with a decaying retention policy",
    globals :=
      [{ id := "verbose", short := some 'v', long := some "verbose", action := .count,
         help := "More output (-v for info, -vv for debug)", order := 0 },
       { id := "quiet", short := some 'q', long := some "quiet", action := .switch,
         help := "Only report errors", order := 1 }],
    commands :=
      [{ name := "create", aliases := ["c"],
         about := "Print a default configuration for a source directory",
         positionals := [{ id := "source", valueName := "SOURCE", help := "Directory to back up" }],
         named :=
          [pathArg "output" 'o' "Write the configuration to this file instead of stdout" 0,
           pathArg "target" 't' "Snapshot target to record in the configuration" 1] },
       { name := "snapshot", aliases := ["s", "snap"],
         about := "Take a snapshot of the configured source",
         positionals := [configArg],
         named :=
          [switchArg "dry_run" "dry-run" "Show what rsync would do and discard the new snapshot" 0,
           switchArg "trim" "trim" "Apply the retention policy afterwards" 1,
           switchArg "daemon" "daemon" "Repeat every hour" 2,
           targetOverride 3] },
       { name := "restore", aliases := ["r", "res"],
         about := "Restore the source from a snapshot",
         positionals := [configArg],
         named :=
          [pathArg "snapshot" 's' "Path below the target to restore from (defaults to latest)" 0,
           switchArg "dry_run" "dry-run" "Show what rsync would do without changing anything" 1,
           switchArg "keep" "keep" "Keep files missing from the snapshot" 2,
           targetOverride 3] },
       { name := "prune", aliases := ["p"],
         about := "Delete the oldest snapshots",
         positionals := [configArg],
         named :=
          [{ id := "count", short := some 'n', action := .value, valueName := "COUNT",
             help := "How many to delete: a positive number or \"all\"", order := 0,
             default := some "1", hyphenValues := true },
           switchArg "dry_run" "dry-run" "Report without deleting" 1,
           targetOverride 2] },
       { name := "trim", aliases := ["t"],
         about := "Apply the retention policy",
         positionals := [configArg],
         named := [switchArg "dry_run" "dry-run" "Report without deleting" 0, targetOverride 1] },
       { name := "status", aliases := ["stat"],
         about := "Show snapshot count and disk usage",
         positionals := [configArg],
         named := [switchArg "json" "json" "Print the report as JSON" 0, targetOverride 1] },
       { name := "vet", aliases := ["v"],
         about := "Check a configuration file",
         positionals := [configArg],
         named := [switchArg "json" "json" "Print the parsed configuration as JSON" 0] }] }

end BackupRotation.Cli
