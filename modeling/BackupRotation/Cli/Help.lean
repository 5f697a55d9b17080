import BackupRotation.Cli.Grammar
/-!
# Usage lines and help text

A level of the command line is described to the user in two ways. The
usage line names the level, says `[OPTIONS]` when it has options that are
neither help nor version, and lists its positional arguments and its
command. A usage line written after a mistake names instead the options
that were used, the way they were used.

The help text is the description of the level, its usage line, and one
section each for commands, positional arguments and options. Every section
lines up its descriptions two spaces after its longest entry; an option
with only a short letter or only a long name is indented so that its
description still lines up with the others.
-/

namespace BackupRotation.Cli

/-- `count` spaces. -/
def spaces (count : Nat) : String := String.ofList (List.replicate count ' ')

/-- The text after an option's name: its placeholder, or the dots of a
counted switch. -/
def NamedArg.suffix (arg : NamedArg) : String :=
  match arg.action with
  | .value => " <" ++ arg.valueName ++ ">"
  | .count => "..."
  | _ => ""

/-- An option as complaints and usage lines name it: by its long name when
it has one. -/
def NamedArg.display (arg : NamedArg) : String :=
  (match arg.long, arg.short with
    | some long, _ => "--" ++ long
    | none, some letter => "-" ++ String.singleton letter
    | none, none => "") ++ arg.suffix

/-- A positional argument as shown: in angle brackets when it must be
given, in square brackets when it may be left out, with dots when it takes
every remaining word. -/
def Positional.shown (arg : Positional) (required : Bool) : String :=
  (if required && !arg.many then "<" ++ arg.valueName ++ ">" else "[" ++ arg.valueName ++ "]") ++
    (if arg.many then "..." else "")

/-- A positional argument as complaints name it. -/
def Positional.display (arg : Positional) : String := arg.shown arg.required

namespace Level

/-- Whether the usage line mentions `[OPTIONS]`. -/
def offersOptions (level : Level) : Bool :=
  level.named.any fun arg => arg.action != .help && arg.action != .version

/-- The closing word of a usage line: the command that must follow. -/
def commandSlot (level : Level) : String :=
  if level.commands.isEmpty then "" else " <COMMAND>"

/-- The usage line of the level. -/
def usage (level : Level) : String :=
  level.binName ++ (if level.offersOptions then " [OPTIONS]" else "") ++
    String.join (level.positionals.map fun arg => " " ++ arg.display) ++ level.commandSlot

/-- The usage line after a mistake, naming the arguments in `used`: the
options among them in the order given, then every positional argument. -/
def usageOf (level : Level) (used : List String) : String :=
  let options := (level.named.filter fun arg => used.contains arg.id).mergeSort fun x y =>
    used.idxOf x.id ≤ used.idxOf y.id
  level.binName ++ String.join (options.map fun arg => " " ++ arg.display) ++
    String.join (level.positionals.map fun arg => " " ++ arg.shown true) ++ level.commandSlot

/-- The usage line a complaint shows: the plain one when nothing was used. -/
def usageFor (level : Level) (used : List String) : String :=
  if used.isEmpty then level.usage else level.usageOf used

end Level

/-- The key options are listed by after their position: the short letter in
lower case followed by `0` for a lower-case letter and `1` otherwise, or
else the long name. -/
def listingKey (arg : NamedArg) : Nat × String :=
  match arg.short, arg.long with
  | some letter, _ =>
      (arg.order, String.singleton letter.toLower ++ (if letter.isLower then "0" else "1"))
  | none, some long => (arg.order, long)
  | none, none => (arg.order, "\x7b" ++ arg.id)

/-- Whether one listing key comes before or with another. -/
def keyLe (first second : Nat × String) : Bool :=
  first.1 < second.1 || (first.1 == second.1 && decide (first.2 ≤ second.2))

/-- The description of an option with its default. -/
def NamedArg.described (arg : NamedArg) : String :=
  match arg.default with
  | some value => arg.help ++ " [default: " ++ value ++ "]"
  | none => arg.help

/-- One line of the options section, where `widest` is the length of the
longest displayed option. -/
def optionLine (widest : Nat) (arg : NamedArg) : String :=
  let name := match arg.short, arg.long with
    | some letter, some long => "-" ++ String.singleton letter ++ ", --" ++ long
    | some letter, none => "-" ++ String.singleton letter
    | none, some long => "    --" ++ long
    | none, none => ""
  let pad := (if arg.long.isSome then widest + 2 else widest + 6) - arg.display.length
  "  " ++ name ++ arg.suffix ++ spaces pad ++ arg.described

/-- The options section. -/
def optionsSection (args : List NamedArg) : String :=
  let widest := args.foldl (fun acc arg => max acc arg.display.length) 2
  let sorted := args.mergeSort fun x y => keyLe (listingKey x) (listingKey y)
  "\n".intercalate (sorted.map (optionLine widest))

/-- The positional arguments section. -/
def positionalsSection (args : List Positional) : String :=
  let widest := args.foldl (fun acc arg => max acc arg.display.length) 2
  "\n".intercalate (args.map fun arg =>
    "  " ++ arg.display ++ spaces (widest + 2 - arg.display.length) ++ arg.help)

/-- The note on a command's other names. -/
def aliasNote (command : Command) : String :=
  match command.aliases with
  | [] => ""
  | [only] => " [alias: " ++ only ++ "]"
  | names => " [aliases: " ++ ", ".intercalate names ++ "]"

/-- The commands section. -/
def commandsSection (commands : List Command) : String :=
  let widest := commands.foldl (fun acc command => max acc command.name.length) 2
  "\n".intercalate (commands.map fun command =>
    "  " ++ command.name ++ spaces (widest + 2 - command.name.length) ++ command.about ++
      aliasNote command)

/-- The text without trailing white space, then one line end. -/
def closeText (text : String) : String :=
  String.ofList (text.toList.reverse.dropWhile Char.isWhitespace).reverse ++ "\n"

/-- The help text of a level. -/
def Level.helpText (level : Level) : String :=
  let sections :=
    (if level.commands.isEmpty then [] else ["Commands:\n" ++ commandsSection level.commands]) ++
    (if level.positionals.isEmpty then [] else
      ["Arguments:\n" ++ positionalsSection level.positionals]) ++
    (if level.named.isEmpty then [] else ["Options:\n" ++ optionsSection level.named])
  closeText (level.about ++ "\n\nUsage: " ++ level.usage ++ "\n\n" ++ "\n\n".intercalate sections)

/-- The version line of the program a level belongs to. -/
def Level.versionText (level : Level) : String :=
  level.program.name ++ " " ++ level.program.version ++ "\n"

end BackupRotation.Cli
