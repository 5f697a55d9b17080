import BackupRotation.Process.Shell.Expand
import BackupRotation.Process.Shell.Format
import BackupRotation.Process.Shell.Arith
/-!
# Built-in commands

The commands the shell runs itself, except those that run other commands
(`eval`, `.`, `exec`, `command`), which the evaluator runs.

A built-in command either finishes with a status or stops with an error
message. The shell reports the error after the command's name; an error of
a special built-in command (`break`, `continue`, `exit`, `export`,
`readonly`, `return`, `set`, `shift`, `trap`, `unset`, `local` and the
others) ends the shell, while one of a regular command only gives it
status 2. Warnings are written as the command runs and only change its
status.

Numbers that built-in commands take, such as the status of `exit` or the
count of `shift`, are decimal, may have blanks and a sign around them, and
must lie between 0 and the largest C `int`; anything else is an illegal
number.
-/

namespace BackupRotation.Process

open Files Text

/-- What a built-in command left: the shell, and the error that stopped
it, if one did. -/
abbrev Finished := Shell × Option Bytes

/-- Finish with a status. -/
def Shell.done (sh : Shell) (status : Nat) : Finished := ({ sh with status := status }, none)

/-- Stop with an error. -/
def Shell.stop (sh : Shell) (message : Bytes) : Finished := (sh, some message)

/-- The message about a number a command cannot take. -/
def illegalNumber (text : Bytes) : Bytes := encode "Illegal number: " ++ text

/-- A count or status a built-in command takes. -/
def readCount (text : Bytes) : Except Bytes Nat :=
  match shellNumber 10 text with
  | .ok n => if n < 0 || n > 2147483647 then .error (illegalNumber text) else .ok n.toNat
  | .error _ => .error (illegalNumber text)

/-- Read the options of a command: those of `letters`, a letter followed
by `:` taking an argument. Options end at the first argument that does
not start with `-`, at a lone `-`, or after `--`. The options read, in
order, and the arguments after them. -/
def readOptions (letters : String) (args : List Bytes) : Except Bytes (List (Char × Bytes) × List Bytes) :=
  go (args.length + 1) [] args
where
  /-- Whether a letter is an option, and whether it takes an argument. -/
  known (letter : Char) : Option Bool :=
    match (letters.toList.dropWhile (· != letter)) with
    | _ :: ':' :: _ => some true
    | _ :: _ => some false
    | [] => none
  /-- Read the letters of one argument. -/
  letterRun : Nat → List (Char × Bytes) → List Char → List Bytes →
      Except Bytes (List (Char × Bytes) × List Bytes)
    | 0, taken, _, rest => .ok (taken, rest)
    | _ + 1, taken, [], rest => .ok (taken, rest)
    | fuel + 1, taken, letter :: more, rest =>
        match known letter with
        | none => .error (encode ("Illegal option -" ++ String.singleton letter))
        | some false => letterRun fuel (taken ++ [(letter, [])]) more rest
        | some true =>
            if !more.isEmpty then .ok (taken ++ [(letter, encode (String.ofList more))], rest)
            else
              match rest with
              | value :: after => .ok (taken ++ [(letter, value)], after)
              | [] => .error (encode ("No arg for -" ++ String.singleton letter ++ " option"))
  /-- Read options argument by argument. -/
  go : Nat → List (Char × Bytes) → List Bytes → Except Bytes (List (Char × Bytes) × List Bytes)
    | 0, taken, rest => .ok (taken, rest)
    | fuel + 1, taken, rest =>
        match rest with
        | (0x2D :: 0x2D :: []) :: after => .ok (taken, after)
        | (0x2D :: first :: more) :: after => do
            let (taken, after) ← letterRun (more.length + 2) taken (lossy (first :: more)).toList after
            go fuel taken after
        | _ => .ok (taken, rest)

/-! ## Output -/

/-- `echo`. -/
def runEcho (sh : Shell) (args : List Bytes) : Finished := (sh.write 1 (echoOutput args)).done 0

/-- `printf`: warnings as it goes, an error that stops it. -/
def runPrintf (sh : Shell) (args : List Bytes) : Finished :=
  let pass := printfRun args
  let sh := sh.write 1 pass.out
  let sh := pass.warnings.foldl (fun sh warning => sh.complain warning) sh
  match pass.error with
  | some message => sh.stop message
  | none => sh.done (if pass.failed then 1 else 0)

/-! ## test -/

/-- What kind of operator a `test` argument is. -/
inductive TestKind where
  | unary
  | binary
  | negation
  | conjunction
  | disjunction
  | openParen
  | closeParen
deriving DecidableEq, Repr

/-- The operators of `test`. -/
def testOperators : List (String × TestKind) :=
  [("-r", .unary), ("-w", .unary), ("-x", .unary), ("-e", .unary), ("-f", .unary), ("-d", .unary),
   ("-c", .unary), ("-b", .unary), ("-p", .unary), ("-u", .unary), ("-g", .unary), ("-k", .unary),
   ("-s", .unary), ("-t", .unary), ("-z", .unary), ("-n", .unary), ("-h", .unary), ("-O", .unary),
   ("-G", .unary), ("-L", .unary), ("-S", .unary), ("=", .binary), ("!=", .binary), ("<", .binary),
   (">", .binary), ("-eq", .binary), ("-ne", .binary), ("-ge", .binary), ("-gt", .binary),
   ("-le", .binary), ("-lt", .binary), ("-nt", .binary), ("-ot", .binary), ("-ef", .binary),
   ("!", .negation), ("-a", .conjunction), ("-o", .disjunction), ("(", .openParen), (")", .closeParen)]

/-- The operator an argument is. -/
def testOperator (arg : Bytes) : Option (String × TestKind) :=
  testOperators.find? fun (name, _) => encode name == arg

/-- A token of a `test` expression. -/
inductive TestToken where
  | finish
  | operand
  | operator (name : String) (kind : TestKind)
deriving DecidableEq, Repr

/-- Whether a token is an operator of a kind. -/
def TestToken.is (token : TestToken) (kind : TestKind) : Bool :=
  match token with
  | .operator _ k => k == kind
  | _ => false

/-- The token at a place among the arguments. A unary operator is an
operand when nothing follows it, or when a binary operator follows it and
something after that; an opening parenthesis is one when nothing follows. -/
def testToken (args : Array Bytes) (i : Nat) : TestToken :=
  match args[i]? with
  | none => .finish
  | some arg =>
      match testOperator arg with
      | some (name, kind) =>
          let operandHere :=
            if kind == .unary then
              if i + 1 ≥ args.size then true
              else if i + 2 ≥ args.size then false
              else ((args[i + 1]?.bind testOperator).map (·.2)) == some .binary
            else kind == .openParen && i + 1 ≥ args.size
          if operandHere then .operand else .operator name kind
      | none => .operand

/-- What `stat` says of a path for `test`, links followed unless asked not. -/
def testNode (fs : FileSystem) (path : Bytes) (follow : Bool) : Option Node :=
  match fs.resolve ⟨path⟩ follow with
  | .ok (.found _ node) => some node
  | _ => none

/-- The mode of a node, a link counting as mode 777. -/
def nodeMode : Node → Nat
  | .directory mode => mode
  | .file mode _ => mode
  | .link _ => 0o777

/-- Apply a unary file or string test. -/
def unaryTest (fs : FileSystem) (op : String) (operand : Bytes) : Except Bytes Bool :=
  if op == "-z" then .ok operand.isEmpty
  else if op == "-n" then .ok !operand.isEmpty
  else if op == "-t" then (readCount operand).map fun _ => false
  else if op == "-h" || op == "-L" then .ok ((testNode fs operand false).any Node.isLink)
  else
    match testNode fs operand true with
    | none => .ok false
    | some node =>
        let mode := nodeMode node
        .ok (if op == "-e" then true
          else if op == "-f" then (match node with | .file _ _ => true | _ => false)
          else if op == "-d" then node.isDirectory
          else if op == "-r" then mode &&& 0o400 != 0
          else if op == "-w" then mode &&& 0o200 != 0
          else if op == "-x" then mode &&& 0o100 != 0
          else if op == "-s" then (match node with
            | .file _ content => !content.isEmpty
            | _ => true)
          else if op == "-u" then mode &&& 0o4000 != 0
          else if op == "-g" then mode &&& 0o2000 != 0
          else if op == "-k" then mode &&& 0o1000 != 0
          else if op == "-O" || op == "-G" then true
          else false)

/-- Compare bytes as C's `strcmp` does. -/
def compareBytes : Bytes → Bytes → Ordering
  | [], [] => .eq
  | [], _ :: _ => .lt
  | _ :: _, [] => .gt
  | a :: as, b :: bs => if a < b then .lt else if a > b then .gt else compareBytes as bs

/-- Apply a binary test. -/
def binaryTest (fs : FileSystem) (op : String) (left right : Bytes) : Except Bytes Bool :=
  if op == "=" then .ok (left == right)
  else if op == "!=" then .ok (left != right)
  else if op == "<" then .ok (compareBytes left right == .lt)
  else if op == ">" then .ok (compareBytes left right == .gt)
  else if op == "-nt" || op == "-ot" then .ok false
  else if op == "-ef" then
    .ok (match fs.resolve ⟨left⟩ true, fs.resolve ⟨right⟩ true with
      | .ok (.found a _), .ok (.found b _) => a == b
      | _, _ => false)
  else do
    let a ← (shellNumber 10 left).mapError encode
    let b ← (shellNumber 10 right).mapError encode
    pure (if op == "-eq" then a == b else if op == "-ne" then a != b else if op == "-ge" then a ≥ b
      else if op == "-gt" then a > b else if op == "-le" then a ≤ b else a < b)

/-- A `test` error about an argument, or about none. -/
def testError {α : Type} (arg : Option Bytes) (message : String) : Except Bytes α :=
  match arg with
  | some text => if text.isEmpty then .error (encode message) else .error (text ++ encode (": " ++ message))
  | none => .error (encode message)

mutual

/-- Expressions joined by `-o`; the place of the last argument read. -/
def testOr : Nat → FileSystem → Array Bytes → Nat → TestToken → Except Bytes (Bool × Nat)
  | 0, _, _, _, _ => testError none "expression too deep"
  | fuel + 1, fs, args, i, token => do
      let (first, i) ← testAnd fuel fs args i token
      if (testToken args (i + 1)).is .disjunction then do
        let (second, j) ← testOr fuel fs args (i + 2) (testToken args (i + 2))
        pure (first || second, j)
      else pure (first, i)

/-- Expressions joined by `-a`. -/
def testAnd : Nat → FileSystem → Array Bytes → Nat → TestToken → Except Bytes (Bool × Nat)
  | 0, _, _, _, _ => testError none "expression too deep"
  | fuel + 1, fs, args, i, token => do
      let (first, i) ← testNot fuel fs args i token
      if (testToken args (i + 1)).is .conjunction then do
        let (second, j) ← testAnd fuel fs args (i + 2) (testToken args (i + 2))
        pure (first && second, j)
      else pure (first, i)

/-- An expression after any number of `!`. -/
def testNot : Nat → FileSystem → Array Bytes → Nat → TestToken → Except Bytes (Bool × Nat)
  | 0, _, _, _, _ => testError none "expression too deep"
  | fuel + 1, fs, args, i, token =>
      if token.is .negation then do
        let (value, j) ← testNot fuel fs args (i + 1) (testToken args (i + 1))
        pure (!value, j)
      else testPrimary fuel fs args i token

/-- A primary: a parenthesized expression, a unary or binary test, or a
string that holds when it is not empty. -/
def testPrimary : Nat → FileSystem → Array Bytes → Nat → TestToken → Except Bytes (Bool × Nat)
  | 0, _, _, _, _ => testError none "expression too deep"
  | fuel + 1, fs, args, i, token =>
      match token with
      | .finish => testError none "argument expected"
      | .operator _ .openParen => do
          let (value, j) ← testOr fuel fs args (i + 1) (testToken args (i + 1))
          if (testToken args (j + 1)).is .closeParen then pure (value, j + 1)
          else testError none "closing paren expected"
      | .operator name .unary =>
          match args[i + 1]? with
          | some operand => do pure (← unaryTest fs name operand, i + 1)
          | none => testError (some (encode name)) "argument expected"
      | _ =>
          let left := args[i]?.getD []
          match testToken args (i + 1) with
          | .operator name .binary =>
              match args[i + 2]? with
              | some right => do pure (← binaryTest fs name left right, i + 2)
              | none => testError (some (encode name)) "argument expected"
          | _ => pure (!left.isEmpty, i)

end

/-- The status of `test` on arguments: 0 when the expression holds, 1 when
it does not, or the error. With three arguments and a binary operator in
the middle, or four, a leading `!` or enclosing parentheses are read
first. -/
def testStatus (fs : FileSystem) (args : List Bytes) : Except Bytes Nat :=
  recheck 1 3 args
where
  /-- Read a leading `!` or enclosing parentheses, then the expression;
  `result` is the status that a true expression flips. -/
  recheck : Nat → Nat → List Bytes → Except Bytes Nat
    | result, fuel, args =>
      let count := args.length
      if count == 0 then .ok result
      else
        let array := args.toArray
        let binaryMiddle := count == 3 && ((args[1]?.bind testOperator).map (·.2)) == some .binary
        let evaluate := fun (array : Array Bytes) (token : TestToken) => do
          let (value, i) ← testOr (4 * array.size + 8) fs array 0 token
          if i + 1 < array.size then testError (array[i]?) "unexpected operator"
          else pure (if value then 1 - result else result)
        if binaryMiddle then evaluate array .operand
        else if (count == 3 || count == 4) && args.head? == some (encode "(") && args.getLast? == some (encode ")") then
          let inner := ((args.drop 1).dropLast).toArray
          evaluate inner (testToken inner 0)
        else if (count == 3 || count == 4) && args.head? == some (encode "!") then
          match fuel with
          | 0 => evaluate array (testToken array 0)
          | fuel + 1 => recheck 0 fuel (args.drop 1)
        else evaluate array (testToken array 0)

/-- `test` and `[`; the latter needs its closing `]`. -/
def runTest (sh : Shell) (bracket : Bool) (args : List Bytes) : Finished :=
  let operands : Except Bytes (List Bytes) :=
    if bracket then
      if args.getLast? == some (encode "]") then .ok args.dropLast else .error (encode "missing ]")
    else .ok args
  match operands.bind (testStatus sh.world.files) with
  | .ok status => sh.done status
  | .error message => sh.stop message

/-! ## Variables -/

/-- A variable listing line: `command name='value'`, or the bare name of an
unset one. -/
def variableLine (command : String) (name : Bytes) (var : Variable) : Bytes :=
  let lead := if command.isEmpty then [] else encode (command ++ " ")
  match var.value with
  | some value => lead ++ name ++ [0x3D] ++ singleQuote value ++ [0x0A]
  | none => lead ++ name ++ [0x0A]

/-- The variables with a property, sorted by name. -/
def sortedVariables (sh : Shell) (keep : Variable → Bool) : List (Bytes × Variable) :=
  (sh.bindings.filter fun (_, var) => keep var).mergeSort fun a b => bytesLe a.1 b.1

/-- `export` and `readonly`: mark variables, setting those given a value;
with no names, or `-p`, list the marked ones. -/
def runMark (sh : Shell) (readonly : Bool) (args : List Bytes) : Finished :=
  let command := if readonly then "readonly" else "export"
  match readOptions "p" args with
  | .error message => sh.stop message
  | .ok (options, names) =>
      if !options.isEmpty || names.isEmpty then
        let listed := sortedVariables sh fun var => if readonly then var.readonly else var.exported
        (sh.write 1 (listed.map fun (name, var) => variableLine command name var).flatten).done 0
      else
        let step := fun (acc : Except Bytes Shell) (arg : Bytes) => do
          let sh ← acc
          let name := arg.takeWhile (· != 0x3D)
          if !isName name then throw (name ++ encode ": bad variable name")
          let value := if name.length < arg.length then some (arg.drop (name.length + 1)) else none
          let sh ← match value with
            | some text => sh.assign name text
            | none => pure sh
          let var := (sh.findVariable name).getD {}
          pure (sh.putVariable name (if readonly then { var with readonly := true } else { var with exported := true }))
        match names.foldl step (.ok sh) with
        | .ok sh => sh.done 0
        | .error message => sh.stop message

/-- `unset`: variables, or functions with `-f`. -/
def runUnset (sh : Shell) (args : List Bytes) : Finished :=
  match readOptions "vf" args with
  | .error message => sh.stop message
  | .ok (options, names) =>
      let functions := (options.getLast?.map (·.1)) == some 'f'
      if functions then
        ({ sh with functions := sh.functions.filter fun (name, _) => !names.contains name }).done 0
      else
        match names.foldl (fun (acc : Except Bytes Shell) name => acc.bind (·.unassign name)) (.ok sh) with
        | .ok sh => sh.done 0
        | .error message => sh.stop message

/-- `local`: save variables for the function being run to restore, and
set those given a value. -/
def runLocal (sh : Shell) (args : List Bytes) : Finished :=
  match sh.frames with
  | [] => sh.stop (encode "not in a function")
  | frame :: outer =>
      let step := fun (acc : Except Bytes Shell) (arg : Bytes) => do
        let sh ← acc
        let name := arg.takeWhile (· != 0x3D)
        if !isName name then throw (name ++ encode ": bad variable name")
        let saved := match sh.frames with
          | top :: rest => if top.any (·.1 == name) then sh.frames else ((name, sh.findVariable name) :: top) :: rest
          | [] => []
        let sh := { sh with frames := saved }
        if name.length < arg.length then sh.assign name (arg.drop (name.length + 1)) else pure sh
      match args.foldl step (.ok { sh with frames := frame :: outer }) with
      | .ok sh => sh.done 0
      | .error message => sh.stop message

/-- Restore the variables the innermost function saved with `local`. -/
def Shell.restoreLocals (sh : Shell) : Shell :=
  match sh.frames with
  | frame :: outer =>
      let sh := frame.reverse.foldl (fun (sh : Shell) (name, saved) =>
        match saved with
        | some var => sh.putVariable name var
        | none => { sh with bindings := sh.bindings.filter (·.1 != name) }) sh
      { sh with frames := outer }
  | [] => sh

/-! ## Options and parameters -/

/-- The names of all options, in the order `set -o` lists them, with the
letters of those this shell keeps. -/
def allOptionNames : List (String × Option Char) :=
  [("errexit", some 'e'), ("noglob", some 'f'), ("ignoreeof", none), ("interactive", none),
   ("monitor", none), ("noexec", some 'n'), ("stdin", none), ("xtrace", some 'x'),
   ("verbose", some 'v'), ("vi", none), ("emacs", none), ("noclobber", some 'C'),
   ("allexport", some 'a'), ("notify", none), ("nounset", some 'u'), ("nolog", none), ("debug", none)]

/-- Whether an option letter is set. -/
def Options.has (options : Options) (letter : Char) : Bool :=
  ((optionLetters.find? (·.1 == letter)).map fun (_, get, _) => get options).getD false

/-- Set or clear an option by its letter: none when the letter is no
option. Letters of options this shell does not keep are accepted. -/
def Options.setLetter (options : Options) (letter : Char) (on : Bool) : Option Options :=
  match optionLetters.find? (·.1 == letter) with
  | some (_, _, put) => some (put options on)
  | none => if "IimsVEbp".toList.contains letter then some options else none

/-- `set`: with no arguments list the variables; otherwise set and clear
options, and set the positional parameters to the arguments after them. -/
def runSet (sh : Shell) (args : List Bytes) : Finished :=
  if args.isEmpty then
    let listed := sortedVariables sh fun var => var.value.isSome
    (sh.write 1 (listed.map fun (name, var) => variableLine "" name var).flatten).done 0
  else go (args.length + 1) sh args
where
  /-- The listing of `set -o` or `set +o`. -/
  listing (sh : Shell) (on : Bool) : Bytes :=
    (allOptionNames.map fun (name, letter) =>
      let set := (letter.map sh.options.has).getD false
      if on then encode (name ++ String.ofList (List.replicate (16 - name.length) ' ') ++ (if set then "on" else "off") ++ "\n")
      else encode ("set " ++ (if set then "-o " else "+o ") ++ name ++ "\n")).flatten
  /-- Read the options one argument at a time. -/
  go : Nat → Shell → List Bytes → Finished
    | 0, sh, _ => sh.done 0
    | fuel + 1, sh, args =>
        match args with
        | [] => sh.done 0
        | arg :: rest =>
            let on := arg.head? == some 0x2D
            if arg == encode "--" then ({ sh with params := rest }).done 0
            else if arg == encode "-" then
              let sh := { sh with options := { sh.options with xtrace := false, verbose := false } }
              (if rest.isEmpty then sh else { sh with params := rest }).done 0
            else if (arg.head? == some 0x2D || arg.head? == some 0x2B) && arg.length > 1 then
              letters fuel sh on (lossy (arg.drop 1)).toList rest
            else ({ sh with params := args }).done 0
  /-- Apply the letters of one option argument. -/
  letters : Nat → Shell → Bool → List Char → List Bytes → Finished
    | 0, sh, _, _, _ => sh.done 0
    | fuel + 1, sh, on, letter :: more, rest =>
        if letter == 'o' then
          match rest with
          | name :: after =>
              match allOptionNames.find? (·.1 == lossy name) with
              | some (_, some key) =>
                  letters fuel { sh with options := (sh.options.setLetter key on).getD sh.options } on more after
              | some (_, none) => letters fuel sh on more after
              | none => sh.stop (encode ("Illegal option " ++ (if on then "-o " else "+o ")) ++ name)
          | [] => letters fuel (sh.write 1 (listing sh on)) on more []
        else
          match sh.options.setLetter letter on with
          | some options => letters fuel { sh with options := options } on more rest
          | none => sh.stop (encode ("Illegal option " ++ (if on then "-" else "+") ++ String.singleton letter))
    | fuel + 1, sh, _, [], rest => go fuel sh rest

/-- `shift`. -/
def runShift (sh : Shell) (args : List Bytes) : Finished :=
  match args.head?.map readCount |>.getD (.ok 1) with
  | .error message => sh.stop message
  | .ok count =>
      if count > sh.params.length then sh.stop (encode "can't shift that many")
      else ({ sh with params := sh.params.drop count }).done 0

/-! ## Leaving -/

/-- `exit`: end the shell with the status given, or the last one. -/
def runExit (sh : Shell) (args : List Bytes) : Finished :=
  match args.head?.map readCount with
  | some (.error message) => sh.stop message
  | some (.ok code) => ({ sh with status := code % 256, flow := .exiting }, none)
  | none => ({ sh with status := sh.endingStatus.getD sh.status, flow := .exiting }, none)

/-- `return`: leave the function being run. -/
def runReturn (sh : Shell) (args : List Bytes) : Finished :=
  match args.head?.map readCount with
  | some (.error message) => sh.stop message
  | some (.ok code) => ({ sh with status := code % 256, flow := .returning }, none)
  | none => ({ sh with flow := .returning }, none)

/-- `break` and `continue`: leave loops, at most as many as are running. -/
def runLeaveLoop (sh : Shell) (continuing : Bool) (args : List Bytes) : Finished :=
  match args.head?.map readCount |>.getD (.ok 1) with
  | .error message => sh.stop message
  | .ok 0 => sh.stop (illegalNumber (args.head?.getD []))
  | .ok count =>
      let count := min count sh.loops
      if count == 0 then sh.done 0
      else ({ sh with status := 0, flow := if continuing then .continuing count else .breaking count }, none)

/-! ## Signals -/

/-- The signal a `trap` or `kill` argument names: a number below 65, or
a name in any case. -/
def signalOf (text : Bytes) : Option Nat :=
  if !text.isEmpty && text.all isDigitByte then
    let number := text.foldl (fun n d => n * 10 + (d.toNat - 0x30)) 0
    if number < 65 then some number else none
  else
    let name := (lossy text).map Char.toUpper
    if name == "EXIT" then some 0 else (signalNames.idxOf? name).map (· + 1)

/-- The name `trap` lists a signal by. -/
def signalListName (signal : Nat) : String :=
  if signal == 0 then "EXIT" else (signalNames[signal - 1]?).getD (toString signal)

/-- `trap`: list the traps, or set, ignore (`''`) or reset (`-`) those of
the signals given. -/
def runTrap (sh : Shell) (args : List Bytes) : Finished :=
  let args := match args with
    | first :: rest => if first == encode "--" then rest else args
    | [] => []
  match args with
  | [] =>
      let lines := (sh.traps.mergeSort fun a b => a.1 ≤ b.1).map fun (signal, action) =>
        encode "trap -- " ++ singleQuote action ++ encode (" " ++ signalListName signal ++ "\n")
      (sh.write 1 lines.flatten).done 0
  | first :: rest =>
      let (action, signals) :=
        if rest.isEmpty || (signalOf first).isSome then (none, args) else (some first, rest)
      let action := if action == some (encode "-") then none else action
      go sh action signals
where
  /-- Set the trap of each signal in turn. -/
  go (sh : Shell) (action : Option Bytes) : List Bytes → Finished
    | [] => sh.done 0
    | name :: rest =>
        match signalOf name with
        | none => (sh.write 2 (encode "trap: " ++ name ++ encode ": bad trap\n")).done 1
        | some signal =>
            let others := sh.traps.filter (·.1 != signal)
            let traps := match action with
              | some text => (signal, text) :: others
              | none => others
            go { sh with traps := traps } action rest

/-- Send a signal to the shell itself: a trap that is set runs after the
command, an ignored signal does nothing, and otherwise a signal whose
default action ends a process ends the shell. -/
def Shell.selfSignal (sh : Shell) (signal : Nat) : Shell :=
  match sh.traps.find? (·.1 == signal) with
  | some (_, action) => if action.isEmpty then sh else { sh with pendingSignals := sh.pendingSignals ++ [signal] }
  | none =>
      if signal == 0 || leavesRunning signal then sh
      else { sh with signal := some signal, flow := .exiting }

/-- `kill`: send a signal to processes. Only the shell itself and its
finished background commands are known; a signal to the latter finds no
process. -/
def runKill (sh : Shell) (args : List Bytes) : Finished :=
  let usage := encode "Usage: kill [-s sigspec | -signum | -sigspec] [pid | job]... or\nkill -l [exitstatus]"
  match args with
  | [] => sh.stop usage
  | first :: rest =>
      let parsed : Except Bytes (Option Nat × Bool × List Bytes) :=
        match first with
        | 0x2D :: spec =>
            match signalOf spec with
            | some signal => if spec.isEmpty then .ok (none, false, rest) else .ok (some signal, false, rest)
            | none => do
                let (options, after) ← readOptions "ls:" args
                let mut signal : Option Nat := none
                let mut list := false
                for (letter, value) in options do
                  if letter == 'l' then list := true
                  else
                    match signalOf value with
                    | some s => signal := some s
                    | none => throw (encode "invalid signal number or name: " ++ value)
                pure (signal, list, after)
        | _ => .ok (none, false, args)
      match parsed with
      | .error message => sh.stop message
      | .ok (signal, list, targets) =>
          if list then
            match targets with
            | [] =>
                let names := (signalNames.map fun name => encode (name ++ "\n")).flatten
                (sh.write 1 (encode "0\n" ++ names)).done 0
            | code :: _ =>
                match readCount code with
                | .error message => sh.stop message
                | .ok number =>
                    let number := if number > 128 then number - 128 else number
                    match signalNames[number - 1]? with
                    | some name => if number == 0 then sh.stop (encode "invalid signal number or exit status: " ++ code)
                                   else (sh.write 1 (encode (name ++ "\n"))).done 0
                    | none => sh.stop (encode "invalid signal number or exit status: " ++ code)
          else if targets.isEmpty then sh.stop usage
          else
            let signal := signal.getD 15
            let step := fun (acc : Except Bytes (Shell × Bool)) (target : Bytes) => do
              let (sh, failed) ← acc
              let (negative, digits) := match target with
                | 0x2D :: rest => (true, rest)
                | _ => (false, target)
              let pid ← readCount digits
              if pid == ownProcess || pid == 0 || (negative && pid == ownProcess) then
                pure (sh.selfSignal signal, failed)
              else pure (sh.complain (encode "No such process\n"), true)
            match targets.foldl step (.ok (sh, false)) with
            | .error message => sh.stop message
            | .ok (sh, failed) => sh.done (if failed then 1 else 0)

/-! ## Reading input -/

/-- The bytes of a line `read` takes from its input, each marked when a
backslash quoted it, and whether a line feed ended it. Without `raw`, a
backslash quotes the next byte, and before a line feed joins the next
line; null bytes are dropped. -/
def readInputLine (raw : Bool) : Nat → Bytes → List (UInt8 × Bool) → List (UInt8 × Bool) × Bytes × Bool
  | 0, input, taken => (taken.reverse, input, false)
  | _ + 1, [], taken => (taken.reverse, [], false)
  | fuel + 1, byte :: rest, taken =>
      if byte == 0x0A then (taken.reverse, rest, true)
      else if byte == 0 then readInputLine raw fuel rest taken
      else if byte == 0x5C && !raw then
        match rest with
        | 0x0A :: after => readInputLine raw fuel after taken
        | next :: after => readInputLine raw fuel after ((next, true) :: taken)
        | [] => (taken.reverse, [], false)
      else readInputLine raw fuel rest ((byte, false) :: taken)

/-- Whether a marked byte is an unquoted separator, and white space. -/
def separatorKind (ifs : Bytes) (item : UInt8 × Bool) : Option Bool :=
  let (byte, quoted) := item
  if !quoted && ifs.contains byte then some (byte == 0x20 || byte == 0x09 || byte == 0x0A) else none

/-- The values `read` gives `count` variables from a line: fields for all
but the last, which takes the rest of the line without the separator
white space around it (and without the terminator when the rest is a
single field). -/
def readValues (ifs : Bytes) : Nat → List (UInt8 × Bool) → List Bytes
  | 0, _ => []
  | 1, line =>
      let isWhite := fun item => separatorKind ifs item == some true
      let rest := (line.dropWhile isWhite).reverse.dropWhile isWhite |>.reverse
      let field := rest.takeWhile fun item => (separatorKind ifs item).isNone
      let after := rest.drop field.length
      let nonWhite := after.filter fun item => separatorKind ifs item == some false
      let onlySeparators := after.all fun item => (separatorKind ifs item).isSome
      let value := if onlySeparators && nonWhite.length ≤ 1 then field else rest
      [value.map Prod.fst]
  | count + 1, line =>
      let isWhite := fun item => separatorKind ifs item == some true
      let line := line.dropWhile isWhite
      let field := line.takeWhile fun item => (separatorKind ifs item).isNone
      let after := line.drop field.length
      let after := match after with
        | first :: more =>
            if separatorKind ifs first == some true then
              let more := more.dropWhile isWhite
              match more with
              | next :: tail => if separatorKind ifs next == some false then tail.dropWhile isWhite else more
              | [] => []
            else more.dropWhile isWhite
        | [] => []
      field.map Prod.fst :: readValues ifs count after

/-- `read`: take a line from standard input and set the variables named
to its fields. At the end of the input the status is 1, the variables
still set from what was read. -/
def runRead (sh : Shell) (args : List Bytes) : Finished :=
  match readOptions "p:r" args with
  | .error message => sh.stop message
  | .ok (options, names) =>
      if names.isEmpty then sh.stop (encode "arg count")
      else
        let raw := options.any (·.1 == 'r')
        let (line, complete, sh) := match sh.pending 0 with
          | some (id, input) =>
              let (line, rest, complete) := readInputLine raw (input.length + 1) input []
              (line, complete, sh.setStream id rest)
          | none => ([], false, sh)
        let values := readValues sh.separators names.length line
        let values := values ++ List.replicate (names.length - values.length) []
        match (names.zip values).foldl (fun (acc : Except Bytes Shell) (name, value) =>
            acc.bind (·.assign name value)) (.ok sh) with
        | .ok sh => sh.done (if complete then 0 else 1)
        | .error message => sh.stop message

/-! ## getopts -/

/-- `getopts`: read the next option from the positional parameters, or
from the arguments given after the variable's name. -/
def runGetopts (sh : Shell) (args : List Bytes) : Finished :=
  match args with
  | spec :: target :: given =>
      let words := if given.isEmpty then sh.params else given
      let (index, offset) :=
        if sh.optionIndex > words.length + 1 then (1, none) else (sh.optionIndex, sh.optionOffset)
      let specChars := (lossy spec).toList
      let silent := specChars.head? == some ':'
      -- the rest of the word being read, if any
      let current : Option (List Char) := match offset with
        | some off =>
            if index ≤ 1 then none
            else
              match words[index - 2]? with
              | some word => if off ≤ word.length then some ((lossy word).toList.drop off) else none
              | none => none
        | none => none
      let (next, chars, finished) : Nat × List Char × Bool :=
        match current with
        | some (c :: more) => (index, c :: more, false)
        | _ =>
            match words[index - 1]? with
            | some word =>
                match (lossy word).toList with
                | '-' :: c :: more =>
                    if c == '-' && more.isEmpty then (index + 1, [], true) else (index + 1, c :: more, false)
                | _ => (index, [], true)
            | none => (index, [], true)
      let finishWith := fun (sh : Shell) (next : Nat) (letter : Char) (rest : Option (List Char)) (status : Nat) =>
        let sh := sh.putVariable (encode "OPTIND") { ((sh.findVariable (encode "OPTIND")).getD {}) with
          value := some (encode (toString next)) }
        match sh.assign target (encode (String.singleton letter)) with
        | .error message => sh.stop message
        | .ok sh =>
            let offset := rest.bind fun more =>
              match words[next - 2]? with
              | some word => some ((lossy word).toList.length - more.length)
              | none => none
            ({ sh with optionIndex := next, optionOffset := offset }).done status
      let setArgument := fun (sh : Shell) (value : Option Bytes) =>
        match value with
        | some text => (sh.assign (encode "OPTARG") text).toOption.getD sh
        | none => (sh.unassign (encode "OPTARG")).toOption.getD sh
      if finished then finishWith sh next '?' none 1
      else
        match chars with
        | letter :: more =>
            let known := (specChars.dropWhile (· != letter))
            if letter == ':' || known.isEmpty then
              let sh := if silent then setArgument sh (some (encode (String.singleton letter)))
                else setArgument (sh.write 2 (encode ("Illegal option -" ++ String.singleton letter ++ "\n"))) none
              finishWith sh next '?' (if more.isEmpty then none else some more) 0
            else if (known.drop 1).head? == some ':' then
              if !more.isEmpty then
                finishWith (setArgument sh (some (encode (String.ofList more)))) next letter none 0
              else
                match words[next - 1]? with
                | some value => finishWith (setArgument sh (some value)) (next + 1) letter none 0
                | none =>
                    if silent then
                      finishWith (setArgument sh (some (encode (String.singleton letter)))) next ':' none 0
                    else
                      let sh := sh.write 2 (encode ("No arg for -" ++ String.singleton letter ++ " option\n"))
                      finishWith (setArgument sh none) next '?' none 0
            else finishWith (setArgument sh (some [])) next letter (if more.isEmpty then none else some more) 0
        | [] => finishWith sh next '?' none 1
  | _ => sh.stop (encode "Usage: getopts optstring var [arg]")

/-! ## The working directory -/

/-- A path made absolute against a directory and with `.` and `..`
components worked out by name, as the shell tracks its logical working
directory. -/
def logicalPath (base : Bytes) (path : Bytes) : Bytes :=
  let start := if path.head? == some 0x2F then [] else splitSlashes base
  let parts := (splitSlashes path).foldl (fun acc part =>
    if part.isEmpty || part == [0x2E] then acc
    else if part == [0x2E, 0x2E] then acc.dropLast
    else acc ++ [part]) (start.filter (!·.isEmpty))
  0x2F :: (parts.intersperse [0x2F]).flatten

/-- The logical working directory: `PWD` when set, otherwise the place. -/
def Shell.logicalDirectory (sh : Shell) : Bytes :=
  (sh.lookup (encode "PWD")).getD sh.workingDirectory.bytes

/-- `cd`: change the working directory, by default to `HOME`; `cd -`
goes back to `OLDPWD` and prints it. -/
def runCd (sh : Shell) (args : List Bytes) : Finished :=
  match readOptions "LP" args with
  | .error message => sh.stop message
  | .ok (options, rest) =>
      let physical := (options.getLast?.map (·.1)) == some 'P'
      let (target, print) := match rest.head? with
        | some dest => if dest == encode "-" then ((sh.lookup (encode "OLDPWD")).getD [], true) else (dest, false)
        | none => ((sh.lookup (encode "HOME")).getD [], false)
      let target := if target.isEmpty then encode "." else target
      let old := sh.logicalDirectory
      let logical := logicalPath old target
      let place := if physical then target else logical
      match sh.world.files.resolve ⟨place⟩ true with
      | .ok (.found key (.directory mode)) =>
          if mode &&& 0o100 == 0 then sh.stop (encode "can't cd to " ++ target)
          else
            let files := { sh.world.files with cwd := key }
            let sh := { sh with world := { sh.world with files := files } }
            let now := if physical then (Key.path key).bytes else logical
            let sh := ((sh.assign (encode "OLDPWD") old).toOption.getD sh)
            let sh := ((sh.assign (encode "PWD") now).toOption.getD sh)
            (if print then sh.write 1 (now ++ [0x0A]) else sh).done 0
      | _ => sh.stop (encode "can't cd to " ++ target)

/-- `pwd`: the logical working directory, or with `-P` the place. -/
def runPwd (sh : Shell) (args : List Bytes) : Finished :=
  match readOptions "LP" args with
  | .error message => sh.stop message
  | .ok (options, _) =>
      let physical := (options.getLast?.map (·.1)) == some 'P'
      let shown := if physical then sh.workingDirectory.bytes else sh.logicalDirectory
      (sh.write 1 (shown ++ [0x0A])).done 0

/-- `umask`: show the mask in octal, or with `-S` as the permissions it
leaves, or set it from octal digits. -/
def runUmask (sh : Shell) (args : List Bytes) : Finished :=
  match readOptions "S" args with
  | .error message => sh.stop message
  | .ok (options, rest) =>
      match rest with
      | [] =>
          if options.isEmpty then
            let digits := (Nat.toDigits 8 sh.mask)
            let text := String.ofList (List.replicate (4 - digits.length) '0' ++ digits)
            (sh.write 1 (encode (text ++ "\n"))).done 0
          else
            let allowed := 0o777 - sh.mask
            let part := fun (who : String) (shift : Nat) =>
              let bits := allowed / Nat.pow 2 shift % 8
              who ++ "=" ++ (if bits &&& 4 != 0 then "r" else "") ++ (if bits &&& 2 != 0 then "w" else "") ++
                (if bits &&& 1 != 0 then "x" else "")
            (sh.write 1 (encode (part "u" 6 ++ "," ++ part "g" 3 ++ "," ++ part "o" 0 ++ "\n"))).done 0
      | value :: _ =>
          if !value.isEmpty && value.all fun b => 0x30 ≤ b && b ≤ 0x37 then
            let mask := value.foldl (fun n d => n * 8 + (d.toNat - 0x30)) 0
            ({ sh with mask := mask % 0o1000 }).done 0
          else if !value.isEmpty && value.all isDigitByte then sh.stop (illegalNumber value)
          else sh.stop (encode "Illegal mode: " ++ value)

/-! ## Small commands -/

/-- `wait`: the status of a background command, or 0 for all of them. -/
def runWait (sh : Shell) (args : List Bytes) : Finished :=
  match args.getLast? with
  | none => sh.done 0
  | some target =>
      match readCount target with
      | .error message => sh.stop message
      | .ok pid =>
          match sh.jobs.find? (·.1 == pid) with
          | some (_, status) => sh.done status
          | none => sh.done 127

/-- `times`: the processor times of the shell and its children. -/
def runTimes (sh : Shell) : Finished :=
  (sh.write 1 (encode "0m0.000000s 0m0.000000s\n0m0.000000s 0m0.000000s\n")).done 0

/-- `alias`: define aliases, or show them. -/
def runAlias (sh : Shell) (args : List Bytes) : Finished :=
  let show1 := fun (name value : Bytes) => name ++ [0x3D] ++ singleQuote value ++ [0x0A]
  if args.isEmpty then
    let listed := sh.aliases.mergeSort fun a b => bytesLe a.1 b.1
    (sh.write 1 (listed.map fun (name, value) => show1 name value).flatten).done 0
  else
    args.foldl (fun ((sh, _) : Finished) arg =>
      let name := arg.takeWhile (· != 0x3D)
      if name.length < arg.length then
        let value := arg.drop (name.length + 1)
        ({ sh with aliases := (name, value) :: sh.aliases.filter (·.1 != name) }.done sh.status)
      else
        match sh.aliases.find? (·.1 == name) with
        | some (_, value) => (sh.write 1 (show1 name value)).done sh.status
        | none => (sh.complain (name ++ encode " not found")).done 1) ({ sh with status := 0 }, none)

/-- `unalias`: remove aliases, or all of them with `-a`. -/
def runUnalias (sh : Shell) (args : List Bytes) : Finished :=
  match readOptions "a" args with
  | .error message => sh.stop message
  | .ok (options, names) =>
      if !options.isEmpty then ({ sh with aliases := [] }).done 0
      else
        names.foldl (fun ((sh, _) : Finished) name =>
          if sh.aliases.any (·.1 == name) then
            ({ sh with aliases := sh.aliases.filter (·.1 != name) }).done sh.status
          else (sh.complain (name ++ encode ": not found")).done 1) ({ sh with status := 0 }, none)

end BackupRotation.Process
