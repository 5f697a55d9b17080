import BackupRotation.Tools.Transfer.Complaints
import BackupRotation.Tools.Transfer.Modes
/-!
# Options of the synchronizer

The synchronizer reads its arguments in order. `--name=value` and
`--name value` give a long option its value; a cluster `-abc` sets several
short options, and a short option that takes a value takes the rest of the
cluster, or the next argument when the cluster ends with it. Options may
stand anywhere among the operands; `--` ends them, and `-` alone is an
operand. Names must be written in full.

Every option of the program is known here, with whether it takes a value
and whether that value is a number. Options that only tune output,
networking or metadata this model does not keep are accepted and change
nothing. An unknown option, a missing or unwanted value, a number that does
not read, or a value an option refuses, is a usage error.

Rules from `--exclude`, `--include`, `--filter` and the rule files are read
as they come, each file as it is named; an empty value adds no rule. `-C`
adds, after every other rule wherever it stands, the per-directory
`.cvsignore` files and then the default ignore list. The first `-F` adds a
per-directory rule for `.rsync-filter` files, read in the directories above
the transfer as well; the second excludes those files.
-/

namespace BackupRotation.Tools

open Files Text

/-- What happens to a source operand that does not exist. -/
inductive MissingSource where
  | report
  | ignore
  | delete
deriving DecidableEq, Repr

/-- What the options of a transfer ask for. -/
structure TransferOptions where
  recursive : Bool := false
  /-- Send directories met, without their contents unless asked. -/
  dirs : Bool := false
  keepLinks : Bool := false
  keepModes : Bool := false
  executability : Bool := false
  copyLinks : Bool := false
  copyUnsafeLinks : Bool := false
  safeLinks : Bool := false
  copyDirLinks : Bool := false
  mungeLinks : Bool := false
  relative : Bool := false
  /-- `--relative` or `--no-relative` was given. -/
  relativeGiven : Bool := false
  /-- `--dirs` or `--no-dirs` was given. -/
  dirsGiven : Bool := false
  /-- Recursion comes from `-a` alone, which a list of names turns off. -/
  recursionImplied : Bool := false
  /-- A file naming the paths to send, relative to the one source. -/
  filesFrom : Option Bytes := none
  /-- Names in that file end with a zero byte rather than a line end. -/
  zeroEnded : Bool := false
  impliedDirs : Bool := true
  delete : Bool := false
  deleteExcluded : Bool := false
  force : Bool := false
  maxDelete : Option Int := none
  dryRun : Bool := false
  listOnly : Bool := false
  existingOnly : Bool := false
  ignoreExisting : Bool := false
  update : Bool := false
  sizeOnly : Bool := false
  /-- Modification times are kept, so they count in telling files apart. -/
  keepTimes : Bool := false
  /-- Files are told apart by their contents. -/
  checksum : Bool := false
  /-- A shorter file at the destination is completed from the sent one
  rather than replaced, and a longer one is left alone. -/
  append : Bool := false
  /-- With `append`, a completed file that differs from the sent one is
  sent again whole. -/
  appendVerify : Bool := false
  /-- A link at the destination to a directory stands for that directory. -/
  keepDirLinks : Bool := false
  /-- Files of the same size and time are not taken as unchanged. -/
  ignoreTimes : Bool := false
  removeSources : Bool := false
  pruneEmpty : Bool := false
  makePath : Bool := false
  maxSize : Option Nat := none
  minSize : Option Nat := none
  modeChanges : List ModeChange := []
  /-- Directories holding files the destination may take instead of
  receiving them, as `basisOption` says. -/
  basisDirs : List Bytes := []
  /-- Which option named the basis directories, if any; all must agree. -/
  basisOption : Option String := none
  /-- How many basis directories were named. -/
  basisCount : Nat := 0
  /-- Directories are sent the old way: recursively, one level deep. -/
  oldDirs : Bool := false
  /-- How many times `-F` was given. -/
  filterFiles : Nat := 0
  backup : Bool := false
  backupDir : Option Bytes := none
  suffix : Option Bytes := none
  cvsExclude : Bool := false
  missing : MissingSource := .report
  rules : List RuleSlot := []
  /-- How many times `-v` was given. -/
  verbose : Nat := 0
  /-- Informational messages are not written. -/
  quiet : Bool := false
  /-- The levels of output words set by `--info`, later ones winning. -/
  infoLevels : List (String × Nat) := []
  /-- Which of the times to delete `--delete-before`, `--delete-during` (or
  `--delete-delay`) and `--delete-after` asked for. -/
  deleteBefore : Bool := false
  deleteDuring : Bool := false
  deleteAfter : Bool := false
  /-- Deletions found during the transfer are carried out at its end. -/
  deleteDelay : Bool := false
  /-- The format of the lines about items, when `--out-format` gave one. -/
  outFormat : Option Bytes := none
  /-- How many times `-i` was given. -/
  itemizeCount : Nat := 0
  /-- `--whole-file` was given. -/
  wholeFile : Bool := false
  /-- The directory for temporary files, checked at the destination. -/
  tempDir : Option Bytes := none
  /-- The user and group mappings, checked at the destination. -/
  userMap : Option Bytes := none
  groupMap : Option Bytes := none
  /-- The mappings came from `--chown`. -/
  userMapByChown : Bool := false
  groupMapByChown : Bool := false
  /-- The choices of checksum and compression, checked once all options are read. -/
  checksumChoice : Option Bytes := none
  compressChoice : Option Bytes := none
  /-- The buffering asked for standard output. -/
  outputBuffering : Option Bytes := none
  /-- The memory limit asked for. -/
  memoryLimit : Option Bytes := none
  /-- The help text of output words was asked for: reading stops there,
  and this is what it writes. -/
  helpText : Option Bytes := none
  /-- Stop without a transfer: the version or the help text was asked for. -/
  stopEarly : Bool := false
  operands : List Bytes := []
deriving Repr

/-- What an option takes. -/
inductive Takes where
  | nothing
  | text
  | number
deriving DecidableEq, Repr

/-- Long options that take text. -/
def textOptions : List String :=
  ["info", "debug", "stderr", "chmod", "max-size", "min-size", "max-alloc", "filter", "exclude",
    "include", "exclude-from", "include-from", "checksum-choice", "cc", "block-size",
    "compare-dest", "copy-dest", "link-dest", "compress-choice", "zc", "skip-compress",
    "partial-dir", "log-file", "log-file-format", "out-format", "log-format", "bwlimit",
    "backup-dir", "suffix", "read-batch", "write-batch", "only-write-batch", "files-from",
    "usermap", "groupmap", "chown", "stop-after", "time-limit", "stop-at", "rsh",
    "rsync-path", "temp-dir", "iconv", "copy-as", "address", "sockopts", "password-file",
    "early-input", "outbuf", "remote-option", "config", "dparam"]

/-- Long options that take a number. -/
def numberOptions : List String :=
  ["modify-window", "max-delete", "compress-level", "zl", "timeout", "contimeout", "port",
    "protocol", "checksum-seed"]

/-- Long options that take nothing. -/
def plainOptions : List String :=
  ["help", "version", "verbose", "no-verbose", "no-v", "msgs2stderr", "no-msgs2stderr", "quiet",
    "motd", "no-motd", "stats", "human-readable", "no-human-readable", "no-h", "dry-run",
    "archive", "recursive", "no-recursive", "no-r", "inc-recursive", "no-inc-recursive", "i-r",
    "no-i-r", "dirs", "no-dirs", "no-d", "old-dirs", "old-d", "perms", "no-perms", "no-p",
    "executability", "acls", "no-acls", "no-A", "xattrs", "no-xattrs", "no-X", "times",
    "no-times", "no-t", "atimes", "no-atimes", "no-U", "open-noatime", "no-open-noatime",
    "crtimes", "no-crtimes", "no-N", "omit-dir-times", "no-omit-dir-times", "no-O",
    "omit-link-times", "no-omit-link-times", "no-J", "super", "no-super", "fake-super", "owner",
    "no-owner", "no-o", "group", "no-group", "no-g", "no-D", "devices", "no-devices",
    "copy-devices", "write-devices", "no-write-devices", "specials", "no-specials", "links",
    "no-links", "no-l", "copy-links", "copy-unsafe-links", "safe-links", "munge-links",
    "no-munge-links", "copy-dirlinks", "keep-dirlinks", "hard-links", "no-hard-links", "no-H",
    "relative", "no-relative", "no-R", "implied-dirs", "no-implied-dirs", "i-d", "no-i-d",
    "ignore-times", "size-only", "one-file-system", "no-one-file-system", "no-x", "update",
    "existing", "ignore-non-existing", "ignore-existing", "sparse", "no-sparse", "no-S",
    "preallocate", "inplace", "no-inplace", "append", "append-verify", "no-append", "del",
    "delete", "delete-before", "delete-during", "delete-delay", "delete-after",
    "delete-excluded", "delete-missing-args", "ignore-missing-args", "remove-sent-files",
    "remove-source-files", "force", "no-force", "ignore-errors", "no-ignore-errors",
    "cvs-exclude", "whole-file", "no-whole-file", "no-W", "checksum", "no-checksum", "no-c",
    "fuzzy", "no-fuzzy", "no-y", "compress", "old-compress", "new-compress", "no-compress",
    "no-z", "progress", "no-progress", "partial", "no-partial", "delay-updates",
    "no-delay-updates", "prune-empty-dirs", "no-prune-empty-dirs", "no-m", "itemize-changes",
    "no-itemize-changes", "no-i", "no-bwlimit", "backup", "no-backup", "list-only", "from0",
    "no-from0", "old-args", "no-old-args", "protect-args", "no-protect-args", "no-s",
    "trust-sender", "numeric-ids", "no-numeric-ids", "no-timeout", "no-contimeout", "fsync",
    "no-iconv", "ipv4", "ipv6", "8-bit-output", "no-8-bit-output", "no-8", "mkpath",
    "no-mkpath", "qsort", "blocking-io", "no-blocking-io", "server", "sender", "daemon",
    "detach", "no-detach"]

/-- The long name each short option stands for; `D`, `F` and `P` have no
long name of their own. -/
def shortOptions : List (Char × String) :=
  [('V', "version"), ('v', "verbose"), ('q', "quiet"), ('h', "human-readable"),
    ('n', "dry-run"), ('a', "archive"), ('r', "recursive"), ('d', "dirs"), ('p', "perms"),
    ('E', "executability"), ('A', "acls"), ('X', "xattrs"), ('t', "times"), ('U', "atimes"),
    ('N', "crtimes"), ('O', "omit-dir-times"), ('J', "omit-link-times"),
    ('@', "modify-window"), ('o', "owner"), ('g', "group"), ('D', "D"), ('l', "links"),
    ('L', "copy-links"), ('k', "copy-dirlinks"), ('K', "keep-dirlinks"), ('H', "hard-links"),
    ('R', "relative"), ('I', "ignore-times"), ('x', "one-file-system"), ('u', "update"),
    ('S', "sparse"), ('F', "F"), ('f', "filter"), ('C', "cvs-exclude"), ('W', "whole-file"),
    ('c', "checksum"), ('B', "block-size"), ('y', "fuzzy"), ('z', "compress"), ('P', "P"),
    ('m', "prune-empty-dirs"), ('i', "itemize-changes"), ('b', "backup"), ('0', "from0"),
    ('s', "protect-args"), ('e', "rsh"), ('T', "temp-dir"), ('4', "ipv4"), ('6', "ipv6"),
    ('8', "8-bit-output"), ('M', "remote-option")]

/-- What a long option takes, or none for an unknown name. -/
def takesOf (name : String) : Option Takes :=
  if textOptions.contains name then some .text
  else if numberOptions.contains name then some .number
  else if plainOptions.contains name || name == "D" || name == "F" || name == "P" then some .nothing
  else none

/-- Whether a slot reads files with the same last name as `file`: a
second per-directory rule for such a name is left out. -/
def RuleSlot.readsFile (slot : RuleSlot) (file : Bytes) : Bool :=
  match slot with
  | .rule _ => false
  | .perDirectory name _ _ _ => lastName name == lastName file

/-- Add the rules of a piece of text read in the given spelling, reading
merge files from the file system; the depth bounds merge files naming
merge files. -/
def addRuleText (fs : FileSystem) : Nat → RuleSyntax → RuleFlags → Bool → List RuleSlot → Bytes →
    Except Refusal (List RuleSlot)
  | 0, _, _, _, rules, _ => .ok rules
  | depth + 1, spelling, inherited, wordSplit, rules, text => do
      let actions ←
        if wordSplit then
          match readSplitRules spelling inherited text with
          | .ok actions => pure actions
          | .error problem => throw problem.refusal
        else if text.isEmpty then pure []
        else
          match readRule spelling inherited text with
          | .ok actions => pure actions
          | .error problem => throw problem.refusal
      actions.foldlM (fun rules action =>
        match action with
        | .add rule => pure (rules ++ [.rule rule])
        | .clear => pure []
        | .cvs flags => pure (rules ++ (cvsRules flags).map .rule)
        | .perDirectory file flags =>
            if rules.any (·.readsFile file) then pure rules
            else pure (rules ++ [.perDirectory file flags true []])
        | .merge file flags => do
            let content ← match fs.readPermitted ⟨file⟩ with
              | .ok content => pure content
              | .error .isADirectory => pure []
              | .error error => throw (ruleFileRefusal flags.admits file error)
            let inner : RuleSyntax := if flags.noPrefixes then .bare flags.admits else .full
            let inherited : RuleFlags :=
              { admits := flags.admits, senderOnly := flags.senderOnly,
                receiverOnly := flags.receiverOnly, cvs := flags.cvs, perishable := flags.perishable }
            let pieces := if flags.wordSplit then [content] else ruleLines content
            pieces.foldlM (fun rules piece =>
              addRuleText fs depth inner inherited flags.wordSplit rules piece) rules) rules

/-- How deep merge files may name further merge files. -/
def mergeDepth : Nat := 16

/-- Add the rules of a rule file named by `--exclude-from` or
`--include-from`. -/
def addRuleFile (fs : FileSystem) (admits : Bool) (rules : List RuleSlot) (file : Bytes) :
    Except Refusal (List RuleSlot) := do
  let content ← match fs.readPermitted ⟨file⟩ with
    | .ok content => pure content
    | .error .isADirectory => pure []
    | .error error =>
        if file == encode "-" then pure []
        else throw (ruleFileRefusal admits file error)
  (ruleLines content).foldlM (fun rules line =>
    addRuleText fs mergeDepth (.prefixed admits) { admits := admits } false rules line) rules

/-- Turn off what `--no-NAME` or its short form turns off. -/
def TransferOptions.negate (options : TransferOptions) (name : String) : TransferOptions :=
  if name == "no-recursive" || name == "no-r" then { options with recursive := false, recursionImplied := false }
  else if name == "no-dirs" || name == "no-d" then { options with dirs := false, oldDirs := false, dirsGiven := true }
  else if name == "no-from0" then { options with zeroEnded := false }
  else if name == "no-perms" || name == "no-p" then { options with keepModes := false }
  else if name == "no-links" || name == "no-l" then { options with keepLinks := false }
  else if name == "no-relative" || name == "no-R" then { options with relative := false, relativeGiven := true }
  else if name == "no-implied-dirs" || name == "no-i-d" then { options with impliedDirs := false }
  else if name == "no-force" then { options with force := false }
  else if name == "no-prune-empty-dirs" || name == "no-m" then { options with pruneEmpty := false }
  else if name == "no-backup" then { options with backup := false }
  else if name == "no-munge-links" then { options with mungeLinks := false }
  else if name == "no-mkpath" then { options with makePath := false }
  else if name == "no-times" || name == "no-t" then { options with keepTimes := false }
  else if name == "no-checksum" || name == "no-c" then { options with checksum := false }
  else if name == "no-append" then { options with append := false, appendVerify := false }
  else if name == "no-keep-dirlinks" || name == "no-K" then { options with keepDirLinks := false }
  else if name == "no-verbose" || name == "no-v" then { options with verbose := 0 }
  else if name == "no-whole-file" || name == "no-W" then { options with wholeFile := false }
  else if name == "no-itemize-changes" || name == "no-i" then { options with itemizeCount := 0 }
  else options

/-- Whether a `--stop-after` value gives a time limit: its leading number
of minutes, read as `atol` does, must come to a positive number of seconds
that still fits beside the present time. -/
def minutesValid (text : String) : Bool :=
  let chars := text.toList.dropWhile isCSpaceChar
  let (negative, body) := match chars with
    | '-' :: rest => (true, rest)
    | '+' :: rest => (false, rest)
    | _ => (false, chars)
  let digits := body.takeWhile Char.isDigit
  let magnitude : Int := digits.foldl (fun acc c => acc * 10 + (c.toNat - '0'.toNat : Nat)) 0
  let limit : Int := 9223372036854775807
  let number := if negative then max (-magnitude) (-limit - 1) else min magnitude limit
  let seconds := wrapSigned64 (number * 60)
  seconds > 0 && seconds ≤ limit - 1700000000

/-- Apply one option, given by its long name, with its value when it takes
one. -/
def TransferOptions.apply (fs : FileSystem) (options : TransferOptions) (name : String)
    (value : Bytes) : Except Refusal TransferOptions :=
  let text := lossy value
  if name == "archive" then
    pure { options with recursive := true, keepLinks := true, keepModes := true, keepTimes := true,
                        recursionImplied := options.recursionImplied || !options.recursive }
  else if name == "recursive" then pure { options with recursive := true, recursionImplied := false }
  else if name == "dirs" then pure { options with dirs := true, oldDirs := false, dirsGiven := true }
  else if name == "old-dirs" || name == "old-d" then
    pure { options with dirs := true, oldDirs := true, dirsGiven := true }
  else if name == "files-from" then pure { options with filesFrom := some value }
  else if name == "from0" then pure { options with zeroEnded := true }
  else if name == "perms" || name == "acls" then pure { options with keepModes := true }
  else if name == "executability" then pure { options with executability := true }
  else if name == "links" then pure { options with keepLinks := true }
  else if name == "copy-links" then pure { options with copyLinks := true }
  else if name == "copy-unsafe-links" then pure { options with copyUnsafeLinks := true }
  else if name == "safe-links" then pure { options with safeLinks := true }
  else if name == "copy-dirlinks" then pure { options with copyDirLinks := true }
  else if name == "munge-links" then pure { options with mungeLinks := true }
  else if name == "relative" then pure { options with relative := true, relativeGiven := true }
  else if name == "implied-dirs" || name == "i-d" then pure { options with impliedDirs := true }
  else if name == "dry-run" then pure { options with dryRun := true }
  else if name == "list-only" then pure { options with listOnly := true }
  else if name == "existing" || name == "ignore-non-existing" then pure { options with existingOnly := true }
  else if name == "ignore-existing" then pure { options with ignoreExisting := true }
  else if name == "update" then pure { options with update := true }
  else if name == "size-only" then pure { options with sizeOnly := true }
  else if name == "times" then pure { options with keepTimes := true }
  else if name == "checksum" then pure { options with checksum := true }
  else if name == "append" then pure { options with append := true, appendVerify := false }
  else if name == "append-verify" then pure { options with append := true, appendVerify := true }
  else if name == "keep-dirlinks" then pure { options with keepDirLinks := true }
  else if name == "ignore-times" then pure { options with ignoreTimes := true }
  else if name == "remove-source-files" || name == "remove-sent-files" then
    pure { options with removeSources := true }
  else if name == "prune-empty-dirs" then pure { options with pruneEmpty := true }
  else if name == "mkpath" then pure { options with makePath := true }
  else if name == "force" then pure { options with force := true }
  else if name == "delete" then pure { options with delete := true }
  else if name == "delete-before" then pure { options with delete := true, deleteBefore := true }
  else if name == "del" || name == "delete-during" then
    pure { options with delete := true, deleteDuring := true }
  else if name == "delete-delay" then
    pure { options with delete := true, deleteDuring := true, deleteDelay := true }
  else if name == "out-format" || name == "log-format" then pure { options with outFormat := some value }
  else if name == "itemize-changes" then pure { options with itemizeCount := options.itemizeCount + 1 }
  else if name == "delete-after" then pure { options with delete := true, deleteAfter := true }
  else if name == "verbose" then pure { options with verbose := options.verbose + 1 }
  else if name == "quiet" then pure { options with quiet := true }
  else if name == "whole-file" then pure { options with wholeFile := true }
  else if name == "info" || name == "debug" then
    match readOutputWords name (if name == "info" then infoWords else debugWords) text with
    | .ok (set, help) =>
        let options := if name == "info" then { options with infoLevels := options.infoLevels ++ set } else options
        if help then
          pure { options with helpText := some (if options.quiet then [] else encode (outputWordsHelp (name == "info"))) }
        else pure options
    | .error refusal => throw refusal
  else if name == "stderr" then
    let fits := fun (word : String) => !text.isEmpty && text.isPrefixOf word
    if fits "errors" || fits "all" || fits "client" then pure options
    else throw (usageRefusal ("--stderr mode \"" ++ text ++ "\" is not one of errors, all, or client"))
  else if name == "stop-after" || name == "time-limit" then
    if minutesValid text then pure options
    else throw (usageRefusal ("invalid --stop-after value: " ++ text))
  else if name == "temp-dir" then pure { options with tempDir := some value }
  else if name == "usermap" then
    if options.userMap.isSome then
      throw (usageRefusal (if options.userMapByChown then "--usermap conflicts with prior --chown."
        else "You can only specify --usermap once."))
    else pure { options with userMap := some value, userMapByChown := false }
  else if name == "groupmap" then
    if options.groupMap.isSome then
      throw (usageRefusal (if options.groupMapByChown then "--groupmap conflicts with prior --chown."
        else "You can only specify --groupmap once."))
    else pure { options with groupMap := some value, groupMapByChown := false }
  else if name == "chown" then do
    let user := value.takeWhile (· != 0x3A)
    let group := (value.drop (user.length + 1))
    let options ←
      if user.isEmpty then pure options
      else if options.userMap.isSome then
        throw (usageRefusal (if options.userMapByChown then "You can only specify a user-affecting --chown once."
          else "--chown conflicts with prior --usermap."))
      else pure { options with userMap := some (encode "*:" ++ user), userMapByChown := true }
    if group.isEmpty then pure options
    else if options.groupMap.isSome then
      throw (usageRefusal (if options.groupMapByChown then "You can only specify a group-affecting --chown once."
        else "--chown conflicts with prior --groupmap."))
    else pure { options with groupMap := some (encode "*:" ++ group), groupMapByChown := true }
  else if name == "checksum-choice" || name == "cc" then pure { options with checksumChoice := some value }
  else if name == "compress-choice" || name == "zc" then pure { options with compressChoice := some value }
  else if name == "old-compress" then pure { options with compressChoice := some (encode "zlib") }
  else if name == "new-compress" then pure { options with compressChoice := some (encode "zlibx") }
  else if name == "no-compress" || name == "no-z" then pure { options with compressChoice := none }
  else if name == "max-alloc" then pure { options with memoryLimit := some value }
  else if name == "delete-excluded" then pure { options with delete := true, deleteExcluded := true }
  else if name == "delete-missing-args" then pure { options with missing := .delete }
  else if name == "ignore-missing-args" then
    pure { options with missing := if options.missing == .delete then .delete else .ignore }
  else if name == "max-delete" then
    pure { options with maxDelete := (readOptionNumber text).toOption }
  else if name == "backup" then pure { options with backup := true }
  else if name == "backup-dir" then pure { options with backup := true, backupDir := some value }
  else if name == "suffix" then pure { options with suffix := some value }
  else if name == "cvs-exclude" then pure { options with cvsExclude := true }
  else if name == "version" || name == "help" then pure { options with stopEarly := true }
  else if name == "chmod" then
    match readModeChanges {} text.toList with
    | some changes => pure { options with modeChanges := options.modeChanges ++ changes }
    | none => throw (usageRefusal ("Invalid argument passed to --chmod (" ++ text ++ ")"))
  else if name == "max-size" || name == "min-size" then
    match readSize value with
    | some size =>
        if size < 0 then throw (usageRefusal ("--" ++ name ++ "=" ++ text ++ " is too large"))
        else if name == "max-size" then pure { options with maxSize := some size.toNat }
        else pure { options with minSize := some size.toNat }
    | none => throw (usageRefusal ("--" ++ name ++ "=" ++ text ++ " is invalid"))
  else if name == "compare-dest" || name == "copy-dest" || name == "link-dest" then
    if options.basisOption.any (· != name) then
      throw (usageRefusal ("ERROR: the --" ++ name ++ " option conflicts with the --" ++
        options.basisOption.getD name ++ " option"))
    else if options.basisCount ≥ 20 then
      throw (usageRefusal ("ERROR: at most 20 --" ++ name ++ " args may be specified"))
    else
      pure { options with basisOption := some name, basisCount := options.basisCount + 1,
                          basisDirs := options.basisDirs ++ [value] }
  else if name == "exclude" then
    return { options with rules := ← addRuleText fs mergeDepth (.prefixed false) {} false options.rules value }
  else if name == "include" then
    return { options with rules := ← addRuleText fs mergeDepth (.prefixed true) { admits := true } false options.rules value }
  else if name == "filter" then
    return { options with rules := ← addRuleText fs mergeDepth .full {} false options.rules value }
  else if name == "exclude-from" then
    return { options with rules := ← addRuleFile fs false options.rules value }
  else if name == "include-from" then
    return { options with rules := ← addRuleFile fs true options.rules value }
  else if name == "F" then
    let options := { options with filterFiles := options.filterFiles + 1 }
    if options.filterFiles == 1 then do
      let rules ← addRuleText fs mergeDepth .full {} false options.rules (encode "dir-merge /.rsync-filter")
      return { options with rules := rules }
    else if options.filterFiles == 2 then do
      let rules ← addRuleText fs mergeDepth .full {} false options.rules (encode "- .rsync-filter")
      return { options with rules := rules }
    else pure options
  else if ["server", "sender"].contains name then
    throw (usageRefusal ("--" ++ name ++ ": not available for a local transfer"))
  else if name == "outbuf" then pure { options with outputBuffering := some value }
  else pure (options.negate name)

/-- Apply an option with its value, checking first that a number reads;
`shown` is the argument the option reader names when it does not. -/
def TransferOptions.applyChecked (fs : FileSystem) (options : TransferOptions) (name : String)
    (takes : Takes) (value shown : Bytes) : Except Refusal TransferOptions :=
  match takes, readOptionNumber (lossy value) with
  | .number, .error problem => throw (usageRefusal (lossy shown ++ ": " ++ problem))
  | _, _ => options.apply fs name value

/-- What reading the arguments came to: options to run with, an end
without a transfer and without error, or an end once a help text is
written. -/
inductive Reading where
  | options (options : TransferOptions)
  | quietEnd
  | stopped (text : Bytes)
deriving Repr

/-- Read a cluster of short options held in the argument `whole`; gives
the options and the arguments left once a value has been taken from them,
or the long name of an option that sends the reader into daemon mode. An
equals sign right after a letter is skipped, so `-e=ssh` gives `-e` the
value `ssh`. -/
def readCluster (fs : FileSystem) (options : TransferOptions) (whole : Bytes) :
    Nat → Bytes → List Bytes → Except Refusal (TransferOptions × List Bytes)
  | 0, _, rest => .ok (options, rest)
  | _ + 1, [], rest => .ok (options, rest)
  | fuel + 1, letter :: after, rest =>
      let more := match after with
        | 0x3D :: value => value
        | _ => after
      match shortOptions.lookup (Char.ofNat letter.toNat) with
      | none => throw (usageRefusal (lossy whole ++ ": unknown option"))
      | some name =>
          match takesOf name with
          | some .nothing => do
              let options ← options.apply fs name []
              readCluster fs options whole fuel more rest
          | some takes =>
              if !more.isEmpty then do
                pure (← options.applyChecked fs name takes more whole, rest)
              else
                match rest with
                | value :: left => do pure (← options.applyChecked fs name takes value value, left)
                | [] => throw (usageRefusal (lossy whole ++ ": missing argument"))
          | none => throw (usageRefusal (lossy whole ++ ": unknown option"))

/-- Read the arguments in order; the fuel is one more than their number,
since every round consumes at least one. An option of daemon mode makes
the reader start over on `all` the arguments in daemon mode. -/
def readArguments (fs : FileSystem) (all : List Bytes) :
    Nat → TransferOptions → List Bytes → Except Refusal Reading
  | 0, options, _ => .ok (.options options)
  | _ + 1, options, [] => .ok (.options options)
  | fuel + 1, options, arg :: rest =>
      let next := fun (options : TransferOptions) (rest : List Bytes) =>
        match options.helpText with
        | some text => .ok (.stopped text)
        | none => readArguments fs all fuel options rest
      let daemonMode : Except Refusal Reading :=
        (readDaemonArguments (all.length + 1) {} all).map fun _ => .quietEnd
      match arg with
      | 0x2D :: 0x2D :: [] => .ok (.options { options with operands := options.operands ++ rest })
      | 0x2D :: 0x2D :: body => do
          let (name, value) := match body.findIdx? (· == 0x3D) with
            | some index => (lossy (body.take index), some (body.drop (index + 1)))
            | none => (lossy body, none)
          match takesOf name with
          | none => throw (usageRefusal (lossy arg ++ ": unknown option"))
          | some .nothing =>
              if value.isSome then throw (usageRefusal (lossy arg ++ ": option does not take an argument"))
              else if startsDaemonMode name then daemonMode
              else next (← options.apply fs name []) rest
          | some takes =>
              match value, rest with
              | some given, _ =>
                  if startsDaemonMode name then daemonMode
                  else next (← options.applyChecked fs name takes given arg) rest
              | none, given :: after =>
                  if startsDaemonMode name then daemonMode
                  else next (← options.applyChecked fs name takes given given) after
              | none, [] => throw (usageRefusal (lossy arg ++ ": missing argument"))
      | 0x2D :: cluster@(_ :: _) => do
          let (options, rest) ← readCluster fs options arg (cluster.length + 1) cluster rest
          next options rest
      | _ => readArguments fs all fuel { options with operands := options.operands ++ [arg] } rest

/-- The checksum names the program knows. -/
def checksumNames : List String := ["xxh128", "xxh3", "xxh64", "xxhash", "md5", "md4", "sha1", "none"]

/-- The compression names the program knows. -/
def compressNames : List String := ["zstd", "lz4", "zlibx", "zlib", "none"]

/-- Whether a name is one of `names`, or `auto` when `auto` counts, without
regard to case. -/
def knownName (names : List String) (name : String) : Bool :=
  (names.map String.toLower).contains name.toLower

/-- Check a checksum choice: one name, or two separated by a comma, each
known or `auto`. An unknown first name is reported with all that follows
it. -/
def checkChecksumChoice (choice : String) : Except Refusal Unit :=
  let refuse := fun (text : String) =>
    throw { status := 4, message := "unknown checksum name: " ++ text ++ "\n", place := "checksum.c(139)" }
  let fits := fun (name : String) => name.toLower == "auto" || knownName checksumNames name
  match choice.splitOn "," with
  | [] => pure ()
  | [one] => if fits one then pure () else refuse one
  | first :: more =>
      let second := String.intercalate "," more
      if !fits first then refuse choice
      else if fits second then pure () else refuse second

/-- The digits of a size shown the way limits are shown: in units of 1024
with two decimals from 1024 up. -/
def showLimit (value : Nat) : String :=
  if value < 1024 then toString value
  else
    let units := ["K", "M", "G", "T", "P", "E"]
    let step := (List.range 6).find? (fun i => value < Nat.pow 1024 (i + 2)) |>.getD 5
    let scale := Nat.pow 1024 (step + 1)
    let hundredths := (value * 100 + scale / 2) / scale
    toString (hundredths / 100) ++ "." ++ (if hundredths % 100 < 10 then "0" else "") ++
      toString (hundredths % 100) ++ units.getD step "E"

/-- Check a size option: its value reads, and lies within the bounds;
`unit` is the unit a bare number counts in. -/
def checkSizeOption (name : String) (unit : UInt8) (least : Nat) (most : Option Nat) (value : Bytes) :
    Except Refusal Nat :=
  let text := lossy value
  match readSizeIn unit value with
  | none => throw (usageRefusal ("--" ++ name ++ "=" ++ text ++ " is invalid"))
  | some size =>
      if size < 0 then
        match most with
        | some top => throw (usageRefusal ("--" ++ name ++ "=" ++ text ++ " is too large (max: " ++ showLimit top ++ ")"))
        | none => throw (usageRefusal ("--" ++ name ++ "=" ++ text ++ " is too large"))
      else if most.any (size.toNat > ·) then
        throw (usageRefusal ("--" ++ name ++ "=" ++ text ++ " is too large (max: " ++ showLimit (most.getD 0) ++ ")"))
      else if size.toNat < least then
        throw (usageRefusal ("--" ++ name ++ "=" ++ text ++ " is too small (min: " ++ showLimit least ++ ")"))
      else pure size.toNat

/-- The rules and checks that come after all arguments are read, in the
order the program makes them: the memory limit, the checksum and
compression choices and the output buffering are checked; a list of names
to send implies `--relative` and `--dirs` and takes away the recursion of
`-a`; the old way of sending directories excludes what lies two levels
down; the deletion options must agree; the backup suffix must do; backups
are protected from deletion; the default ignore list goes last; and the
file of names to send must open. -/
def TransferOptions.finish (fs : FileSystem) (options : TransferOptions) : Except Refusal TransferOptions := do
  if let some limit := options.memoryLimit then
    let _ ← checkSizeOption "max-alloc" 0x42 (1024 * 1024) none limit
  if let some choice := options.checksumChoice then
    let text := lossy choice
    if text.toLower != "auto" && text.toLower != "auto,auto" then checkChecksumChoice text
  if let some choice := options.compressChoice then
    let text := lossy choice
    if text.toLower != "auto" && !knownName compressNames text then
      throw { status := 4, message := "unknown compress name: " ++ text ++ "\n", place := "compat.c(189)" }
  if let some mode := options.outputBuffering then
    if !(mode.head?.any fun c => "NnUuLlBbFf".toList.contains (Char.ofNat c.toNat)) then
      throw (usageRefusal "Invalid --outbuf setting -- specify N, L, or B.")
  let options :=
    if options.filesFrom.isSome then
      { options with
        relative := if options.relativeGiven then options.relative else true,
        dirs := if options.dirsGiven then options.dirs else true,
        recursive := options.recursive && !options.recursionImplied }
    else options
  let options :=
    if options.oldDirs then
      { options with recursive := true,
                     rules := options.rules ++ [.rule (FilterRule.make {} (encode "/*/*"))] }
    else options
  let listing := options.listOnly || options.operands.length < 2
  if [options.deleteBefore, options.deleteDuring, options.deleteAfter].count true > 1 then
    throw (usageRefusal "You may not combine multiple --delete-WHEN options.")
  if options.delete && !options.recursive && !options.dirs && (options.dirsGiven || !listing) then
    throw (usageRefusal "--delete does not work without --recursive (-r) or --dirs (-d).")
  let suffix := options.suffix.getD (if options.backupDir.isSome then [] else encode "~")
  if suffix.contains slash then
    throw (usageRefusal ("--suffix cannot contain slashes: " ++ lossy suffix))
  let backupDir := options.backupDir.map fun dir =>
    let dir := (List.range dir.length).foldl (fun (dir : Bytes) _ =>
      match dir with
      | 0x2E :: 0x2F :: rest => rest
      | _ => dir) dir
    if dir == [0x2E] then [] else dir
  let sameDir := backupDir == some []
  let options := { options with backupDir := if sameDir then none else backupDir }
  if options.backupDir.isNone && suffix.isEmpty then
    throw (usageRefusal ("--suffix cannot be empty " ++
      (if sameDir then "when --backup-dir is the same as the dest dir" else "without a --backup-dir")))
  let options := { options with suffix := some suffix }
  let options :=
    if options.backup && options.backupDir.isNone && options.delete && !options.deleteExcluded then
      { options with rules := options.rules ++
          [.rule (FilterRule.make { receiverOnly := true } (starByte :: suffix))] }
    else options
  let options :=
    if options.cvsExclude then
      let perDirectory : RuleFlags :=
        { merge := true, perDirectory := true, noPrefixes := true, wordSplit := true, cvs := true,
          noInherit := true }
      let rules := if options.rules.any (·.readsFile (encode ".cvsignore")) then options.rules
        else options.rules ++ [.perDirectory (encode ".cvsignore") perDirectory true []]
      { options with rules := rules ++ (cvsRules {}).map .rule }
    else options
  if options.append && options.wholeFile then
    throw (usageRefusal "--append cannot be used with --whole-file")
  if let some file := options.filesFrom then
    if file != encode "-" then
      match fs.readPermitted ⟨file⟩ with
      | .error .isADirectory => pure ()
      | .error error =>
          throw (usageRefusal ("failed to open files-from file " ++ lossy file ++ ": " ++ error.describe))
      | .ok _ => pure ()
  pure options

/-- Read all the arguments of a transfer. -/
def readTransferOptions (fs : FileSystem) (args : List Bytes) : Except Refusal Reading := do
  match ← readArguments fs args (args.length + 1) {} args with
  | .quietEnd => pure .quietEnd
  | .stopped text => pure (.stopped text)
  | .options options => pure (.options (← options.finish fs))

end BackupRotation.Tools
