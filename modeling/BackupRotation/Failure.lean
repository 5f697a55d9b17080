import BackupRotation.Text.Quote
import BackupRotation.Text.Decimal
/-!
# Failures

Every way an operation can fail is one constructor of `Failure`, and every
failure has three readings: the message shown to the user (`render`), a
coarse `Category` that groups failures by what went wrong, and the
`origin`, the failure under all context labels.

Two constructors wrap another failure. `context` prefixes a label such as
`invalid config file`; it is transparent for the category, the origin and the
purge count. `config` ties a failure to a line of a settings file; it takes
its category from the cause, except that a file-system cause counts as a
validation problem of the settings.
-/

namespace BackupRotation

open Text

/-- Operating-system error conditions the file operations report. -/
inductive OsError where
  | notFound
  | notADirectory
  | isADirectory
  | alreadyExists
  | notEmpty
  | nameTooLong
  | tooManyLinks
  | permissionDenied
  | execFormat
  | invalidArgument
deriving DecidableEq, Repr

namespace OsError

/-- The error number of the condition. -/
def code : OsError → Nat
  | .notFound => 2
  | .notADirectory => 20
  | .isADirectory => 21
  | .alreadyExists => 17
  | .notEmpty => 39
  | .nameTooLong => 36
  | .tooManyLinks => 40
  | .permissionDenied => 13
  | .execFormat => 8
  | .invalidArgument => 22

/-- The system's description of the condition. -/
def describe : OsError → String
  | .notFound => "No such file or directory"
  | .notADirectory => "Not a directory"
  | .isADirectory => "Is a directory"
  | .alreadyExists => "File exists"
  | .notEmpty => "Directory not empty"
  | .nameTooLong => "File name too long"
  | .tooManyLinks => "Too many levels of symbolic links"
  | .permissionDenied => "Permission denied"
  | .execFormat => "Exec format error"
  | .invalidArgument => "Invalid argument"

/-- Description followed by the error number. -/
def render (error : OsError) : String :=
  error.describe ++ " (os error " ++ toString error.code ++ ")"

end OsError

/-- A failed input or output operation. -/
inductive IoError where
  /-- The operating system refused. -/
  | os (error : OsError)
  /-- Text was read that is not UTF-8. -/
  | invalidUtf8
  /-- An empty path was to be made absolute. -/
  | emptyPath
deriving DecidableEq, Repr

/-- Message of an input or output failure. -/
def IoError.render : IoError → String
  | .os error => error.render
  | .invalidUtf8 => "stream did not contain valid UTF-8"
  | .emptyPath => "cannot make an empty path absolute"

/-- How a child process ended. -/
inductive ExitStatus where
  /-- It exited with this code. -/
  | exited (code : Int)
  /-- A signal ended it. -/
  | signaled (signal : Nat)
deriving DecidableEq, Repr

/-- Names of the usual signals. -/
def signalName (signal : Nat) : String :=
  match signal with
  | 1 => "SIGHUP" | 2 => "SIGINT" | 3 => "SIGQUIT" | 4 => "SIGILL" | 5 => "SIGTRAP"
  | 6 => "SIGABRT" | 7 => "SIGBUS" | 8 => "SIGFPE" | 9 => "SIGKILL" | 10 => "SIGUSR1"
  | 11 => "SIGSEGV" | 12 => "SIGUSR2" | 13 => "SIGPIPE" | 14 => "SIGALRM" | 15 => "SIGTERM"
  | 16 => "SIGSTKFLT" | 17 => "SIGCHLD" | 18 => "SIGCONT" | 19 => "SIGSTOP" | 20 => "SIGTSTP"
  | 21 => "SIGTTIN" | 22 => "SIGTTOU" | 23 => "SIGURG" | 24 => "SIGXCPU" | 25 => "SIGXFSZ"
  | 26 => "SIGVTALRM" | 27 => "SIGPROF" | 28 => "SIGWINCH" | 29 => "SIGIO" | 30 => "SIGPWR"
  | 31 => "SIGSYS"
  | _ => ""

namespace ExitStatus

/-- Whether the process succeeded. -/
def success : ExitStatus → Bool
  | .exited code => code == 0
  | .signaled _ => false

/-- `exit status: N`, or `signal: N (NAME)`. -/
def render : ExitStatus → String
  | .exited code => "exit status: " ++ toString code
  | .signaled signal =>
      let name := signalName signal
      "signal: " ++ toString signal ++ (if name.isEmpty then "" else " (" ++ name ++ ")")

end ExitStatus

/-- What went wrong, coarsely. -/
inductive Category where
  | validation
  | state
  | unparsableName
  | execution
  | externalProcess
  | io
deriving DecidableEq, Repr

/-- Name of a category. -/
def Category.name : Category → String
  | .validation => "Validation"
  | .state => "State"
  | .unparsableName => "UnparsableName"
  | .execution => "Execution"
  | .externalProcess => "ExternalProcess"
  | .io => "Io"

/-- Every failure of the program. Paths are byte strings. -/
inductive Failure where
  | io (error : IoError)
  | pathConversion (path : Bytes)
  | directoryNotFound (path : Bytes)
  | notADirectory (path : Bytes)
  | targetNotEmpty (path : Bytes)
  | invalidLatest (path : Bytes)
  | snapshotExists (path : Bytes)
  | noBackups (path : Bytes)
  | onlyLatest (path : Bytes)
  | splitNotFound (path : Bytes)
  | invalidRestorePath (subpath base : String)
  | outputExists (path : Bytes)
  | invalidSnapshotName (path : Bytes)
  | invalidPermission (value reason : String)
  | invalidRetention (key value reason : String)
  | duplicateKey (key : String)
  | duplicateOption (key value : String)
  | unknownKey (key : String)
  | missingValue (key : String)
  | invalidSyntax
  | missingSettings (keys : List String)
  | noTarget
  | invalidCount (raw : String)
  | config (line : Nat) (text : String) (cause : Failure)
  | purgeFailed (purged : Nat) (path : Bytes) (cause : Failure)
  | commandFailed (command : String) (status : ExitStatus)
  | commandIo (command : String) (error : IoError)
  | unexpectedOutput (command output : String)
  | internal (message : String)
  | context (label : String) (cause : Failure)
  /-- The run stopped on a violated internal bound; no label wraps it and no
  caller recovers from it. -/
  | panic (message : String)
deriving Repr

namespace Failure

/-- Name of the constructor, as answers report it. -/
def variant : Failure → String
  | .io _ => "Io"
  | .pathConversion _ => "PathConversion"
  | .directoryNotFound _ => "DirectoryNotFound"
  | .notADirectory _ => "NotADirectory"
  | .targetNotEmpty _ => "TargetNotEmpty"
  | .invalidLatest _ => "InvalidLatest"
  | .snapshotExists _ => "SnapshotExists"
  | .noBackups _ => "NoBackups"
  | .onlyLatest _ => "OnlyLatest"
  | .splitNotFound _ => "SplitNotFound"
  | .invalidRestorePath _ _ => "InvalidRestorePath"
  | .outputExists _ => "OutputExists"
  | .invalidSnapshotName _ => "InvalidSnapshotName"
  | .invalidPermission _ _ => "InvalidPermission"
  | .invalidRetention _ _ _ => "InvalidRetention"
  | .duplicateKey _ => "DuplicateKey"
  | .duplicateOption _ _ => "DuplicateOption"
  | .unknownKey _ => "UnknownKey"
  | .missingValue _ => "MissingValue"
  | .invalidSyntax => "InvalidSyntax"
  | .missingSettings _ => "MissingSettings"
  | .noTarget => "NoTarget"
  | .invalidCount _ => "InvalidCount"
  | .config _ _ _ => "Config"
  | .purgeFailed _ _ _ => "PurgeFailed"
  | .commandFailed _ _ => "CommandFailed"
  | .commandIo _ _ => "CommandIo"
  | .unexpectedOutput _ _ => "UnexpectedOutput"
  | .internal _ => "Internal"
  | .context _ _ => "Context"
  | .panic _ => "Panic"

/-- The message shown to the user. -/
def render : Failure → String
  | .io error => "IO error: " ++ error.render
  | .pathConversion path => "Path conversion error: " ++ quoteBytes path
  | .directoryNotFound path => "Invalid directory: " ++ quoteBytes path
  | .notADirectory path => "Not a directory: " ++ quoteBytes path
  | .targetNotEmpty path => "Target has no 'latest' link and is not empty: " ++ quoteBytes path
  | .invalidLatest path => "Invalid latest symlink: " ++ quoteBytes path
  | .snapshotExists path => "Snapshot already exists: " ++ quoteBytes path
  | .noBackups path => "No backups found in " ++ quoteBytes path
  | .onlyLatest path => "Only latest backup exists in " ++ quoteBytes path
  | .splitNotFound path => "No snapshot directory found in path: " ++ quoteBytes path
  | .invalidRestorePath subpath base =>
      "Invalid restore path: '" ++ subpath ++ "' must start with '" ++ base ++ "'"
  | .outputExists path => "Output file already exists: " ++ quoteBytes path
  | .invalidSnapshotName path => "Invalid snapshot name: " ++ quoteBytes path
  | .invalidPermission value reason => "Invalid permission '" ++ value ++ "': " ++ reason
  | .invalidRetention key value reason =>
      "Invalid " ++ key ++ " retention '" ++ value ++ "': " ++ reason
  | .duplicateKey key => "Duplicate key: '" ++ key ++ "'"
  | .duplicateOption key value => "Duplicate " ++ key ++ ": '" ++ value ++ "'"
  | .unknownKey key => "Unknown key: '" ++ key ++ "'"
  | .missingValue key => "Missing value for key: '" ++ key ++ "'"
  | .invalidSyntax => "Invalid key:value pair"
  | .missingSettings keys => "Missing settings: " ++ ", ".intercalate keys
  | .noTarget => "No target configured or overridden"
  | .invalidCount raw => "Invalid number to prune: '" ++ raw ++ "'"
  | .config line text cause =>
      "line(" ++ toString line ++ "): " ++ cause.render ++ "\n\t" ++ text
  | .purgeFailed purged path cause =>
      "Purge failed after " ++ toString purged ++ " deletions at " ++ quoteBytes path ++ ": " ++
        cause.render
  | .commandFailed command status => "Command failed (" ++ status.render ++ "): '" ++ command ++ "'"
  | .commandIo command error => "Could not run '" ++ command ++ "': " ++ error.render
  | .unexpectedOutput command output =>
      "Unexpected output from '" ++ command ++ "': " ++ quoteText output
  | .internal message => "Internal error: " ++ message
  | .context label cause => label ++ ": " ++ cause.render
  | .panic message => message

/-- The category of a failure; context labels are transparent, and a
settings line that failed on the file system counts as a validation
problem. -/
def category : Failure → Category
  | .context _ cause => cause.category
  | .config _ _ cause =>
      match cause.category with
      | .io => .validation
      | other => other
  | .invalidPermission _ _ | .invalidRetention _ _ _ | .duplicateKey _ | .duplicateOption _ _
  | .unknownKey _ | .missingValue _ | .invalidSyntax | .missingSettings _ | .noTarget
  | .invalidCount _ => .validation
  | .directoryNotFound _ | .notADirectory _ | .targetNotEmpty _ | .invalidLatest _
  | .snapshotExists _ | .noBackups _ | .onlyLatest _ | .splitNotFound _
  | .invalidRestorePath _ _ | .outputExists _ => .state
  | .invalidSnapshotName _ => .unparsableName
  | .purgeFailed _ _ _ => .execution
  | .commandFailed _ _ | .commandIo _ _ | .unexpectedOutput _ _ => .externalProcess
  | .io _ | .pathConversion _ | .internal _ | .panic _ => .io

/-- The failure under all context labels. -/
def origin : Failure → Failure
  | .context _ cause => cause.origin
  | failure => failure

/-- How many snapshots were deleted before a purge failed, seen through
context labels. -/
def purgedCount : Failure → Option Nat
  | .purgeFailed purged _ _ => some purged
  | .context _ cause => cause.purgedCount
  | _ => none

end Failure

/-- Results of operations that may fail. -/
abbrev Outcome (α : Type) := Except Failure α

/-- Label the failure of an outcome. -/
def Outcome.label {α : Type} (label : String) (outcome : Outcome α) : Outcome α :=
  match outcome with
  | .ok value => .ok value
  | .error failure => .error (.context label failure)

end BackupRotation
