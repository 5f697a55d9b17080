import BackupRotation.Failure
/-!
# What a program leaves

A program that ran to its end leaves how it ended and the bytes it wrote on
its standard output and standard error streams.
-/

namespace BackupRotation.Process

open Text

/-- What a finished program left. -/
structure Output where
  status : ExitStatus
  stdout : Bytes := []
  stderr : Bytes := []
deriving Repr

end BackupRotation.Process
