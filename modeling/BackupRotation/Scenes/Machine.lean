import BackupRotation.World
/-!
# The machine a scene starts on

Every scene starts on the same machine: a root file system with the usual
top-level directories, the two helper programs, shells and `env` installed
in `/usr/bin`, and an empty scratch directory named `root` that is also the
working directory. Paths given to a scene are relative to it.
-/

namespace BackupRotation.Scenes

open Files Calendar Report Text

/-- The scratch directory's place. -/
def scratchKey : Key := [encode "tmp", encode "scratch", encode "root"]

/-- The scratch directory's absolute name. -/
def scratchRoot : PathName := Key.path scratchKey

/-- The directory holding the scratch directory. -/
def scratchParent : PathName := Key.path scratchKey.dropLast

/-- Directories every machine has, with their modes. -/
def standardDirectories : List (String × Nat) :=
  [("tmp", 0o1777), ("tmp/scratch", 0o700), ("tmp/scratch/root", 0o700), ("usr", 0o755),
   ("usr/bin", 0o755), ("usr/sbin", 0o755), ("usr/local", 0o755), ("usr/local/bin", 0o755),
   ("usr/local/sbin", 0o755), ("home", 0o755), ("srv", 0o755), ("mnt", 0o755),
   ("etc", 0o755), ("root", 0o700), ("opt", 0o755), ("var", 0o755)]

/-- Installed programs: their place and what they are. -/
def installedTools : List (Key × Tool) :=
  [([encode "usr", encode "bin", encode "rsync"], .transfer),
   ([encode "usr", encode "bin", encode "du"], .usage),
   ([encode "usr", encode "bin", encode "sh"], .shell),
   ([encode "usr", encode "bin", encode "dash"], .shell),
   ([encode "usr", encode "bin", encode "bash"], .shell),
   ([encode "usr", encode "bin", encode "env"], .environment)]

/-- The search path a run gets when none is given. -/
def defaultSearchPath : List PathName :=
  ["/usr/local/sbin", "/usr/local/bin", "/usr/sbin", "/usr/bin", "/sbin", "/bin"].map
    PathName.ofString

/-- The file system of a fresh machine. -/
def initialFiles : FileSystem :=
  let directories := standardDirectories.map fun (path, mode) =>
    ((splitSlashes (encode path)), Node.directory mode)
  let programs := installedTools.map fun (key, _) => (key, Node.file 0o755 [])
  let links := [([encode "bin"], Node.link (encode "usr/bin")),
    ([encode "sbin"], Node.link (encode "usr/sbin"))]
  { entries := ([], .directory 0o755) :: directories ++ programs ++ links, cwd := scratchKey }

/-- A fresh machine in a time zone, with its wall clock. -/
def initialWorld (zone : Zone) (clock : Instant) : World :=
  { files := initialFiles, searchPath := defaultSearchPath, tools := installedTools,
    zone := zone, clock := clock, console := Console.empty .normal }

end BackupRotation.Scenes
