import BackupRotation.Files.Tree
/-!
# Calls on the file tree

Each call takes a file system and a path name and either answers, or
returns the changed file system, or fails with the error number the kernel
gives in that situation. The calls are the ones the program makes: status
with and without following a final link, directory creation one level or
all the way down, reading and writing whole files, listing, linking,
unlinking, renaming, changing modes, recursive removal and resolution to a
canonical name.

Two choices decide most error numbers. A call that creates something acts
on a free name, so it fails with `EEXIST` on a found one; a call that reads
or removes acts on a found entry, so it fails with `ENOENT` on a free one.
Among found entries a directory where a file is expected gives `EISDIR`,
and the reverse gives `ENOTDIR`.
-/

namespace BackupRotation.Files

open Text

/-- The outcome of a call that changes the tree. -/
abbrev Change := Except OsError FileSystem

namespace FileSystem

/-- The node a path leads to, following a final link. -/
def metadata (fs : FileSystem) (path : PathName) : Except OsError Node := do
  match ← fs.resolve path true with
  | .found _ node => pure node
  | .free _ _ => throw .notFound

/-- The node a path names, a final link itself. -/
def linkMetadata (fs : FileSystem) (path : PathName) : Except OsError Node := do
  match ← fs.resolve path false with
  | .found _ node => pure node
  | .free _ _ => throw .notFound

/-- Whether a path leads to a directory. -/
def isDirectory (fs : FileSystem) (path : PathName) : Bool :=
  match fs.metadata path with
  | .ok node => node.isDirectory
  | .error _ => false

/-- Create one directory with `mode`, less the set-user and set-group bits
and the umask. -/
def mkdir (fs : FileSystem) (path : PathName) (mode : Nat) : Change := do
  match ← fs.resolve path false with
  | .found _ _ => throw .alreadyExists
  | .free dir name => pure (fs.put (dir ++ [name]) (.directory (maskedDirectory mode)))

/-- Create a directory and any missing parents, each with `mode`. A
directory that already exists is no failure. The parents are found by
cutting names off the path text, so `..` components are created as written
would be resolved. -/
def createDirAllWithin (mode : Nat) : Nat → FileSystem → PathName → Change
  | 0, _, _ => .error .notFound
  | fuel + 1, fs, path =>
      if path.bytes.isEmpty then .ok fs
      else
        match fs.mkdir path mode with
        | .ok next => .ok next
        | .error .notFound =>
            match path.parent with
            | none => .error .notFound
            | some up =>
                match createDirAllWithin mode fuel fs up with
                | .error e => .error e
                | .ok grown =>
                    match grown.mkdir path mode with
                    | .ok next => .ok next
                    | .error e => if grown.isDirectory path then .ok grown else .error e
        | .error e => if fs.isDirectory path then .ok fs else .error e

/-- Create a directory and any missing parents, each with `mode`. -/
def createDirAll (fs : FileSystem) (path : PathName) (mode : Nat) : Change :=
  createDirAllWithin mode (path.bytes.length + 1) fs path

/-- The entries of a directory, sorted by name. -/
def readDir (fs : FileSystem) (path : PathName) : Except OsError (List (Bytes × Node)) := do
  match ← fs.resolve path true with
  | .found key (.directory _) => pure (fs.children key)
  | .found _ _ => throw .notADirectory
  | .free _ _ => throw .notFound

/-- The target of a symbolic link. -/
def readLink (fs : FileSystem) (path : PathName) : Except OsError Bytes := do
  match ← fs.linkMetadata path with
  | .link target => pure target
  | _ => throw .invalidArgument

/-- Create a symbolic link at `path` holding `target` as written. -/
def symlink (fs : FileSystem) (target : Bytes) (path : PathName) : Change := do
  match ← fs.resolve path false with
  | .found _ _ => throw .alreadyExists
  | .free dir name => pure (fs.put (dir ++ [name]) (.link target))

/-- Remove a file or link; a directory is refused. -/
def unlink (fs : FileSystem) (path : PathName) : Change := do
  match ← fs.resolve path false with
  | .found _ (.directory _) => throw .isADirectory
  | .found key _ => pure (fs.eraseWithin key)
  | .free _ _ => throw .notFound

/-- Remove a directory with everything in it. A link is removed itself and
never entered; anything else that is not a directory is refused. -/
def removeDirAll (fs : FileSystem) (path : PathName) : Change := do
  match ← fs.resolve path false with
  | .found key (.link _) => pure (fs.eraseWithin key)
  | .found key (.directory _) => pure (fs.eraseWithin key)
  | .found _ _ => throw .notADirectory
  | .free _ _ => throw .notFound

/-- Give the entry a path leads to a new mode; only the twelve permission
bits are kept. -/
def chmod (fs : FileSystem) (path : PathName) (mode : Nat) : Change := do
  match ← fs.resolve path true with
  | .found key (.directory _) => pure (fs.put key (.directory (mode % 0o10000)))
  | .found key (.file _ content) => pure (fs.put key (.file (mode % 0o10000) content))
  | .found _ (.link _) => throw .notFound
  | .free _ _ => throw .notFound

/-- Replace the content of a file, creating it with mode `0o666` less the
umask when it does not exist. -/
def writeFile (fs : FileSystem) (path : PathName) (content : Bytes) : Change := do
  match ← fs.resolve path true with
  | .found key (.file mode _) => pure (fs.put key (.file mode content))
  | .found _ (.directory _) => throw .isADirectory
  | .found _ (.link _) => throw .notFound
  | .free dir name =>
      if path.bytes.getLast? == some slash then throw .isADirectory
      else pure (fs.put (dir ++ [name]) (.file (masked 0o666) content))

/-- The content of a file. -/
def readFile (fs : FileSystem) (path : PathName) : Except OsError Bytes := do
  match ← fs.metadata path with
  | .file _ content => pure content
  | .directory _ => throw .isADirectory
  | .link _ => throw .notFound

/-- The content of a file opened for reading: as `readFile`, but a file
whose owner may not read it cannot be opened. -/
def readPermitted (fs : FileSystem) (path : PathName) : Except OsError Bytes := do
  match ← fs.metadata path with
  | .file mode content => if mode &&& 0o400 == 0 then throw .permissionDenied else pure content
  | .directory _ => throw .isADirectory
  | .link _ => throw .notFound

/-- Move an entry, and everything below it, to a new name. A file may
replace a file or link; a directory may replace an empty directory. -/
def rename (fs : FileSystem) (source target : PathName) : Change := do
  let (fromKey, node) ← match ← fs.resolve source false with
    | .found key node => pure (key, node)
    | .free _ _ => throw .notFound
  let toKey ← match ← fs.resolve target false with
    | .free dir name => pure (dir ++ [name])
    | .found key (.directory _) =>
        if !node.isDirectory then throw .isADirectory
        else if !(fs.children key).isEmpty then throw .notEmpty
        else pure key
    | .found key _ =>
        if node.isDirectory then throw .notADirectory else pure key
  if fromKey == toKey then return fs
  let moved := (fs.entries.filter fun entry => fromKey.isPrefixOf entry.1).map fun entry =>
    (toKey ++ entry.1.drop fromKey.length, entry.2)
  let rest := (fs.eraseWithin toKey).eraseWithin fromKey
  pure { rest with entries := moved ++ rest.entries }

/-- The absolute name of what a path leads to, with no `.`, `..` or link in
it. -/
def canonicalize (fs : FileSystem) (path : PathName) : Except OsError PathName := do
  match ← fs.resolve path true with
  | .found key _ => pure key.path
  | .free _ _ => throw .notFound

/-- Give every directory strictly below a place a mode, links not entered. -/
def chmodDirectoriesBelow (fs : FileSystem) (top : Key) (mode : Nat) : FileSystem :=
  { fs with entries := fs.entries.map fun (key, node) =>
      if top.isPrefixOf key && key != top && node.isDirectory then (key, .directory mode)
      else (key, node) }

/-- The physical place of what a path leads to. -/
def locate (fs : FileSystem) (path : PathName) (follow : Bool) : Except OsError Key := do
  match ← fs.resolve path follow with
  | .found key _ => pure key
  | .free _ _ => throw .notFound

end FileSystem

end BackupRotation.Files
