import BackupRotation.Files.PathName
import BackupRotation.Failure
/-!
# An in-memory file tree

The program reads and changes a directory tree: it lists snapshot
directories, creates and removes them, follows the `latest` link, reads
configuration files. This module models that tree and the way a path name
is resolved against it, so that every later operation is a plain function
from one tree to the next.

A tree is a finite map from *keys* to *nodes*. A key is the list of names
leading from the root to an entry, with no `.`, `..` or link left in it: it
is the physical place of the entry. The root is the empty key.

Resolution walks a path name one component at a time from the root or from
the working directory. `.` stays, `..` climbs to the physical parent, and a
symbolic link met on the way is replaced by its target, at most forty
times. The walk ends either at an existing entry or at a free name inside an
existing directory, which is where a call that creates something acts. The
walk is bounded by fuel that no path can exhaust unless it loops through
links, so the failure for running out of fuel is the one for too many links.
-/

namespace BackupRotation.Files

open Text

/-- The longest name a directory entry may have. -/
def nameMax : Nat := 255

/-- The length at which a path name is refused as a whole. -/
def pathMax : Nat := 4096

/-- How many symbolic links one resolution may follow. -/
def linkMax : Nat := 40

/-- Permission bits removed from every file and directory created. -/
def umask : Nat := 0o022

/-- Permission bits a mode keeps once the umask is applied. -/
def masked (mode : Nat) : Nat := mode % 0o10000 - (mode % 0o10000 &&& umask)

/-- Permission bits a new directory keeps: the set-user and set-group bits
are never taken from the mode asked for, the sticky bit is, and the umask
applies. -/
def maskedDirectory (mode : Nat) : Nat := masked (mode &&& 0o1777)

/-- What one entry of the tree holds. -/
inductive Node where
  | directory (mode : Nat)
  | file (mode : Nat) (content : Bytes)
  | link (target : Bytes)
deriving DecidableEq, Repr, Inhabited

/-- Whether a node is a directory. -/
def Node.isDirectory : Node → Bool
  | .directory _ => true
  | _ => false

/-- Whether a node is a symbolic link. -/
def Node.isLink : Node → Bool
  | .link _ => true
  | _ => false

/-- The physical place of an entry: the names leading to it from the root. -/
abbrev Key := List Bytes

/-- Lexicographic order on byte strings. -/
def bytesLe : Bytes → Bytes → Bool
  | [], _ => true
  | _ :: _, [] => false
  | a :: as, b :: bs => a < b || (a == b && bytesLe as bs)

/-- Component-wise order on keys, the order of a sorted walk. -/
def keyLe : Key → Key → Bool
  | [], _ => true
  | _ :: _, [] => false
  | a :: as, b :: bs => if a == b then keyLe as bs else bytesLe a b

/-- The name of `key` inside directory `dir`, when it is a direct child. -/
def childName? (dir key : Key) : Option Bytes :=
  if dir.isPrefixOf key then
    match key.drop dir.length with
    | [name] => some name
    | _ => none
  else none

/-- The absolute path name of a key. -/
def Key.path (key : Key) : PathName :=
  ⟨slash :: (key.intersperse [slash]).flatten⟩

/-- A file tree together with the working directory relative names start
from. -/
structure FileSystem where
  entries : List (Key × Node)
  cwd : Key
deriving Repr, Inhabited

namespace FileSystem

/-- The node at a key. -/
def find? (fs : FileSystem) (key : Key) : Option Node :=
  (fs.entries.find? (·.1 == key)).map (·.2)

/-- Set the node at a key. -/
def put (fs : FileSystem) (key : Key) (node : Node) : FileSystem :=
  { fs with entries := (key, node) :: fs.entries.filter (·.1 != key) }

/-- Insert into a list sorted by `le`, before the first entry not below the
new one. -/
def insertSorted {α : Type} (le : α → α → Bool) (x : α) : List α → List α
  | [] => [x]
  | y :: ys => if le x y then x :: y :: ys else y :: insertSorted le x ys

/-- Sort by `le`, keeping entries that compare equal in their order. -/
def sortBy {α : Type} (le : α → α → Bool) : List α → List α
  | [] => []
  | x :: xs => insertSorted le x (sortBy le xs)

/-- Remove the entry at a key and everything below it. -/
def eraseWithin (fs : FileSystem) (top : Key) : FileSystem :=
  { fs with entries := fs.entries.filter fun entry => !top.isPrefixOf entry.1 }

/-- The entries directly inside a directory, sorted by name. -/
def children (fs : FileSystem) (dir : Key) : List (Bytes × Node) :=
  let found := fs.entries.filterMap fun (key, node) =>
    (childName? dir key).map fun name => (name, node)
  sortBy (fun a b => bytesLe a.1 b.1) found

/-- Every entry strictly below a directory, in the order of a sorted walk. -/
def below (fs : FileSystem) (top : Key) : List (Key × Node) :=
  let found := fs.entries.filter fun entry => top.isPrefixOf entry.1 && entry.1 != top
  sortBy (fun a b => keyLe a.1 b.1) found

/-- The longest link target in the tree, which bounds how much one link
can add to a walk. -/
def longestLink (fs : FileSystem) : Nat :=
  fs.entries.foldl (fun acc entry =>
    match entry.2 with
    | .link target => max acc target.length
    | _ => acc) 0

end FileSystem

/-- One component of a path name as resolution sees it. -/
inductive Step where
  | stay
  | up
  | down (name : Bytes)
deriving DecidableEq, Repr

/-- The steps of a path name. -/
def steps (bytes : Bytes) : List Step :=
  (splitSlashes bytes).filterMap fun part =>
    if part.isEmpty then none
    else if part == [dot] then some .stay
    else if part == [dot, dot] then some .up
    else some (.down part)

/-- Where a path name leads. -/
inductive Place where
  /-- An existing entry. -/
  | found (key : Key) (node : Node)
  /-- A name that does not exist, inside the existing directory `dir`. -/
  | free (dir : Key) (name : Bytes)
deriving DecidableEq, Repr

/-- How a resolution treats the last component. -/
structure Lookup where
  /-- Follow a link in the last component. -/
  follow : Bool
  /-- The path ended with a slash, so its last component must be a directory. -/
  directoryOnly : Bool

/-- Walk the steps from directory `cur`, with `links` more links allowed. -/
def walk (fs : FileSystem) (lookup : Lookup) : Nat → Nat → Key → List Step → Except OsError Place
  | 0, _, _, _ => .error .tooManyLinks
  | _ + 1, _, cur, [] =>
      match fs.find? cur with
      | some node => .ok (.found cur node)
      | none => .error .notFound
  | fuel + 1, links, cur, .stay :: rest => walk fs lookup fuel links cur rest
  | fuel + 1, links, cur, .up :: rest => walk fs lookup fuel links cur.dropLast rest
  | fuel + 1, links, cur, .down name :: rest =>
      if name.length > nameMax then .error .nameTooLong
      else
        let key := cur ++ [name]
        let last := rest.isEmpty
        match fs.find? key with
        | none => if last then .ok (.free cur name) else .error .notFound
        | some (.link target) =>
            if last && !lookup.follow && !lookup.directoryOnly then .ok (.found key (.link target))
            else if links == 0 then .error .tooManyLinks
            else if target.isEmpty then .error .notFound
            else
              let start := if target.head? == some slash then [] else cur
              walk fs lookup fuel (links - 1) start (steps target ++ rest)
        | some (.directory mode) =>
            if last then .ok (.found key (.directory mode)) else walk fs lookup fuel links key rest
        | some (.file mode content) =>
            if last && !lookup.directoryOnly then .ok (.found key (.file mode content))
            else .error .notADirectory

/-- Resolve a path name. An empty name names nothing; an overlong one is
refused before any lookup. -/
def FileSystem.resolve (fs : FileSystem) (path : PathName) (follow : Bool) :
    Except OsError Place :=
  if path.bytes.isEmpty then .error .notFound
  else if path.bytes.length ≥ pathMax then .error .nameTooLong
  else
    let start := if path.isAbsolute then [] else fs.cwd
    let route := steps path.bytes
    let lookup : Lookup :=
      { follow := follow, directoryOnly := path.bytes.getLast? == some slash }
    let fuel := route.length + (linkMax + 1) * (fs.longestLink + 2) + 2
    walk fs lookup fuel linkMax start route

end BackupRotation.Files
