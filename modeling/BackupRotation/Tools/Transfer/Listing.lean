import BackupRotation.Tools.Transfer.Local
/-!
# The list of what is sent

The sending side turns each source operand into entries: a path from the
transfer root and the node to send there.

* A source named with a trailing slash, or whose last component is `.` or
  `..`, sends its contents: the directory itself becomes the transfer root.
  Any other source arrives under its own last name.
* A directory is sent only in a recursive transfer or with `--dirs`; its
  entries are listed in a recursive transfer, and with `--dirs` only for a
  source that sends its contents, one level deep.
* Links stay links, unless `--copy-links` (or `--copy-unsafe-links` for a
  link that leaves the transfer) sends what they point to; a link that
  points nowhere is then an error. `--copy-dirlinks` follows links to
  directories only.
* The sending side's filter rules leave entries out; an excluded directory
  is not entered. Entering a directory to list its entries reads its
  per-directory rule files.
* `--chmod` changes the mode of every file and directory sent.
* With `--relative` the path of the source is kept: its part after `/./`,
  or all of it, with the directories above the source sent as well.

The walk below a directory goes one level per round and is bounded by fuel,
which only a loop of followed links can exhaust.
-/

namespace BackupRotation.Tools

open Files Text

/-- Names joined by slashes. -/
def joinNames (names : List Bytes) : Bytes := (names.intersperse [slash]).flatten

/-- One entry of the list of what is sent. -/
structure Entry where
  /-- The path from the transfer root; empty for the root itself. -/
  names : List Bytes
  /-- Where the entry was read. -/
  source : Key
  /-- What is sent: links followed as asked, modes changed as asked. -/
  node : Node
  /-- A directory whose entries were all listed, so deletion applies in it. -/
  complete : Bool
  /-- The path it was listed at, when the destination gave it another
  name. -/
  listedAs : Option (List Bytes) := none
deriving Repr

/-- The path an entry was listed at. -/
def Entry.listedNames (entry : Entry) : List Bytes := entry.listedAs.getD entry.names

/-- What the sending side produced. -/
structure Listing where
  entries : List Entry := []
  /-- Notes for standard output. -/
  notes : Bytes := []
  /-- Errors for standard error. -/
  errors : Bytes := []
  /-- Some source could not be read. -/
  failed : Bool := false
  /-- The transfer stops at once with this status. -/
  aborted : Option Nat := none
  /-- Names at the destination to delete for sources that do not exist. -/
  vanished : List Bytes := []
deriving Repr

/-- The segments of a path before its last slash, runs of slashes counting
as one, and the segment after it. -/
def pathSegments (path : Bytes) : List Bytes × Bytes :=
  let parts := splitSlashes path
  (parts.dropLast.filter (!·.isEmpty), parts.getLastD [])

/-- Whether a link with this target, at this path from the transfer root,
may lead outside the transfer: an absolute or empty target, or one whose
`..` components climb above the root. -/
def isUnsafeLink (target path : Bytes) : Bool :=
  if target.isEmpty || target.head? == some slash then true
  else
    let (dirs, last) := pathSegments path
    let margin : Int := dirs.foldl (fun depth part =>
      if part == [dot] then depth else if part == [dot, dot] then 0 else depth + 1) 0
    let margin := if last == [dot, dot] then 0 else margin
    let (steps, final) := pathSegments target
    let walked : Option Int := steps.foldl (fun reached part => reached.bind fun depth =>
      if part == [dot] then some depth
      else if part == [dot, dot] then (if depth - 1 < 0 then none else some (depth - 1))
      else some (depth + 1)) (some margin)
    match walked with
    | none => true
    | some depth => (if final == [dot, dot] then depth - 1 else depth) < 0

/-- The node a link leads to, and its place, if it leads anywhere. -/
def followLink (fs : FileSystem) (key : Key) : Option (Key × Node) :=
  match fs.resolve key.path true with
  | .ok (.found place node) => some (place, node)
  | _ => none

/-- What is sent for a node at a path: itself, or what its link leads to
when the options follow it; none for a followed link that leads nowhere. -/
def sentNode (fs : FileSystem) (options : TransferOptions) (path : Bytes) (key : Key) (node : Node) :
    Option (Key × Node) :=
  match node with
  | .link target =>
      if options.copyLinks || (options.copyUnsafeLinks && isUnsafeLink target path) then followLink fs key
      else if options.copyDirLinks then
        match followLink fs key with
        | some (place, .directory mode) => some (place, .directory mode)
        | _ => some (key, node)
      else some (key, node)
  | _ => some (key, node)

/-- A node with its mode changed by `--chmod`; links keep theirs. -/
def changeMode (options : TransferOptions) : Node → Node
  | .directory mode => .directory (applyModeChanges options.modeChanges true mode)
  | .file mode content => .file (applyModeChanges options.modeChanges false mode) content
  | .link target => .link target

/-- A line naming a path in quotes. -/
def quotedLine (before : String) (path : Bytes) (after : String) : Bytes :=
  encode before ++ [0x22] ++ path ++ [0x22] ++ encode after ++ [0x0A]

/-- Add one entry, read at `key`, at a path from the transfer root; `root`
is the directory the transfer root lies in. Directories of a recursive
transfer are walked further. -/
def listEntry (fs : FileSystem) (options : TransferOptions) (root : Bytes) :
    Nat → Listing → List Bytes → Key → Node → Listing
  | 0, listing, _, _, _ => listing
  | fuel + 1, listing, names, key, node =>
      let path := joinNames names
      match sentNode fs options path key node with
      | none =>
          if sendsNot options.rules root path false || sendsNot options.rules root path true then listing
          else
            { listing with
              errors := listing.errors ++ quotedLine "symlink has no referent: " path "",
              failed := true }
      | some (place, sent) =>
          if sendsNot options.rules root path sent.isDirectory then listing
          else
            let deep := sent.isDirectory && options.recursive
            let entry : Entry :=
              { names := names, source := key, node := changeMode options sent, complete := deep }
            let listing := { listing with entries := listing.entries ++ [entry] }
            if deep then
              let inside := { options with rules := enterDirectory fs key options.rules }
              (fs.children place).foldl (fun listing (name, child) =>
                listEntry fs inside root fuel listing (names ++ [name]) (place ++ [name]) child) listing
            else listing

/-- The entries inside a directory sent as the transfer root, one level
deep unless the transfer is recursive. -/
def listContents (fs : FileSystem) (options : TransferOptions) (root : Bytes) (fuel : Nat)
    (listing : Listing) (names : List Bytes) (place : Key) : Listing :=
  let inside := { options with rules := enterDirectory fs place options.rules }
  (fs.children place).foldl (fun listing (name, child) =>
    listEntry fs inside root fuel listing (names ++ [name]) (place ++ [name]) child) listing

/-- How deep a walk may go: deeper than any tree without link loops. -/
def walkFuel (fs : FileSystem) : Nat := fs.entries.length + 2

/-- Report a source that does not exist, as the options ask. -/
def Listing.missingSource (listing : Listing) (options : TransferOptions) (source : Bytes)
    (error : OsError) : Listing :=
  if error == .notFound && options.missing == .ignore then listing
  else if error == .notFound && options.missing == .delete then
    { listing with vanished := listing.vanished ++ [(splitSlashes source).getLastD []] }
  else
    { listing with
      errors := listing.errors ++ quotedLine "rsync: [sender] link_stat " source
        (" failed: " ++ error.describe ++ " (" ++ toString error.code ++ ")"),
      failed := true }

/-- A directory source whose contents are sent, at a path from the
transfer root. -/
def listDirectorySource (fs : FileSystem) (options : TransferOptions) (listing : Listing)
    (names : List Bytes) (place : Key) (mode : Nat) : Listing :=
  let root := joinNames place
  if !options.recursive && !options.dirs then
    { listing with notes := listing.notes ++ encode "skipping directory ." ++ [0x0A] }
  else
    let entry : Entry :=
      { names := names, source := place, node := changeMode options (.directory mode), complete := true }
    listContents fs options root (walkFuel fs) { listing with entries := listing.entries ++ [entry] }
      names place

/-- A source sent under its own name, given as the path names leading to
it from the transfer root. -/
def listNamedSource (fs : FileSystem) (options : TransferOptions) (listing : Listing)
    (source : Bytes) (names : List Bytes) (trailing : Bool) : Listing :=
  let looked := fs.resolve ⟨source⟩ (options.copyLinks || trailing)
  match looked with
  | .ok (.found key node) =>
      let root := joinNames key.dropLast
      if node.isDirectory && !options.recursive && !options.dirs then
        { listing with notes := listing.notes ++ encode "skipping directory " ++ joinNames names ++ [0x0A] }
      else listEntry fs options root (walkFuel fs) listing names key node
  | .ok (.free _ _) => listing.missingSource options source .notFound
  | .error error => listing.missingSource options source error

/-- The path names a source keeps with `--relative`: its part after `/./`
when it has one, else all of it, without `.` components; and the text its
implied directories are found under. -/
def relativeNames (source : Bytes) : Bytes × List Bytes :=
  let marker : Bytes := [slash, dot, slash]
  let cut := (List.range source.length).find? fun start => marker.isPrefixOf (source.drop start)
  let (base, active) := match cut with
    | some start => (source.take (start + 1), source.drop (start + 3))
    | none => (if source.head? == some slash then [slash] else [], source)
  (base, (splitSlashes active).filter fun part => !part.isEmpty && part != [dot])

/-- Add what one source operand sends. -/
def listSource (fs : FileSystem) (options : TransferOptions) (listing : Listing) (source : Bytes) :
    Listing :=
  if listing.aborted.isSome then listing
  else
    let last := (splitSlashes source).getLastD []
    let trailing := source.getLast? == some slash
    if options.relative then
      let (base, names) := relativeNames source
      if names.contains [dot, dot] then
        { listing with
          errors := listing.errors ++ encode "found \"..\" dir in relative path: " ++ source ++ [0x0A],
          aborted := some 1 }
      else if names.isEmpty then
        match fs.resolve ⟨source⟩ true with
        | .ok (.found key (.directory mode)) => listDirectorySource fs options listing [] key mode
        | .ok (.found _ _) => listing.missingSource options source .notADirectory
        | .ok (.free _ _) => listing.missingSource options source .notFound
        | .error error => listing.missingSource options source error
      else
        let implied := if options.impliedDirs then (List.range (names.length - 1)).map fun count =>
          names.take (count + 1) else []
        let listing := implied.foldl (fun listing prefixNames =>
          match fs.resolve ⟨base ++ joinNames prefixNames⟩ true with
          | .ok (.found key (.directory mode)) =>
              { listing with entries := listing.entries ++
                  [{ names := prefixNames, source := key, node := .directory mode, complete := false }] }
          | _ => listing) listing
        listNamedSource fs options listing source names trailing
    else if last.isEmpty || last == [dot] || last == [dot, dot] then
      match fs.resolve ⟨source⟩ true with
      | .ok (.found key (.directory mode)) => listDirectorySource fs options listing [] key mode
      | .ok (.found _ _) => listing.missingSource options source .notADirectory
      | .ok (.free _ _) => listing.missingSource options source .notFound
      | .error error => listing.missingSource options source error
    else listNamedSource fs options listing source [last] trailing

end BackupRotation.Tools
