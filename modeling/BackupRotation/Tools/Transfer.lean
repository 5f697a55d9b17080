import BackupRotation.Tools.Transfer.Report
import BackupRotation.Process.Output
/-!
# The file-tree synchronizer

The installed `rsync`, for the local transfers the program asks of it. It
reads its options, lists what the sources send, settles the destination,
and then brings each listed entry into place.

The destination is an existing directory, or a directory it creates (its
parent must exist, unless `--mkpath` creates that too), or, when a single
non-directory is sent and the destination names no directory, the name the
file takes.

Each entry is placed in list order, parents first:

* a directory is created, or kept; without `--perms` a new directory takes
  the sent mode less the umask's bits and the special bits, an existing one
  keeps its own;
* a link is recreated when links are kept (`-l`), else skipped;
  `--safe-links` skips links that leave the transfer;
* a file is written unless a size limit, `--existing`, `--ignore-existing`
  or `--update` skips it; without `--perms` a new file takes the sent mode
  less those bits, a replaced one keeps the mode of what it replaces. The
  directories of `--link-dest`, `--copy-dest` or `--compare-dest` may
  supply the file instead: linked, copied, or found unneeded.

What stands in the way of an entry of another kind is removed: a directory
only when it is empty, or with `--delete` or `--force`; otherwise the entry
fails. With `--delete`, every directory whose entries were all listed loses
the entries the list lacks, except those the receiving side's filter rules
protect, per-directory rule files read from the destination;
`--max-delete` bounds how many are removed. With `--backup`, a file
replaced or deleted is first renamed with a suffix, or moved under the
backup directory.

Entries are handled in the synchronizer's sort order: path by path, and
inside one directory the non-directories before the directories. Deletions
inside a directory happen when it is reached, or in a pass of their own
before (`--delete-before`) or after (`--delete-after`, `--delete-delay`)
the transfer. Lines about items, deletions, skips and backups are written
as the output words in force ask (see Tools/Transfer/Report).

A dry run changes nothing. The exit status is 23 when some entry failed,
25 when deletions were held back by the limit, and 0 otherwise.
-/

namespace BackupRotation.Tools

open Files Process Text

/-- The state of the receiving side. -/
structure Receiving where
  files : FileSystem
  notes : Bytes := []
  errors : Bytes := []
  failed : Bool := false
  /-- How many entries were deleted. -/
  deletions : Nat := 0
  /-- Some deletion was held back by the limit. -/
  limited : Bool := false
  /-- Places whose whole subtree is skipped. -/
  skipped : List Key := []
  /-- Sources handled, to remove with `--remove-source-files`. -/
  handled : List Key := []

/-- Add text to standard output. -/
def Receiving.say (rx : Receiving) (text : Bytes) : Receiving :=
  { rx with notes := rx.notes ++ text }

/-- Add a line to standard output when the output word is on. -/
def Receiving.sayOn (rx : Receiving) (options : TransferOptions) (word : String) (line : Bytes) :
    Receiving :=
  if options.infoLevel word ≥ 1 then rx.say line else rx

/-- The path of a place as the receiving side names it: from the
destination, and `.` for the destination itself. -/
def destinationPath (destination key : Key) : Bytes :=
  match key.drop destination.length with
  | [] => [dot]
  | names => joinNames names

/-- The mode bits a new item may take without `--perms`: the sent ones
less the umask's bits and the special bits. -/
def defaultMode (mode : Nat) : Nat := mode &&& (0o777 - umask)

/-- The mode a file keeps without `--perms` when it replaces a file of mode
`current`: that mode, with `--executability` granting or removing execute
bits to follow the sent file. -/
def keptMode (options : TransferOptions) (sent current : Nat) : Nat :=
  let mode := current &&& permissionBits
  if !options.executability then mode
  else if sent &&& 0o111 == 0 then mode &&& (permissionBits - 0o111)
  else if current &&& 0o111 == 0 then mode ||| ((mode &&& 0o444) >>> 2)
  else mode

/-- Whether the deletion limit allows one more deletion. -/
def TransferOptions.mayDelete (options : TransferOptions) (done : Nat) : Bool :=
  match options.maxDelete with
  | some limit => limit < 0 || (done : Int) < limit
  | none => true

/-- Whether deletions happen as each directory is reached, rather than in
a pass of their own before or after the transfer. -/
def TransferOptions.deletesOnTheWay (options : TransferOptions) : Bool :=
  !options.deleteBefore && !options.deleteAfter && !options.deleteDelay

/-- The place a directory named on the command line stands for, a relative
name read from the destination. -/
def placeFrom (destination : Key) (dir : Bytes) : Key :=
  let base : Key := if dir.head? == some slash then [] else destination
  (steps dir).foldl (fun place step => match step with
    | .down name => place ++ [name]
    | .up => place.dropLast
    | .stay => place) base

/-- The backup directory as the lines about backups name it, ending in a
slash. -/
def backupPrefix (dir : Bytes) : Bytes :=
  if dir.getLast? == some slash then dir else dir ++ [slash]

/-- Put a copy of the node at `key` aside before it is replaced or
deleted: renamed with the suffix, or moved under the backup directory with
its path from the destination. With the word `BACKUP` on, and `told`, a
line says where it went. -/
def Receiving.backUp (rx : Receiving) (options : TransferOptions) (destination key : Key)
    (told : Bool) : Receiving :=
  match rx.files.find? key with
  | none => rx
  | some node =>
      let suffix := options.suffix.getD []
      let aside : Key := match options.backupDir with
        | some dir =>
            placeFrom destination dir ++ (key.drop destination.length).dropLast ++ [(key.getLastD []) ++ suffix]
        | none => key.dropLast ++ [(key.getLastD []) ++ suffix]
      let parents := (List.range aside.length).map fun count => aside.take count
      let made := parents.foldl (fun fs place =>
        if place.isEmpty || (fs.find? place).isSome then fs else fs.put place (.directory 0o755)) rx.files
      let rx := { rx with files := ((made.eraseWithin aside).eraseWithin key).put aside node }
      let path := destinationPath destination key
      let asideName := (options.backupDir.map backupPrefix).getD [] ++ path ++ suffix
      if told then
        rx.sayOn options "BACKUP" (encode "backed up " ++ path ++ encode " to " ++ asideName ++ [0x0A])
      else rx

/-- Whether a deleted node is put aside first: with backups on, any file
or link, except one already carrying the suffix when backups stay beside
their files. -/
def backsUp (options : TransferOptions) (name : Bytes) : Bool :=
  options.backup && (options.backupDir.isSome || !(options.suffix.getD []).isSuffixOf name)

/-- The line about a deletion, with the word `DEL` on or a format of item
lines: in that format when it summarizes changes or names the operation,
else as `deleting` and the path, a directory's ending in a slash. -/
def Receiving.tellDeleted (rx : Receiving) (options : TransferOptions) (destination key : Key)
    (node : Node) : Receiving :=
  let format := options.itemFormat
  if options.infoLevel "DEL" == 0 && format.isNone then rx
  else
    let path := destinationPath destination key
    let shown := match format with
      | some format => if options.itemizing > 0 || formatHas format 0x6F then format else encode "deleting %n"
      | none => encode "deleting %n"
    rx.say (itemLine shown
      { name := if node.isDirectory then path ++ [slash] else path, place := path, target := none,
        code := encode "*deleting  ", operation := encode "del.", length := 0, mode := 0 })

/-- The entries of a directory in the order the synchronizer sorts them:
everything that is not a directory first, each part by name. -/
def filesFirst (entries : List (Bytes × Node)) : List (Bytes × Node) :=
  entries.filter (!·.2.isDirectory) ++ entries.filter (·.2.isDirectory)

/-- Delete an entry and, for a directory, everything in it the receiving
side's rules do not protect, deepest and last names first; `slots` are the
rules in force where the entry lies, and entering a directory reads its
per-directory rule files. A directory is emptied before it is counted;
one that keeps something stays, with a note. Each removal counts against
the limit. -/
def deleteTree (options : TransferOptions) (destination : Key) :
    Nat → List RuleSlot → Receiving → Key → Receiving
  | 0, _, rx, _ => rx
  | fuel + 1, slots, rx, key =>
      match rx.files.find? key with
      | none => rx
      | some (.directory mode) =>
          let inside := (filesFirst (rx.files.children key)).reverse
          let slots := enterDirectory rx.files key slots
          let root := joinNames destination
          let rx := inside.foldl (fun rx (name, node) =>
            if keepsWhileEmptying options.deleteExcluded slots root
                (joinNames ((key ++ [name]).drop destination.length)) node.isDirectory then rx
            else deleteTree options destination fuel slots rx (key ++ [name])) rx
          if !(rx.files.children key).isEmpty then
            rx.say (encode "cannot delete non-empty directory: " ++ destinationPath destination key ++ [0x0A])
          else if !options.mayDelete rx.deletions then { rx with limited := true }
          else
            ({ rx with files := rx.files.eraseWithin key, deletions := rx.deletions + 1 }).tellDeleted
              options destination key (.directory mode)
      | some node =>
          if !options.mayDelete rx.deletions then { rx with limited := true }
          else
            let rx := if backsUp options (key.getLastD []) then rx.backUp options destination key true
              else { rx with files := rx.files.eraseWithin key }
            ({ rx with deletions := rx.deletions + 1 }).tellDeleted options destination key node

/-- Clear the way for an entry of another kind: a file or link is removed
(put aside first with backups on); a directory only when it is empty, or
when deletions or `--force` are on. Gives none when the way stays
blocked. -/
def Receiving.makeRoom (rx : Receiving) (options : TransferOptions) (destination key : Key) :
    Option Receiving :=
  match rx.files.find? key with
  | none => some rx
  | some (.directory _) =>
      if (rx.files.children key).isEmpty || options.delete || options.force then
        some { rx with files := rx.files.eraseWithin key }
      else none
  | some _ =>
      if backsUp options (key.getLastD []) then some (rx.backUp options destination key true)
      else some { rx with files := rx.files.eraseWithin key }

/-- Record an entry whose way stays blocked. -/
def Receiving.blocked (rx : Receiving) (kind : String) (path : Bytes) : Receiving :=
  { rx with
    notes := rx.notes ++ encode "cannot delete non-empty directory: " ++ path ++ [0x0A],
    errors := rx.errors ++ encode ("rsync: [generator] could not make way for new " ++ kind ++ ": ") ++
      path ++ [0x0A],
    failed := true }

/-- The line about an item, when there is a format of item lines and the
change shows: a sent item always; a changed one when changes are
summarized, when it was made at the destination, or when it is a
directory; an unchanged one only when unchanged items are asked for as
well (`-ii`, or the word `NAME` at level 2 with a summary). -/
def Receiving.tellItem (rx : Receiving) (options : TransferOptions) (entry : Entry) (node : Node)
    (change : ItemChange) : Receiving :=
  match options.itemFormat with
  | none => rx
  | some format =>
      let itemizing := options.itemizing
      let shows :=
        if change.sent then true
        else if change.significant then itemizing > 0 || change.madeHere || node.isDirectory
        else itemizing > 0 && (itemizing > 1 || options.infoLevel "NAME" ≥ 2)
      if !shows then rx
      else
        let path := match entry.listedNames with
          | [] => [dot]
          | names => joinNames names
        let (target, length, mode) : Option Bytes × Nat × Nat := match node with
          | .link target => (some target, target.length, 0o777)
          | .file mode content => (none, content.length, mode)
          | .directory mode => (none, 4096, mode)
        rx.say (itemLine format
          { name := if node.isDirectory then path ++ [slash] else path, place := joinNames entry.source,
            target := target, code := itemCode node change, operation := encode "send",
            length := length, mode := mode })

/-- With the word `NAME` at level 2 and no summary of changes, the line
about an item found up to date, or whose attributes alone were
`updated`. -/
def Receiving.tellKept (rx : Receiving) (options : TransferOptions) (path : Bytes) (updated : Bool) :
    Receiving :=
  if options.itemizing == 0 && options.infoLevel "NAME" ≥ 2 then
    rx.say (path ++ (if updated then [] else encode " is uptodate") ++ [0x0A])
  else rx

/-- The line about an item skipped, with the word `SKIP` on. -/
def Receiving.tellSkipped (rx : Receiving) (options : TransferOptions) (line : Bytes) : Receiving :=
  rx.sayOn options "SKIP" (line ++ [0x0A])

/-- Count an entry's source as handled; with `--remove-source-files` and
the word `REMOVE` on, a line says it goes. -/
def Receiving.handle (rx : Receiving) (options : TransferOptions) (entry : Entry) : Receiving :=
  let rx := { rx with handled := rx.handled ++ [entry.source] }
  if options.removeSources && !options.dryRun then
    rx.sayOn options "REMOVE" (encode "sender removed " ++ joinNames entry.listedNames ++ [0x0A])
  else rx

/-- How well a file in a basis directory, with its mode and contents,
stands in for a file sent: 1 when it is only a regular file; 2 when it also
passes the check that tells files apart (the same size, and unless only
sizes count, the same time, or the same contents with `--checksum`; never
with `--ignore-times`); 3 when the attributes kept match as well. Times are
taken to match exactly when the contents do. -/
def basisLevel (options : TransferOptions) (mode : Nat) (content : Bytes) (other : Nat)
    (data : Bytes) : Nat :=
  let sameTime := data == content
  let quick := data.length == content.length &&
    (if options.checksum then data == content
     else if options.sizeOnly then true
     else !options.ignoreTimes && sameTime)
  let sameModes :=
    if options.keepModes then other &&& 0o7777 == mode &&& 0o7777
    else if options.executability then (other &&& 0o111 == 0) == (mode &&& 0o111 == 0)
    else true
  if !quick then 1
  else if (!options.keepTimes || sameTime) && sameModes then 3
  else 2

/-- The best file the basis directories hold for a file sent: its level,
mode and contents, the first directory of the highest level winning. -/
def bestBasis (fs : FileSystem) (options : TransferOptions) (destination : Key) (names : List Bytes)
    (mode : Nat) (content : Bytes) : Option (Nat × Nat × Bytes) :=
  options.basisDirs.foldl (fun best dir =>
    match fs.resolve (placeFrom destination dir ++ names).path false with
    | .ok (.found _ (.file other data)) =>
        let level := basisLevel options mode content other data
        match best with
        | some (reached, _, _) => if level > reached then some (level, other, data) else best
        | none => some (level, other, data)
    | _ => best) none

/-- Whether a `--compare-dest` directory holds the same link. -/
def compareLink (fs : FileSystem) (options : TransferOptions) (destination : Key) (names : List Bytes)
    (target : Bytes) : Bool :=
  options.basisOption == some "compare-dest" && options.basisDirs.any fun dir =>
    match fs.resolve (placeFrom destination dir ++ names).path false with
    | .ok (.found _ (.link other)) => other == target
    | _ => false

/-- Whether some skipped place holds a key. -/
def Receiving.isSkipped (rx : Receiving) (key : Key) : Bool :=
  rx.skipped.any fun place => place.isPrefixOf key

/-- Place a directory entry; `made` when the destination directory was
made for it. -/
def Receiving.placeDirectory (rx : Receiving) (options : TransferOptions) (destination key : Key)
    (entry : Entry) (mode : Nat) (made : Bool) : Receiving :=
  let path := destinationPath destination key
  let fresh : ItemChange := { madeHere := true, fresh := true }
  match rx.files.find? key with
  | some (.directory current) =>
      let kept := if options.keepModes then mode else current
      let rx := { rx with files := rx.files.put key (.directory kept) }
      rx.tellItem options entry entry.node
        (if made then fresh else { remoded := options.keepModes && current &&& 0o7777 != mode &&& 0o7777 })
  | some other =>
      if options.ignoreExisting then
        { (rx.tellSkipped options (path ++ encode " exists")) with skipped := rx.skipped ++ [key] }
      else
        let newMode := if options.keepModes then mode
          else match other with
            | .file current _ => current &&& permissionBits
            | _ => 0o777
        match rx.makeRoom options destination key with
        | some rx =>
            ({ rx with files := rx.files.put key (.directory newMode) }).tellItem options entry entry.node fresh
        | none => { (rx.blocked "directory" (joinNames (key.drop destination.length))) with
                    skipped := rx.skipped ++ [key] }
  | none =>
      if options.existingOnly then
        { (rx.tellSkipped options (encode "not creating new directory \"" ++ path ++ encode "\"")) with
          skipped := rx.skipped ++ [key] }
      else
        let newMode := if options.keepModes then mode else defaultMode mode
        ({ rx with files := rx.files.put key (.directory newMode) }).tellItem options entry entry.node fresh

/-- The prefix `--munge-links` puts before the targets of links it stores
unusable. -/
def mungedPrefix : Bytes := encode "/rsyncd-munged/"

/-- Place a link entry. The options that skip existing or missing items
come first; then a link is skipped when links are not kept or when it is
unsafe and only safe ones are. With `--munge-links` the sending side gives
a munged link its old target back; the receiving side of a local transfer
munges nothing. -/
def Receiving.placeLink (rx : Receiving) (options : TransferOptions) (destination key : Key)
    (entry : Entry) (target : Bytes) : Receiving :=
  let path := destinationPath destination key
  let shown := joinNames entry.listedNames
  let target :=
    if options.mungeLinks && mungedPrefix.isPrefixOf target && target.length > mungedPrefix.length then
      target.drop mungedPrefix.length
    else target
  let node : Node := .link target
  let existing := rx.files.find? key
  let fresh : ItemChange := { madeHere := true, fresh := true }
  if existing.isNone && options.existingOnly then
    rx.tellSkipped options (encode "not creating new file \"" ++ path ++ encode "\"")
  else if existing.isSome && options.ignoreExisting then rx.tellSkipped options (path ++ encode " exists")
  else if !options.keepLinks then
    rx.sayOn options "NONREG" (quotedLine "skipping non-regular file " shown "")
  else if options.safeLinks && isUnsafeLink target (joinNames entry.names) then
    rx.sayOn options "NAME" (quotedLine "ignoring unsafe symlink " shown (" -> \"" ++ lossy target ++ "\""))
  else
    match existing with
    | some (.link current) =>
        if current == target then
          ((rx.handle options entry).tellItem options entry node {}).tellKept options path false
        else
          let rx := if options.backup then rx.backUp options destination key true else rx
          (({ rx with files := rx.files.put key node }).handle options entry).tellItem options entry node
            { madeHere := true, altered := true }
    | none =>
        if compareLink rx.files options destination entry.names target then rx.handle options entry
        else
          (({ rx with files := rx.files.put key node }).handle options entry).tellItem options entry node fresh
    | some _ =>
        match rx.makeRoom options destination key with
        | some rx =>
            (({ rx with files := rx.files.put key node }).handle options entry).tellItem options entry node
              fresh
        | none => rx.blocked "symlink" (joinNames entry.names)

/-- Place a file entry. The options that skip existing or missing items
come first, then the size limits and `--update`. Its contents are read
from the source only when they are sent, and outside a dry run a source
the owner may not read then fails the entry. A basis file that matches in
full is linked with `--link-dest`, and makes the entry unneeded with
`--compare-dest`; one that passes the check is copied; any other regular
file there lends its mode when modes are not kept. With `--copy-dest` a
file already at the destination is never compared with the basis
directories. -/
def Receiving.placeFile (rx : Receiving) (options : TransferOptions) (destination key : Key)
    (entry : Entry) (mode : Nat) (content : Bytes) : Receiving :=
  let size := content.length
  let existing := rx.files.find? key
  let path := destinationPath destination key
  let shown := joinNames entry.listedNames
  let newMode := if options.keepModes then mode else defaultMode mode
  let basis := if existing.isSome && options.basisOption == some "copy-dest" then none
    else bestBasis rx.files options destination entry.names mode content
  let linking := options.basisOption == some "link-dest"
  let comparing := options.basisOption == some "compare-dest"
  let same := match existing with
    | some (.file _ data) => data == content
    | _ => false
  if existing.isNone && options.existingOnly then
    rx.tellSkipped options (encode "not creating new file \"" ++ path ++ encode "\"")
  else if existing.isSome && options.ignoreExisting then rx.tellSkipped options (path ++ encode " exists")
  else if options.maxSize.any (size > ·) then rx.tellSkipped options (shown ++ encode " is over max-size")
  else if options.minSize.any (size < ·) then rx.tellSkipped options (shown ++ encode " is under min-size")
  else if existing.isSome && options.update && !same then rx.tellSkipped options (path ++ encode " is newer")
  else
    let node := entry.node
    let permsDiffer := fun (other : Nat) =>
      (options.keepModes && other &&& 0o7777 != mode &&& 0o7777) ||
      (options.executability && (other &&& 0o111 == 0) != (mode &&& 0o111 == 0))
    let placed := fun (rx : Receiving) (mode : Nat) (data : Bytes) =>
      ({ rx with files := rx.files.put key (.file mode data) }).handle options entry
    let kept := fun (rx : Receiving) (change : ItemChange) (updated : Bool) =>
      (rx.tellItem options entry node change).tellKept options path updated
    let sent := fun (rx : Receiving) (mode : Nat) (data : Bytes) (change : ItemChange) (aside : Bool) =>
      let readable := match rx.files.find? entry.source with
        | some (.file sourceMode _) => sourceMode &&& 0o400 != 0
        | _ => true
      if !readable && !options.dryRun then
        { rx with
          errors := rx.errors ++ quotedLine "rsync: [sender] send_files failed to open "
            ([slash] ++ joinNames entry.source) ": Permission denied (13)",
          failed := true }
      else
        let rx := rx.tellItem options entry node { change with sent := true }
        let rx := if aside then rx.backUp options destination key (!options.dryRun) else rx
        placed rx mode data
    match existing, basis with
    | some (.file current data), some (3, other, found) =>
        if linking && current == other && data == found then kept (rx.handle options entry) {} false
        else if linking then kept (placed rx other found) { madeHere := true, linked := true } false
        else if comparing then
          kept (({ rx with files := rx.files.eraseWithin key }).handle options entry) {} false
        else kept (placed rx newMode found) { madeHere := true } false
    | some (.file current _), some (2, other, found) =>
        kept (placed rx (if options.keepModes then mode else keptMode options mode current) found)
          { madeHere := true, remoded := permsDiffer other } true
    | some (.file current data), some (_, other, _) =>
        sent rx (if options.keepModes then mode else keptMode options mode other) content
          { resized := data.length != size, altered := options.checksum, remoded := permsDiffer current }
          options.backup
    | some (.file current data), none =>
        let keptBits := if options.keepModes then mode else keptMode options mode current
        let change : ItemChange :=
          { resized := data.length != size, altered := options.checksum, remoded := permsDiffer current }
        if data == content || (options.sizeOnly && data.length == size) then
          kept (placed rx keptBits data) { remoded := permsDiffer current } (permsDiffer current)
        else if options.append && data.length ≥ size then rx.handle options entry
        else if options.append && !options.appendVerify then
          sent rx keptBits (data ++ content.drop data.length) change false
        else sent rx keptBits content change (options.backup && !options.append)
    | some _, _ =>
        match rx.makeRoom options destination key with
        | some rx => sent rx newMode content { fresh := true } false
        | none => rx.blocked "regular file" (joinNames entry.names)
    | none, some (3, other, found) =>
        if linking then kept (placed rx other found) { madeHere := true, linked := true } false
        else if comparing then kept (rx.handle options entry) {} false
        else kept (placed rx newMode found) { madeHere := true } false
    | none, some (2, other, found) =>
        kept (placed rx newMode found) { madeHere := true, remoded := permsDiffer other } true
    | none, some (_, other, _) =>
        sent rx (if options.keepModes then mode else keptMode options mode other) content
          { fresh := true } false
    | none, none => sent rx newMode content { fresh := true } false

/-- The names listed directly inside a listed directory. -/
def listedInside (entries : List Entry) (names : List Bytes) : List Bytes :=
  entries.filterMap fun entry =>
    if entry.names.length == names.length + 1 && names.isPrefixOf entry.names then entry.names.getLast?
    else none

/-- Delete, inside a directory whose entries were all listed, what the
list lacks and the receiving side's rules do not protect, last in sorted
order first. -/
def Receiving.deleteExtraneous (rx : Receiving) (options : TransferOptions) (destination : Key)
    (entries : List Entry) (names : List Bytes) (here : Key) : Receiving :=
  let listed := listedInside entries names
  let root := joinNames destination
  let rules := enterPath rx.files destination names options.rules
  (filesFirst (rx.files.children here)).reverse.foldl (fun rx (name, node) =>
    if listed.contains name then rx
    else if keepsFromDeletion options.deleteExcluded rules root (joinNames (names ++ [name]))
        node.isDirectory then rx
    else deleteTree options destination (rx.files.entries.length + 1) rules rx (here ++ [name])) rx

/-- Where an entry lands below the destination. With `--keep-dirlinks` a
link there to a directory stands for that directory, both on the way to
the entry and for a directory entry itself. -/
def Receiving.landing (rx : Receiving) (options : TransferOptions) (destination : Key) (entry : Entry) :
    Key :=
  let follow := fun (place : Key) =>
    match rx.files.find? place with
    | some (.link _) =>
        match rx.files.resolve place.path true with
        | .ok (.found target (.directory _)) => target
        | _ => place
    | _ => place
  if !options.keepDirLinks then destination ++ entry.names
  else
    let dirs := entry.names.dropLast.foldl (fun place name => follow (place ++ [name])) destination
    match entry.names.getLast? with
    | none => destination
    | some last => if entry.node.isDirectory then follow (dirs ++ [last]) else dirs ++ [last]

/-- Place one entry under the destination; `made` when the destination
directory was made for the transfer. Deletions inside a directory happen
as it is placed, unless they have a pass of their own. -/
def Receiving.receive (options : TransferOptions) (destination : Key) (entries : List Entry) (made : Bool)
    (rx : Receiving) (entry : Entry) : Receiving :=
  let key := rx.landing options destination entry
  let parentReady := entry.names.isEmpty || (match rx.files.find? key.dropLast with
    | some (.directory _) => true
    | _ => false)
  if rx.isSkipped key || !parentReady then rx
  else
    match entry.node with
    | .directory mode =>
        let rx := rx.placeDirectory options destination key entry mode (made && entry.names.isEmpty)
        if options.delete && options.deletesOnTheWay && entry.complete && !rx.isSkipped key then
          rx.deleteExtraneous options destination entries entry.names key
        else rx
    | .link target => rx.placeLink options destination key entry target
    | .file mode content => rx.placeFile options destination key entry mode content

/-- The pass of deletions before or after the transfer: in list order,
inside every listed directory whose entries were all listed and that
stands at the destination. -/
def Receiving.deletePass (rx : Receiving) (options : TransferOptions) (destination : Key)
    (entries : List Entry) : Receiving :=
  entries.foldl (fun rx entry =>
    if entry.node.isDirectory && entry.complete then
      let key := rx.landing options destination entry
      match rx.files.find? key with
      | some (.directory _) =>
          if rx.isSkipped key then rx else rx.deleteExtraneous options destination entries entry.names key
      | _ => rx
    else rx) rx

/-- The order entries are handled in: path by path, and among the
entries of one directory everything that is not a directory before the
directories, each part by name. -/
def listOrderKey (entry : Entry) : List (Bool × Bytes) :=
  match entry.names.reverse with
  | [] => []
  | last :: before => before.reverse.map (fun name => (true, name)) ++ [(entry.node.isDirectory, last)]

/-- Whether one key of the list order comes no later than another. -/
def listOrderLe : List (Bool × Bytes) → List (Bool × Bytes) → Bool
  | [], _ => true
  | _ :: _, [] => false
  | (directory, name) :: rest, (otherDirectory, otherName) :: otherRest =>
      if directory == otherDirectory && name == otherName then listOrderLe rest otherRest
      else if directory != otherDirectory then !directory
      else bytesLe name otherName

/-- The entries in the order they are handled. -/
def inListOrder (entries : List Entry) : List Entry :=
  entries.mergeSort fun a b => listOrderLe (listOrderKey a) (listOrderKey b)

/-- The entries left once directories holding no file, link or other
non-directory anywhere below them are pruned; the transfer root stays. -/
def pruneEmpty (entries : List Entry) : List Entry :=
  entries.filter fun entry =>
    match entry.node with
    | .directory _ =>
        entry.names.isEmpty || entries.any fun other =>
          !other.node.isDirectory && entry.names.isPrefixOf other.names
    | _ => true

/-- What a transfer run leaves: the file system and what it wrote. -/
structure TransferRun where
  files : FileSystem
  output : Output

/-- The report of a refusal: its text, then the closing error line. -/
def refusalOutput (refusal : Refusal) : Output :=
  { status := .exited refusal.status,
    stderr := encode (refusal.message ++ "rsync error: " ++ statusKind refusal.status ++ " (code " ++
      toString refusal.status ++ ") at " ++ refusal.place ++ " [" ++ refusal.role ++ "=3.2.7]\n") }

/-- A refusal of the receiving side. -/
def receiverRefusal (status : Nat) (message place : String) : Refusal :=
  { status := status, message := message ++ "\n", place := place, role := "Receiver" }

/-- Check a user or group mapping the way the receiving side reads it:
items separated by commas, read from the last, each a name or number
range, a colon, and the name to map to. -/
def checkNameMap (users : Bool) (map : Bytes) : Except Refusal Unit :=
  let which := if users then "user" else "group"
  ((map.splitOn 0x2C).reverse).foldlM (fun _ item =>
    match item.findIdx? (· == 0x3A) with
    | none => throw (receiverRefusal 1 ("No colon found in --" ++ which ++ "map: " ++ lossy item) "uidlist.c(512)")
    | some colon =>
        if colon + 1 == item.length then
          throw (receiverRefusal 1 ("No name found after colon --" ++ which ++ "map: " ++ lossy item)
            "uidlist.c(517)")
        else
          let source := item.take colon
          let digit := fun (byte : UInt8) => 0x30 ≤ byte && byte ≤ 0x39
          let numeric := source.head?.any digit
          let dashes := source.count 0x2D
          let ranged := source.all fun byte => digit byte || byte == 0x2D
          let dashLast := source.getLast? == some 0x2D
          if numeric && (!ranged || dashes > 1 || dashLast) then
            throw (receiverRefusal 1 ("Invalid number in --" ++ which ++ "map: " ++ lossy source) "uidlist.c(527)")
          else pure ()) ()

/-- Check the directory for temporary files, found from the destination:
it must exist and be a directory. -/
def checkTempDir (fs : FileSystem) (destination : Key) (dir : Bytes) : Except Refusal Unit :=
  let path : PathName := if dir.head? == some slash then ⟨dir⟩ else ⟨destination.path.bytes ++ [slash] ++ dir⟩
  match fs.metadata path with
  | .ok (.directory _) => pure ()
  | .ok _ => throw (receiverRefusal 1 ("The temp-dir is not a directory: " ++ lossy dir) "main.c(1019)")
  | .error .notFound => throw (receiverRefusal 1 ("The temp-dir does not exist: " ++ lossy dir) "main.c(1023)")
  | .error error =>
      throw (receiverRefusal 11 ("Failed to stat temp-dir " ++ lossy dir ++ ": " ++ error.describe) "main.c(1026)")

/-- Where the entries go, once the destination is settled. -/
structure Settled where
  files : FileSystem
  /-- The destination directory. -/
  destination : Key
  /-- The entries, as they are named there. -/
  entries : List Entry
  /-- The destination directory was made for the transfer. -/
  made : Bool := false
  /-- Lines about the directories made. -/
  notes : Bytes := []

/-- How many directories on a path do not exist yet. -/
def missingDirectories (fs : FileSystem) (path : Bytes) : Nat :=
  let parts := (splitSlashes path).filter fun part => !part.isEmpty
  let start : Bytes := if path.head? == some slash then [slash] else []
  (List.range parts.length).countP fun count =>
    (fs.metadata ⟨start ++ joinNames (parts.take (count + 1))⟩).toOption.isNone

/-- The path given for the destination, one trailing slash taken off. -/
def withoutTrailingSlash (path : Bytes) : Bytes :=
  if path.getLast? == some slash && path.length > 1 then path.dropLast else path

/-- The part of a path before its last slash. -/
def beforeLastSlash (path : Bytes) : Bytes :=
  match (List.range path.length).reverse.find? (fun index => path[index]? == some slash) with
  | some index => path.take index
  | none => []

/-- Where the entries go: the destination directory, and the entries as
they are named there. A single non-directory sent to a name that is not a
directory takes that name. A directory made for the destination is told
about once the word `NAME` is on or changes are summarized. -/
def settleDestination (fs : FileSystem) (options : TransferOptions) (entries : List Entry)
    (target : Bytes) : Except Refusal Settled :=
  let single := match entries with
    | [entry] => !entry.node.isDirectory
    | _ => false
  let renamed := fun (name : Bytes) => entries.map fun entry =>
    { entry with names := [name], listedAs := some entry.listedNames }
  let trailing := target.getLast? == some slash
  let telling := options.infoLevel "NAME" ≥ 1 || options.itemizing > 0
  let madeLine := if telling then encode "created directory " ++ withoutTrailingSlash target ++ [0x0A] else []
  match fs.resolve ⟨target⟩ true with
  | .ok (.found key (.directory _)) => .ok { files := fs, destination := key, entries := entries }
  | .ok (.found _ _) =>
      if entries.length > 1 then
        .error (receiverRefusal 3 "ERROR: destination must be a directory when copying more than 1 file" "main.c(737)")
      else if !single then
        .error (receiverRefusal 3 "ERROR: cannot overwrite non-directory with a directory" "main.c(742)")
      else
        match fs.resolve ⟨target⟩ false with
        | .ok (.found key _) =>
            .ok { files := fs, destination := key.dropLast, entries := renamed (key.getLastD []) }
        | _ => .error (receiverRefusal 3 "ERROR: cannot stat destination" "main.c(749)")
  | .ok (.free dir name) =>
      if single && !trailing then .ok { files := fs, destination := dir, entries := renamed name }
      else if options.dryRun then
        .ok { files := fs, destination := dir ++ [name], entries := entries, made := true, notes := madeLine }
      else
        .ok { files := fs.put (dir ++ [name]) (.directory (masked 0o777)), destination := dir ++ [name],
              entries := entries, made := true, notes := madeLine }
  | .error .notFound =>
      if options.makePath then
        let parentOnly := single && !trailing
        let made := if parentOnly then beforeLastSlash target else withoutTrailingSlash target
        let count := missingDirectories fs made
        let notes := if telling && count > 0 then
            encode ("created " ++ toString count ++ (if count == 1 then " directory" else " directories") ++
              " for ") ++ made ++ [0x0A]
          else []
        let grown : Change := if options.dryRun then .ok fs
          else fs.createDirAll (if parentOnly then (PathName.mk target).parent.getD ⟨[]⟩ else ⟨target⟩)
            (masked 0o777)
        match grown with
        | .ok grown =>
            match grown.resolve ⟨target⟩ true with
            | .ok (.found key (.directory _)) =>
                .ok { files := grown, destination := key, entries := entries, notes := notes }
            | .ok (.free dir name) =>
                .ok { files := grown, destination := dir, entries := renamed name, notes := notes }
            | _ => .ok { files := grown, destination := [], entries := [], notes := notes }
        | .error _ => .error (receiverRefusal 11 ("rsync: [Receiver] mkdir " ++ lossy target ++ " failed") "main.c(769)")
      else if single && !trailing then
        .error (receiverRefusal 3 ("rsync: [Receiver] change_dir#3 \"" ++ lossy target ++
          "\" failed: No such file or directory (2)") "main.c(827)")
      else
        .error (receiverRefusal 11 ("rsync: [Receiver] mkdir \"" ++ lossy target ++
          "\" failed: No such file or directory (2)") "main.c(791)")
  | .error error =>
      .error (receiverRefusal 3 ("rsync: [Receiver] ERROR: cannot stat destination \"" ++ lossy target ++ "\": " ++
        error.describe ++ " (" ++ toString error.code ++ ")") "main.c(755)")

/-- Remove the sources of the entries handled, leaving directories. -/
def removeSources (fs : FileSystem) (keys : List Key) : FileSystem :=
  keys.foldl (fun fs key =>
    match fs.find? key with
    | some (.directory _) => fs
    | some _ => fs.eraseWithin key
    | none => fs) fs

/-- The output a finished transfer leaves; `--quiet` silences standard
output. -/
def finishedOutput (options : TransferOptions) (notes errors : Bytes) (failed limited : Bool) : Output :=
  let code := if failed then 23 else if limited then 25 else 0
  { status := .exited code, stdout := if options.quiet then [] else notes, stderr := errors }

/-- Standard output of the sending side as it lists, with the word `FLIST`
on: a line saying the list goes out in parts, as it does in a recursive
transfer with no pass of its own for deletions and no pruning; else, when
directories are sent, the notes of the listing framed as the list being
built. -/
def fileListNotes (options : TransferOptions) (notes : Bytes) : Bytes :=
  if options.infoLevel "FLIST" == 0 then notes
  else if options.recursive && !options.deleteBefore && !options.deleteAfter && !options.pruneEmpty then
    encode "sending incremental file list\n" ++ notes
  else if options.recursive || options.dirs then encode "building file list ... " ++ notes ++ encode "done\n"
  else notes

/-- The names a file of names lists: one a line (or ended by zero bytes
with `--from0`), blank lines and, between line ends, lines starting with
`#` or `;` left out. -/
def listedNames (options : TransferOptions) (content : Bytes) : List Bytes :=
  if options.zeroEnded then (content.splitOn 0).filter (!·.isEmpty)
  else ruleLines content

/-- The sources to send: the operands, or with `--files-from` the names its
file lists, each read below the one source operand. -/
def namedSources (fs : FileSystem) (options : TransferOptions) (operands : List Bytes) :
    Except Refusal (List Bytes) :=
  match options.filesFrom with
  | none => .ok operands
  | some file =>
      match operands with
      | [source] =>
          let content : Except Refusal Bytes :=
            if file == encode "-" then .ok []
            else match fs.readFile ⟨file⟩ with
              | .ok content => .ok content
              | .error .isADirectory => .ok []
              | .error error =>
                  .error (usageRefusal ("failed to open files-from file " ++ lossy file ++ ": " ++
                    error.describe))
          content.map fun content =>
            (listedNames options content).map fun name => source ++ [slash, dot, slash] ++ name
      | _ => .error (usageRefusal "--files-from needs exactly one source")

/-- Run the synchronizer with its arguments, the program name left out. -/
def runTransfer (fs : FileSystem) (args : List Bytes) : TransferRun :=
  match readTransferOptions fs args with
  | .error refusal => { files := fs, output := refusalOutput refusal }
  | .ok .quietEnd => { files := fs, output := { status := .exited 0 } }
  | .ok (.stopped text) => { files := fs, output := { status := .exited 0, stdout := text } }
  | .ok (.options options) =>
      if options.stopEarly then { files := fs, output := { status := .exited 0 } }
      else
        let opening := match options.backupDir with
          | some dir =>
              if options.infoLevel "BACKUP" ≥ 1 then encode "backup_dir is " ++ backupPrefix dir ++ [0x0A] else []
          | none => []
        match options.operands.reverse with
        | [] => { files := fs, output := refusalOutput (usageRefusal "missing source argument") }
        | target :: reversedSources =>
            let named := if reversedSources.isEmpty then [target] else reversedSources.reverse
            match namedSources fs options named with
            | .error refusal => { files := fs, output := refusalOutput refusal }
            | .ok sources =>
            let listing := sources.foldl (listSource fs options) {}
            match listing.aborted with
            | some status =>
                { files := fs, output := { status := .exited status, stderr := listing.errors } }
            | none =>
                if reversedSources.isEmpty || options.listOnly then
                  { files := fs,
                    output := finishedOutput options (opening ++ listing.notes) listing.errors listing.failed false }
                else
                  let mapped := do
                    if let some map := options.userMap then checkNameMap true map
                    if let some map := options.groupMap then checkNameMap false map
                  match mapped *> settleDestination fs options listing.entries target with
                  | .error refusal => { files := fs, output := refusalOutput refusal }
                  | .ok settled =>
                  let destination := settled.destination
                  match options.tempDir.map (checkTempDir settled.files destination) with
                  | some (.error refusal) => { files := settled.files, output := refusalOutput refusal }
                  | _ =>
                      let entries := inListOrder
                        (if options.pruneEmpty then pruneEmpty settled.entries else settled.entries)
                      let start : Receiving :=
                        { files := settled.files, notes := opening ++ fileListNotes options listing.notes ++ settled.notes,
                          errors := listing.errors, failed := listing.failed }
                      let pass := fun (rx : Receiving) =>
                        if options.delete && !options.deletesOnTheWay then rx.deletePass options destination entries
                        else rx
                      let rx := if options.deleteBefore then pass start else start
                      let rx := entries.foldl (Receiving.receive options destination entries settled.made) rx
                      let rx := if options.deleteBefore then rx else pass rx
                      let rx := listing.vanished.foldl (fun rx name =>
                        let key := destination ++ [name]
                        match rx.files.find? key with
                        | some (.directory _) =>
                            if options.delete || options.force then
                              deleteTree options destination (rx.files.entries.length + 1)
                                (enterDirectory rx.files destination options.rules) rx key
                            else rx
                        | some _ => deleteTree options destination 1 [] rx key
                        | none => rx) rx
                      let files :=
                        if options.dryRun then fs
                        else if options.removeSources then removeSources rx.files rx.handled
                        else rx.files
                      { files := files, output := finishedOutput options rx.notes rx.errors rx.failed rx.limited }

end BackupRotation.Tools
