import BackupRotation.Text.Quote
/-!
# Path names

A path name is a byte string read as a sequence of components separated by
`/`. This module answers the questions the program asks of a name without
looking at any file system: its components, its last component, its parent,
the name obtained by appending another, and the absolute form relative to a
working directory.

The answers follow the usual conventions for such names. Repeated slashes
and `.` components do not count, except a `.` at the very start of a
relative name. `..` is kept as it is written, since only a file system can
say where it leads. The parent of a name is its own text cut before the last
component, so `a/./b/c` has parent `a/./b`.
-/

namespace BackupRotation.Files

open Text

/-- A path name as raw bytes. -/
structure PathName where
  bytes : Bytes
deriving DecidableEq, Repr, Inhabited

/-- One component of a path name. -/
inductive Component where
  | root
  | current
  | parent
  | normal (name : Bytes)
deriving DecidableEq, Repr

/-- The slash byte. -/
def slash : UInt8 := 0x2F

/-- The dot byte. -/
def dot : UInt8 := 0x2E

/-- Split bytes at every slash. -/
def splitSlashes : Bytes → List Bytes
  | [] => [[]]
  | byte :: rest =>
      if byte == slash then [] :: splitSlashes rest
      else
        match splitSlashes rest with
        | first :: others => (byte :: first) :: others
        | [] => [[byte]]

namespace PathName

/-- The path name of text. -/
def ofString (text : String) : PathName := ⟨encode text⟩

/-- Whether the name starts at the root. -/
def isAbsolute (path : PathName) : Bool := path.bytes.head? == some slash

/-- Whether a relative name starts with a `.` component. -/
def startsWithCurrent (path : PathName) : Bool :=
  !path.isAbsolute &&
    match path.bytes with
    | [b] => b == dot
    | b :: c :: _ => b == dot && c == slash
    | [] => false

/-- The components of the name. -/
def components (path : PathName) : List Component :=
  let body := splitSlashes path.bytes
  let named := body.filterMap fun part =>
    if part.isEmpty || part == [dot] then none
    else if part == [dot, dot] then some Component.parent
    else some (Component.normal part)
  (if path.isAbsolute then [Component.root] else []) ++
    (if path.startsWithCurrent then [Component.current] else []) ++ named

/-- The last component, when it is a plain name. -/
def fileName (path : PathName) : Option Bytes :=
  match path.components.getLast? with
  | some (.normal name) => some name
  | _ => none

/-- Number of leading bytes that belong to the root or to a leading `.`. -/
def headLength (path : PathName) : Nat :=
  if path.isAbsolute || path.startsWithCurrent then 1 else 0

/-- Drop trailing slashes and trailing `.` components from a body. -/
def trimBody (body : Bytes) : Bytes :=
  let rec go : Nat → Bytes → Bytes
    | 0, reversed => reversed
    | fuel + 1, reversed =>
        match reversed with
        | [] => []
        | byte :: rest =>
            if byte == slash then go fuel rest
            else if byte == dot && (rest.isEmpty || rest.head? == some slash) then go fuel rest
            else reversed
  (go (body.length + 1) body.reverse).reverse

/-- The name with its last component removed; `none` for the root and for
an empty name. -/
def parent (path : PathName) : Option PathName :=
  match path.components.getLast? with
  | none => none
  | some .root => none
  | some .current => some ⟨[]⟩
  | some _ =>
      let head := path.bytes.take path.headLength
      let body := trimBody (path.bytes.drop path.headLength)
      let cut := match body.reverse.findIdx? (· == slash) with
        | some fromEnd => body.take (body.length - fromEnd - 1)
        | none => []
      some ⟨head ++ trimBody cut⟩

/-- Append a name: an absolute name replaces the whole, a relative one is
added after a slash unless one is already there. -/
def join (base : PathName) (next : PathName) : PathName :=
  if next.isAbsolute then next
  else if base.bytes.isEmpty || base.bytes.getLast? == some slash then ⟨base.bytes ++ next.bytes⟩
  else ⟨base.bytes ++ [slash] ++ next.bytes⟩

/-- Append a name given as text. -/
def joinText (base : PathName) (next : String) : PathName := base.join (ofString next)

/-- The name as text, bytes that are not UTF-8 replaced. -/
def display (path : PathName) : String := lossy path.bytes

/-- The name quoted as in error messages. -/
def quoted (path : PathName) : String := quoteBytes path.bytes

/-- Whether an absolute name starts with exactly two slashes, a root whose
meaning is left to the system and which is therefore kept as written. -/
def hasDoubleRoot (path : PathName) : Bool :=
  match path.bytes with
  | a :: b :: rest => a == slash && b == slash && rest.head? != some slash
  | _ => false

/-- The absolute form of a name relative to a working directory: `.`
components dropped, `..` kept, a trailing slash kept, and a leading pair of
slashes kept. -/
def absoluteFrom (cwd : PathName) (path : PathName) : PathName :=
  let named := path.components.filterMap fun
    | .normal name => some name
    | .parent => some [dot, dot]
    | _ => none
  let base : PathName :=
    if path.hasDoubleRoot then ⟨[slash, slash]⟩
    else if path.isAbsolute then ⟨[slash]⟩ else cwd
  let joined := named.foldl (fun acc name => acc.join ⟨name⟩) base
  if path.bytes.getLast? == some slash then joined.join ⟨[]⟩ else joined

/-- The stem and extension of a file name, split at its last dot; a name
whose only dot starts it has no extension. -/
def splitExtension (name : Bytes) : Bytes × Option Bytes :=
  if name == [dot, dot] then (name, none)
  else
    match name.reverse.findIdx? (· == dot) with
    | none => (name, none)
    | some fromEnd =>
        let stem := name.take (name.length - fromEnd - 1)
        if stem.isEmpty then (name, none) else (stem, some (name.drop (name.length - fromEnd)))

/-- The name with the extension of its last component replaced. -/
def withExtension (path : PathName) (extension : String) : PathName :=
  match path.fileName with
  | none => path
  | some name =>
      let stem := (splitExtension name).1
      let body := trimBody (path.bytes.drop path.headLength)
      let head := path.bytes.take path.headLength
      let start := head.length + body.length - name.length
      ⟨path.bytes.take (start + stem.length) ++ [dot] ++ encode extension⟩

end PathName

end BackupRotation.Files
