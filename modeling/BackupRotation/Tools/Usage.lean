import BackupRotation.Files.Calls
import BackupRotation.Process.Output
/-!
# The disk-usage counter

The installed `du`, as the program calls it: `du -s -b DIR` prints the
apparent size of everything under a directory, a tab and the directory as
given. The apparent size of a file is its length, of a link the length of
its target, and of a directory one block of 4096 bytes plus its entries.
Links are counted as links and never followed.
-/

namespace BackupRotation.Tools

open Files Process Text

/-- Apparent size of one node, not counting what is below it. -/
def nodeSize : Node → Nat
  | .directory _ => 4096
  | .file _ content => content.length
  | .link target => target.length

/-- Apparent size of an entry and everything below it. -/
def apparentSize (fs : FileSystem) (key : Key) (node : Node) : Nat :=
  (fs.below key).foldl (fun total entry => total + nodeSize entry.2) (nodeSize node)

/-- Run the counter with its arguments, the program name left out. -/
def runUsage (fs : FileSystem) (args : List Bytes) : Output :=
  let paths := args.filter fun arg => arg.head? != some 0x2D
  let refuse := fun (state : Output) (path : Bytes) (error : OsError) =>
    let line := encode "du: cannot access '" ++ path ++ encode ("': " ++ error.describe ++ "\n")
    { state with stderr := state.stderr ++ line, status := .exited 1 }
  paths.foldl (fun state path =>
    match fs.resolve ⟨path⟩ false with
    | .ok (.found key node) =>
        let line := encode (toString (apparentSize fs key node)) ++ [0x09] ++ path ++ [0x0A]
        { state with stdout := state.stdout ++ line }
    | .ok (.free _ _) => refuse state path .notFound
    | .error e => refuse state path e) { status := .exited 0 }

end BackupRotation.Tools
