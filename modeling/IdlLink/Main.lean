/-
The program.

The working directory is read as a tree of files, the command line runs on it, and what it printed
and wrote is carried out.
-/
import IdlLink.Command.Run

namespace IdlLink.Program

/-- What is at an entry of a directory. -/
partial def readEntry (e : IO.FS.DirEntry) : IO FileTree := do
  if ← e.path.isDir then
    let mut entries : List (String × FileTree) := []
    for child in ← e.path.readDir do
      entries := FileTree.putEntry child.fileName (← readEntry child) entries
    return .directory entries
  else
    return .file (← IO.FS.readBinFile e.path).toList

/-- The working directory. -/
def readWorkingDirectory : IO FileTree := readEntry ⟨".", "."⟩

/-- Whether a node is the same file as another one, or both are directories. -/
def sameNode : FileTree → FileTree → Bool
  | .file a, .file b => a == b
  | .directory _, .directory _ => true
  | _, _ => false

/-- Make one node. -/
def writeNode (names : List String) (node : FileTree) : IO Unit := do
  let path := String.intercalate "/" names
  match node with
  | .directory _ => IO.FS.createDirAll path
  | .file bytes => IO.FS.writeBinFile path bytes.toByteArray

/-- Make what a run has added or changed. -/
def writeChanges (before after : FileTree) : IO Unit := do
  for (names, node) in after.descendants do
    unless (before.find? names).any (sameNode node) do writeNode names node

end IdlLink.Program

/-- Run the command line. -/
def main (arguments : List String) : IO UInt32 := do
  let before ← IdlLink.Program.readWorkingDirectory
  let outcome := IdlLink.Command.runArguments before arguments
  IdlLink.Program.writeChanges before outcome.tree
  for line in outcome.output do IO.println line
  for line in outcome.messages do IO.eprintln line
  return outcome.exitCode.toUInt32
