/-
Writing into a tree of files.

A file is written where its path leads, in a directory that is there. Directories that are missing
are made from the outermost one inwards, also those that a later `..` leaves again. Nothing can be
made outside of the tree. `ofFiles` builds a tree in this way.
-/
import IdlLink.Files.Lookup

namespace IdlLink.FileTree

/-- A path as a system takes it apart before it makes something there. -/
structure Target where
  /-- The pieces that lead to the directory. -/
  directory : List (List Char)
  /-- The piece that names the thing itself. -/
  last : List Char
  /-- Whether separators follow. -/
  separated : Bool

/-- The target of a path; a path of separators alone has none. -/
def target? (p : SourcePath) : Option Target :=
  let all := piecesOf p
  let kept := (all.reverse.dropWhile List.isEmpty).reverse
  kept.getLast?.map fun last => ⟨kept.dropLast, last, kept.length < all.length⟩

/-- The name that a piece gives to a new thing. -/
def newName? (piece : List Char) : Option String :=
  if SourcePath.isBlankPiece piece then none
  else
    match SourcePath.pieceComponent piece with
    | .name n => some n
    | _ => none

/-- The place of the directory of a target. -/
def locateDirectory (t : FileTree) (p : SourcePath) (target : Target) :
    Except FileFault Place := do
  checkPath p
  let place ← t.followAll (origin p) target.directory
  if t.hasDirectory place then return place else .error .notDirectory

/-- Put a node under a new name in the directory at a place. -/
def create (t : FileTree) (place : Place) (name : String) (node : FileTree) :
    Except FileFault FileTree :=
  match place with
  | .outside => .error .denied
  | .below names => .ok (insert node (names ++ [name]) t)

/-- Make a directory. -/
def makeDirectory (t : FileTree) (p : SourcePath) : Except FileFault FileTree :=
  match target? p with
  | none => .error .alreadyThere
  | some target => do
    let place ← t.locateDirectory p target
    match newName? target.last with
    | none => .error .alreadyThere
    | some name =>
      match t.enterName place name with
      | .ok _ => .error .alreadyThere
      | .error .missing => t.create place name empty
      | .error f => .error f

/-- Make a directory unless there is one. -/
def ensureDirectory (t : FileTree) (p : SourcePath) : Except FileFault FileTree :=
  match t.makeDirectory p with
  | .ok t' => .ok t'
  | .error f => if t.isDirectoryAt p then .ok t else .error f

/-- Make the first of some directories, where each stands in the one after it. -/
def ensureFirst (t : FileTree) : List SourcePath → Except FileFault FileTree
  | [] => .ok t
  | p :: outer =>
    match t.ensureDirectory p with
    | .ok t' => .ok t'
    | .error .missing => do (← t.ensureFirst outer).ensureDirectory p
    | .error f => .error f

/-- A path and the directories that it stands in, at most `n` of them, without the working
directory. -/
def withDirectories : Nat → SourcePath → List SourcePath
  | 0, _ => []
  | n + 1, p =>
    if p.components.isEmpty then []
    else p :: (p.parent?.map (withDirectories n)).getD []

/-- Make a directory with the directories that it stands in. -/
def makeDirectories (t : FileTree) (p : SourcePath) : Except FileFault FileTree :=
  t.ensureFirst (withDirectories p.components.length p)

/-- Make the directory that a path stands in. -/
def makeParent (t : FileTree) (p : SourcePath) : Except FileFault FileTree :=
  match p.parent? with
  | none => .ok t
  | some d => t.makeDirectories d

/-- Write a file. -/
def write (t : FileTree) (p : SourcePath) (bytes : List UInt8) : Except FileFault FileTree :=
  match target? p with
  | none => .error .isDirectory
  | some target => do
    let place ← t.locateDirectory p target
    match newName? target.last with
    | none => .error .isDirectory
    | some name =>
      if target.separated then .error .isDirectory
      else
        match t.enterName place name with
        | .ok there =>
          if t.hasDirectory there then .error .isDirectory
          else t.create place name (.file bytes)
        | .error .missing => t.create place name (.file bytes)
        | .error f => .error f

/-- The tree that holds some files, written one after the other, each with the directories that its
path goes through. A file that cannot be written is left out. -/
def ofFiles (fs : List (SourcePath × List UInt8)) : FileTree :=
  fs.foldl (fun t f => ((t.makeParent f.1).bind fun t' => t'.write f.1 f.2).toOption.getD t) empty

end IdlLink.FileTree
