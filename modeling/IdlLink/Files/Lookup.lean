/-
Finding what a path leads to in a tree of files.

A path is followed piece by piece, and whatever stands before a piece has to be a directory. The tree
is all there is: above its top, and at the root that absolute paths start from, are directories that
hold nothing.
-/
import IdlLink.Files.Tree
import IdlLink.Number.Digits
import IdlLink.SourcePath
import IdlLink.Text.Utf8

namespace IdlLink

/-- Why a file or a directory cannot be used. -/
inductive FileFault where
  | missing
  | alreadyThere
  | notDirectory
  | isDirectory
  | denied
  | nameTooLong
  /-- A zero character in a path. -/
  | zeroInPath
  /-- Text was wanted and the bytes are not UTF-8. -/
  | notText
  deriving DecidableEq, Repr

/-- A message with the number that systems give to its cause. -/
def numberedFault (text : String) (number : Nat) : String :=
  text ++ " (os error " ++ Number.decimal number ++ ")"

/-- The wording of a fault. -/
def FileFault.message : FileFault → String
  | missing => numberedFault "No such file or directory" 2
  | alreadyThere => numberedFault "File exists" 17
  | notDirectory => numberedFault "Not a directory" 20
  | isDirectory => numberedFault "Is a directory" 21
  | denied => numberedFault "Permission denied" 13
  | nameTooLong => numberedFault "File name too long" 36
  | zeroInPath => "file name contained an unexpected NUL byte"
  | notText => "stream did not contain valid UTF-8"

/-- Where a path leads: to the end of some names below the top of a tree, or outside of it. -/
inductive Place where
  | below (names : List String)
  | outside
  deriving DecidableEq, Repr

namespace FileTree

/-- The longest name, in bytes. -/
def maxName : Nat := 255

/-- The longest path, in bytes. -/
def maxPath : Nat := 4095

/-- The directory above a place. -/
def above : Place → Place
  | .outside => .outside
  | .below [] => .outside
  | .below names => .below names.dropLast

/-- The place of a name in the directory at a place. -/
def enterName (t : FileTree) (place : Place) (name : String) : Except FileFault Place :=
  if maxName < name.utf8ByteSize then .error .nameTooLong
  else
    match place with
    | .outside => .error .missing
    | .below names =>
      if (t.find? (names ++ [name])).isSome then .ok (.below (names ++ [name]))
      else .error .missing

/-- Whether there is a directory at a place. -/
def hasDirectory (t : FileTree) : Place → Bool
  | .outside => true
  | .below names => (t.find? names).any isDirectory

/-- Follow one piece of a path. -/
def follow (t : FileTree) (place : Place) (piece : List Char) : Except FileFault Place :=
  if t.hasDirectory place then
    if SourcePath.isBlankPiece piece then .ok place
    else
      match SourcePath.pieceComponent piece with
      | .name n => t.enterName place n
      | _ => .ok (above place)
  else .error .notDirectory

/-- Follow some pieces, one after the other. -/
def followAll (t : FileTree) : Place → List (List Char) → Except FileFault Place
  | place, [] => .ok place
  | place, piece :: rest =>
    match t.follow place piece with
    | .ok next => t.followAll next rest
    | .error f => .error f

/-- Where a path starts. -/
def origin (p : SourcePath) : Place := if p.isAbsolute then .outside else .below []

/-- Refuse a path that no system would follow. -/
def checkPath (p : SourcePath) : Except FileFault Unit :=
  if p.text.toList.contains (Char.ofNat 0) then .error .zeroInPath
  else if p.text.isEmpty then .error .missing
  else if maxPath < p.text.utf8ByteSize then .error .nameTooLong
  else .ok ()

/-- The texts between the separators of a path. -/
def piecesOf (p : SourcePath) : List (List Char) := p.text.toList.splitOn '/'

/-- The place that a path leads to. -/
def locate (t : FileTree) (p : SourcePath) : Except FileFault Place :=
  match checkPath p with
  | .error f => .error f
  | .ok () => t.followAll (origin p) (piecesOf p)

/-- Whether a path leads anywhere. -/
def hasPath (t : FileTree) (p : SourcePath) : Bool := t.locate p matches .ok _

/-- Whether a path leads to a directory. -/
def isDirectoryAt (t : FileTree) (p : SourcePath) : Bool :=
  match t.locate p with
  | .ok place => t.hasDirectory place
  | .error _ => false

/-- Whether a path leads to a file. -/
def isFileAt (t : FileTree) (p : SourcePath) : Bool :=
  match t.locate p with
  | .ok place => !t.hasDirectory place
  | .error _ => false

/-- What a path leads to in the tree, when it is a directory: its contents. -/
def directoryAt (t : FileTree) (p : SourcePath) : FileTree :=
  match t.locate p with
  | .ok (.below names) => (t.find? names).getD empty
  | _ => empty

/-- The bytes of the file at a place. -/
def bytesAt (t : FileTree) : Place → Except FileFault (List UInt8)
  | .outside => .error .isDirectory
  | .below names =>
    match t.find? names with
    | some (.file bytes) => .ok bytes
    | some (.directory _) => .error .isDirectory
    | none => .error .missing

/-- The bytes of the file that a path leads to. -/
def read (t : FileTree) (p : SourcePath) : Except FileFault (List UInt8) :=
  match t.locate p with
  | .ok place => t.bytesAt place
  | .error f => .error f

/-- The text of the file that a path leads to. -/
def readText (t : FileTree) (p : SourcePath) : Except FileFault String :=
  match t.read p with
  | .error f => .error f
  | .ok bytes =>
    match Text.ofBytes? bytes with
    | some s => .ok s
    | none => .error .notText

end FileTree

end IdlLink
