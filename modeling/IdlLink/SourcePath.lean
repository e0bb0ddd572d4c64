/-
Paths of source files.

A path is kept as it was spelled and compared by its components: separators may be repeated or stand
at the end, and a single point names nothing unless it comes first. Two points are a component of
their own and are never cancelled against the directory before them.
-/
import IdlLink.Text.Pieces

namespace IdlLink

/-- A path, as it is spelled. -/
structure SourcePath where
  text : String
  deriving DecidableEq, Repr, Inhabited

/-- A component of a path. -/
inductive Component where
  | root
  /-- A point at the start of the path. -/
  | here
  | up
  | name (s : String)
  deriving DecidableEq, Repr

namespace SourcePath

/-- What makes a path absolute or starts it with a point, and the text after that. -/
def cutHead : List Char → List Char × List Char
  | '/' :: rest => (['/'], rest)
  | ['.'] => (['.'], [])
  | '.' :: '/' :: rest => (['.'], '/' :: rest)
  | cs => ([], cs)

/-- The component of the start of a path. -/
def headComponent : List Char → List Component
  | '/' :: _ => [.root]
  | '.' :: _ => [.here]
  | _ => []

/-- Whether the text between two separators names nothing. -/
def isBlankPiece (piece : List Char) : Bool := piece.isEmpty || piece == ['.']

/-- The component that the text between two separators names. -/
def pieceComponent (piece : List Char) : Component :=
  if piece = ['.', '.'] then .up else .name (String.ofList piece)

/-- The components of a path. -/
def components (p : SourcePath) : List Component :=
  let cut := cutHead p.text.toList
  headComponent cut.1
    ++ ((cut.2.splitOn '/').filter fun piece => !isBlankPiece piece).map pieceComponent

/-- Whether two paths name the same place. -/
def same (p q : SourcePath) : Bool := p.components == q.components

/-- Whether a path starts at the root. -/
def isAbsolute (p : SourcePath) : Bool := p.text.toList.head? == some '/'

/-- Pieces without those at the end that name nothing. -/
def trimPieces (pieces : List (List Char)) : List (List Char) :=
  (pieces.reverse.dropWhile isBlankPiece).reverse

/-- The path without its last component, as far as it is spelled; a root and an empty path have
none. -/
def parent? (p : SourcePath) : Option SourcePath :=
  let cut := cutHead p.text.toList
  match trimPieces (cut.2.splitOn '/') with
  | [] => if cut.1 = ['.'] then some ⟨""⟩ else none
  | piece :: rest =>
    let kept := trimPieces (piece :: rest).dropLast
    some ⟨String.ofList (cut.1 ++ List.intercalate ['/'] kept)⟩

/-- The directory of a file: its parent, or the empty path. -/
def directory (p : SourcePath) : SourcePath := p.parent?.getD ⟨""⟩

/-- A path seen from a directory. -/
def join (dir p : SourcePath) : SourcePath :=
  if p.isAbsolute then p
  else if dir.text.isEmpty || dir.text.toList.getLast? == some '/' then ⟨dir.text ++ p.text⟩
  else ⟨dir.text ++ "/" ++ p.text⟩

/-- The last component, if it is a name. -/
def fileName? (components : List Component) : Option String :=
  match components.getLast? with
  | some (.name s) => some s
  | _ => none

/-- The ending of source files. -/
def suffix : String := ".thrift"

/-- The module that a list of components names: the last one without the ending of source files. -/
def moduleOf (components : List Component) : String :=
  Text.dropTail suffix ((fileName? components).getD "")

/-- The module that a file declares. -/
def moduleName (p : SourcePath) : String := moduleOf p.components

end SourcePath

end IdlLink
