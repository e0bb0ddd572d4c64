/-
The paths of a tree that a pattern stands for.

A pattern is followed component by component from the working directory. A literal name is joined to
the path without looking at what else is there; a pattern component tries every entry of the
directory in the order of names; `**` goes through everything below in pre-order. A path is spelled
as it was found, so a pattern that starts with a point finds the names of the working directory bare.
-/
import IdlLink.Files.Lookup
import IdlLink.Files.Pattern

namespace IdlLink

/-- The working directory. -/
def SourcePath.here : SourcePath := ⟨"."⟩

/-- A path with a name after it; names in the working directory stand alone. -/
def SourcePath.child (p : SourcePath) (name : String) : SourcePath :=
  if p.same .here then ⟨name⟩ else p.join ⟨name⟩

/-- A path with some names after it. -/
def SourcePath.descend (p : SourcePath) (names : List String) : SourcePath :=
  names.foldl SourcePath.child p

/-- Whether a component stands for a name. -/
def PatternPart.accepts (name : String) : PatternPart → Bool
  | .literal s => name = s
  | .wild ws => Wildcard.matchName ws name.toList
  | .anyDepth => true

/-- The names of the working directory and of the one above that a component stands for. Only one
that spells its first point does. -/
def PatternPart.dots : PatternPart → List String
  | .wild (.char '.' :: ws) => ["..", "."].filter fun d => (wild (.char '.' :: ws)).accepts d
  | _ => []

namespace FileTree

/-- Whether a literal name leads on from a path. -/
def leadsOn (t : FileTree) (p : SourcePath) (name : String) : Bool :=
  if name = "." || name = ".." then t.isDirectoryAt p else t.hasPath (p.child name)

/-- The paths that some components stand for, from a path on. -/
def expandParts (t : FileTree) : List PatternPart → SourcePath → List SourcePath
  | [], p => [p]
  | .literal name :: rest, p =>
    if t.leadsOn p name then t.expandParts rest (p.child name) else []
  | .wild ws :: rest, p =>
    if t.isDirectoryAt p then
      ((PatternPart.wild ws).dots.flatMap fun d => t.expandParts rest (p.join ⟨d⟩))
        ++ (t.directoryAt p).entries.flatMap fun e =>
            if (PatternPart.wild ws).accepts e.1 then t.expandParts rest (p.child e.1) else []
    else []
  | [.anyDepth], p =>
    (t.directoryAt p).descendants.filterMap fun d =>
      if d.2.isDirectory then some (p.descend d.1) else none
  | .anyDepth :: part :: rest, p =>
    (t.directoryAt p).descendants.flatMap fun d =>
      if (d.1.getLast?).any part.accepts then t.expandParts rest (p.descend d.1) else []

/-- The paths that a pattern stands for. -/
def expand (t : FileTree) (pattern : Pattern) : List SourcePath :=
  let found := t.expandParts pattern.parts (if pattern.absolute then ⟨"/"⟩ else .here)
  if pattern.directoriesOnly then found.filter t.isDirectoryAt else found

end FileTree

end IdlLink
