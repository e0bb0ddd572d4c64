/-
Why a reference has no meaning, and how that is worded.
-/
import IdlLink.SourcePath

namespace IdlLink

/-- Why a reference or a module has no meaning. -/
inductive ResolveError where
  /-- Nothing is declared under a name, seen from a module. -/
  | unresolved (name : String) (module : Option String)
  /-- Typedefs that only lead to each other, in the order in which they were followed. -/
  | cyclic (chain : List String)
  | unknownModule (name : String)
  /-- A name that has no module in front of it. -/
  | unqualified (name : String)
  deriving DecidableEq, Repr

namespace ResolveError

/-- A name between grave accents. -/
def quoted (s : String) : String := "`" ++ s ++ "`"

/-- The wording of an error. -/
def message : ResolveError → String
  | unresolved name module =>
    let place := match module with
      | some m => " in module " ++ quoted m
      | none => ""
    "unresolved reference " ++ quoted name ++ place
  | cyclic chain =>
    "reference cycle never reaches a definition: " ++ String.intercalate " -> " chain
  | unknownModule name => "unknown module " ++ quoted name
  | unqualified name => quoted name ++ " is not a qualified " ++ quoted "module.Name"

/-- The reference that failed, for an error about a single one. -/
def reference? : ResolveError → Option String
  | unresolved name _ => some name
  | cyclic chain => chain.head?
  | _ => none

end ResolveError

/-- A file that cannot be read as a schema. -/
structure ParseError where
  path : SourcePath
  reason : String
  deriving DecidableEq, Repr

/-- The wording of a parse error. -/
def ParseError.message (e : ParseError) : String :=
  "failed to parse " ++ e.path.text ++ ": " ++ e.reason

end IdlLink
