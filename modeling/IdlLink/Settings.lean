/-
The settings of a workspace: where included files are searched, which generation target's namespaces
count, and the namespace of files that declare none for it.
-/
import IdlLink.Json.Record

namespace IdlLink

open Json

/-- The settings of a workspace. -/
structure Settings where
  /-- Directories that are searched for included files, after the including file's own. -/
  includePaths : List String
  /-- The namespace of files that declare none for the target. -/
  fallbackNamespace : Option String
  /-- The generation target. -/
  target : String
  deriving DecidableEq, Repr

namespace Settings

/-- The target of settings that name none. -/
def defaultTarget : String := "rs"

/-- The settings where nothing is set. -/
def standard : Settings := ⟨[], none, defaultTarget⟩

instance : Inhabited Settings := ⟨standard⟩

/-- The members of settings in a document. -/
def shape (room : Nat) : Shape Settings :=
  .optional "include_paths" (readList room (readString "path string")) [] <|
  .optional "namespace" (readOption (readString "a string")) none <|
  .optional "target" (readString "a string") defaultTarget <|
  .done fun target fallbackNamespace includePaths => ⟨includePaths, fallbackNamespace, target⟩

/-- Read settings; a member that is not one of theirs is refused. -/
def read (room : Nat) : Reader Settings :=
  readRecord "GroupConfig" .refused room (shape (room - 1))

/-- The settings that a text spells. -/
def ofText (s : String) : Except Failure Settings := readText (read maxNesting) s

end Settings

end IdlLink
