/-
Spelling of generated names.

`initialCase` raises the first character of a name and leaves the others alone; `camelize` joins the
pieces between underscores, each with its first character raised, so `foo_bar` becomes `FooBar`.
-/
import IdlLink.Text.CaseMapping

namespace IdlLink.Text

/-- Raise the first character. -/
def initialCaseChars : List Char → List Char
  | [] => []
  | c :: rest => upperChar c ++ rest

/-- Raise the first character of every piece between underscores and join the pieces. -/
def camelizeChars (cs : List Char) : List Char :=
  (cs.splitOn '_').flatMap initialCaseChars

/-- A name with its first character in upper case. -/
def initialCase (s : String) : String := String.ofList (initialCaseChars s.toList)

/-- A name with underscores in its capitalised spelling without them. -/
def camelize (s : String) : String := String.ofList (camelizeChars s.toList)

end IdlLink.Text
