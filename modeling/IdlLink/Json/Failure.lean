/-
Why a document does not read as the value it should, and where.

A `Failure` names the place by the steps that lead to it from the root and the problem that was
found there. `Failure.message` is the text that users see.
-/
import IdlLink.Json.Numeral
import IdlLink.Json.SyntaxError
import IdlLink.Text.Quoted

namespace IdlLink.Json

/-- One step from a value into it. -/
inductive Segment where
  /-- To the value of a member, or into the content of a tagged value. -/
  | key (name : String)
  /-- To an element of a list. -/
  | index (i : Nat)
  /-- To a member whose name could not be read. -/
  | unknown
  deriving DecidableEq, Repr

/-- What stands where something else was wanted. -/
inductive Found where
  | null
  | boolean (b : Bool)
  | integer (i : Int)
  | real (x : Number.Binary64)
  | string (s : String)
  | list
  | object
  /-- A tag without the content that it needs. -/
  | bareTag
  deriving DecidableEq, Repr

/-- What is wrong at a place. -/
inductive Problem where
  | syntaxError (e : SyntaxError)
  /-- A value of another kind than the wanted one. -/
  | mismatch (found : Found) (wanted : String)
  /-- An integer out of the wanted range. -/
  | outOfRange (i : Int) (wanted : String)
  /-- A list that is closed too early; `count` elements were read. -/
  | tooShort (count : Nat) (wanted : String)
  | missingMember (name : String)
  | duplicateMember (name : String)
  | unknownMember (name : String) (known : List String)
  | unknownTag (name : String) (known : List String)
  deriving DecidableEq, Repr

/-- A problem and the way to it from the root. -/
structure Failure where
  path : List Segment
  problem : Problem
  deriving DecidableEq, Repr

/-- A text between grave accents. -/
def ticked (s : String) : String := "`" ++ s ++ "`"

/-- How a message names what stands in a place. -/
def Found.describe : Found → String
  | .null => "null"
  | .boolean b => "boolean " ++ ticked (if b then "true" else "false")
  | .integer i => "integer " ++ ticked (Number.decimalInt i)
  | .real x => "floating point " ++ ticked (realText x)
  | .string s => "string " ++ Text.quote s
  | .list => "sequence"
  | .object => "map"
  | .bareTag => "unit variant"

/-- The names that would have been accepted. -/
def oneOf (names : List String) : String :=
  "expected one of " ++ String.intercalate ", " (names.map ticked)

/-- The wording of a problem. -/
def Problem.message : Problem → String
  | .syntaxError e => e.message
  | .mismatch found wanted => "invalid type: " ++ found.describe ++ ", expected " ++ wanted
  | .outOfRange i wanted =>
    "invalid value: integer " ++ ticked (Number.decimalInt i) ++ ", expected " ++ wanted
  | .tooShort count wanted =>
    "invalid length " ++ Number.decimal count ++ ", expected " ++ wanted
  | .missingMember name => "missing field " ++ ticked name
  | .duplicateMember name => "duplicate field " ++ ticked name
  | .unknownMember name known => "unknown field " ++ ticked name ++ ", " ++ oneOf known
  | .unknownTag name known => "unknown variant " ++ ticked name ++ ", " ++ oneOf known

/-- A step as a path shows it, with a point in front of a name that is not the first step. -/
def Segment.text (first : Bool) : Segment → String
  | .key name => (if first then "" else ".") ++ name
  | .index i => "[" ++ Number.decimal i ++ "]"
  | .unknown => (if first then "" else ".") ++ "?"

/-- A path as messages show it; the root is a point. -/
def pathText : List Segment → String
  | [] => "."
  | s :: rest => s.text true ++ String.join (rest.map (Segment.text false))

/-- The message of a failure. -/
def Failure.message (f : Failure) : String :=
  "at JSON path " ++ pathText f.path ++ " → " ++ f.problem.message

end IdlLink.Json
