/-
Complete documents and their text.

`compact` writes a document without any space and `pretty` one value to a line, two spaces to a
level. Strings escape what has to be escaped and keep every other character as it is.
-/
import IdlLink.Json.Numeral

namespace IdlLink.Json

/-- A complete document, objects with their members in order. -/
inductive Value where
  | null
  | bool (b : Bool)
  | int (i : Int)
  | real (x : Number.Binary64)
  | string (s : String)
  | list (items : List Value)
  | object (members : List (String × Value))
  deriving Repr

instance : Inhabited Value := ⟨.null⟩

namespace Value

/-- An optional value, null when it is absent. -/
def option {α : Type} (f : α → Value) : Option α → Value
  | none => .null
  | some a => f a

/-- A list of strings. -/
def strings (ss : List String) : Value := .list (ss.map .string)

/-- A tag with its content. -/
def tagged (tag : String) (content : Value) : Value := .object [(tag, content)]

end Value

/-- A digit in base sixteen. -/
def hexChar (n : Nat) : Char := if n < 10 then Char.ofNat (48 + n) else Char.ofNat (87 + n)

/-- A character inside a string. -/
def escapeChar (c : Char) : List Char :=
  if c = '"' then ['\\', '"']
  else if c = '\\' then ['\\', '\\']
  else if c.toNat = 8 then ['\\', 'b']
  else if c.toNat = 9 then ['\\', 't']
  else if c.toNat = 10 then ['\\', 'n']
  else if c.toNat = 12 then ['\\', 'f']
  else if c.toNat = 13 then ['\\', 'r']
  else if c.toNat < 32 then
    ['\\', 'u', '0', '0', hexChar (c.toNat / 16), hexChar (c.toNat % 16)]
  else [c]

/-- A string between its quotes. -/
def stringChars (s : String) : List Char := '"' :: s.toList.flatMap escapeChar ++ ['"']

/-- An integer in decimal. -/
def intChars (i : Int) : List Char := (Number.decimalInt i).toList

mutual

/-- A document without any space. -/
def Value.compactChars : Value → List Char
  | .null => ['n', 'u', 'l', 'l']
  | .bool true => ['t', 'r', 'u', 'e']
  | .bool false => ['f', 'a', 'l', 's', 'e']
  | .int i => intChars i
  | .real x => (realText x).toList
  | .string s => stringChars s
  | .list [] => ['[', ']']
  | .list (v :: rest) => '[' :: v.compactChars ++ Value.compactItems rest
  | .object [] => ['{', '}']
  | .object ((k, v) :: rest) =>
    '{' :: stringChars k ++ ':' :: v.compactChars ++ Value.compactMembers rest

/-- The further elements of a list with its end. -/
def Value.compactItems : List Value → List Char
  | [] => [']']
  | v :: rest => ',' :: v.compactChars ++ Value.compactItems rest

/-- The further members of an object with its end. -/
def Value.compactMembers : List (String × Value) → List Char
  | [] => ['}']
  | (k, v) :: rest =>
    ',' :: stringChars k ++ ':' :: v.compactChars ++ Value.compactMembers rest

end

/-- The text of a document without any space. -/
def Value.compact (v : Value) : String := String.ofList v.compactChars

/-- The start of a line at a level. -/
def newLine (level : Nat) : List Char := '\n' :: List.replicate (2 * level) ' '

mutual

/-- A document with one value to a line, inside a value of a level. -/
def Value.prettyChars (level : Nat) : Value → List Char
  | .null => ['n', 'u', 'l', 'l']
  | .bool true => ['t', 'r', 'u', 'e']
  | .bool false => ['f', 'a', 'l', 's', 'e']
  | .int i => intChars i
  | .real x => (realText x).toList
  | .string s => stringChars s
  | .list [] => ['[', ']']
  | .list (v :: rest) =>
    '[' :: newLine (level + 1) ++ v.prettyChars (level + 1) ++ Value.prettyItems level rest
  | .object [] => ['{', '}']
  | .object ((k, v) :: rest) =>
    '{' :: newLine (level + 1) ++ stringChars k ++ [':', ' '] ++ v.prettyChars (level + 1)
      ++ Value.prettyMembers level rest

/-- The further elements of a list with its end. -/
def Value.prettyItems (level : Nat) : List Value → List Char
  | [] => newLine level ++ [']']
  | v :: rest =>
    ',' :: newLine (level + 1) ++ v.prettyChars (level + 1) ++ Value.prettyItems level rest

/-- The further members of an object with its end. -/
def Value.prettyMembers (level : Nat) : List (String × Value) → List Char
  | [] => newLine level ++ ['}']
  | (k, v) :: rest =>
    ',' :: newLine (level + 1) ++ stringChars k ++ [':', ' '] ++ v.prettyChars (level + 1)
      ++ Value.prettyMembers level rest

end

/-- The text of a document with one value to a line. -/
def Value.pretty (v : Value) : String := String.ofList (v.prettyChars 0)

end IdlLink.Json
