/-
Reading values out of a document.

A `Reader` takes a node to a value or to the failure that comes first in the text. Here are the
readers of plain values, lists, pairs and maps; a reader of something larger is put together from
them.

Lists and objects that are read nest at most `maxNesting` deep, and every reader that opens one is
given the `room` that is left. What is skipped over does not count.
-/
import IdlLink.Json.Failure
import IdlLink.Json.Node
import IdlLink.OrderedMap

namespace IdlLink.Json

/-- How deep lists and objects may nest. -/
def maxNesting : Nat := 127

/-- A way to read a value from a node. -/
abbrev Reader (α : Type) := Node → Except Failure α

variable {α β : Type}

/-! ### Failing, and stepping into a place -/

/-- Fail at the place itself. -/
def failHere (p : Problem) : Except Failure α := .error ⟨[], p⟩

/-- Fail at the place itself because of its syntax. -/
def failSyntax (e : SyntaxError) : Except Failure α := failHere (.syntaxError e)

/-- Say of a failure that it happened one step further in. -/
def Failure.under (s : Segment) (f : Failure) : Failure := ⟨s :: f.path, f.problem⟩

/-- The result of reading one step further in. -/
def inside (s : Segment) (r : Except Failure α) : Except Failure α := r.mapError (Failure.under s)

/-- A syntax check at the place itself. -/
def checked (r : Except SyntaxError α) : Except Failure α :=
  r.mapError fun e => ⟨[], .syntaxError e⟩

/-- A reader for places that there is no room to enter. -/
def noRoom : Reader α := fun _ => failSyntax .nestingLimit

/-! ### Plain values -/

/-- What a number in the document stands for. -/
def numeralValue : Except NumeralFault Numeral → Except SyntaxError Number
  | .error f => .error f.error
  | .ok n =>
    match n.value with
    | some v => .ok v
    | none => .error .numberOutOfRange

/-- What a message calls a number. -/
def Number.found : Number → Found
  | .integer i => .integer i
  | .real x => .real x

/-- What a message calls a word. -/
def Word.found : Word → Found
  | .null => .null
  | .true => .boolean Bool.true
  | .false => .boolean Bool.false

/-- What stands in a place, or the fault that keeps it from being known. -/
def Node.found : Node → Except SyntaxError Found
  | .missing => .error .endInValue
  | .unexpected => .error .expectedValue
  | .word w none => .ok w.found
  | .word _ (some f) => .error f.error
  | .numeral n => Number.found <$> numeralValue n
  | .quoted q => Found.string <$> q.content
  | .list _ _ => .ok .list
  | .object _ _ => .ok .object

/-- Refuse a node where something else is wanted. -/
def refuse (wanted : String) : Reader α := fun n => do
  failHere (.mismatch (← checked n.found) wanted)

/-- Read a string; `wanted` is what a refusal asks for. -/
def readString (wanted : String) : Reader String
  | .quoted q => checked q.content
  | n => refuse wanted n

/-- Read a truth value. -/
def readBool : Reader Bool
  | .word .true none => .ok true
  | .word .false none => .ok false
  | n => refuse "a boolean" n

/-- Read an integer of 64 bits. -/
def readInt64 : Reader Int64
  | .numeral m => do
    match ← checked (numeralValue m) with
    | .integer i =>
      if i ≤ Int64.maxValue.toInt then .ok (Int64.ofInt i) else failHere (.outOfRange i "i64")
    | .real x => failHere (.mismatch (.real x) "i64")
  | n => refuse "i64" n

/-- The double nearest to an integer. -/
def Number.toReal : Number → Number.Binary64
  | .integer i => .ofNat (i < 0) i.natAbs
  | .real x => x

/-- Read a double; an integer is rounded to one. -/
def readReal : Reader Number.Binary64
  | .numeral m => Number.toReal <$> checked (numeralValue m)
  | n => refuse "f64" n

/-- Read a null where nothing else may stand. -/
def readNull : Reader Unit
  | .word .null none => .ok ()
  | n => refuse "unit" n

/-- Read a value that may be absent, spelled as null. -/
def readOption (r : Reader α) : Reader (Option α)
  | .word .null none => .ok none
  | .word .null (some f) => failSyntax f.error
  | n => some <$> r n

/-! ### Lists, pairs and maps -/

/-- Read the elements of a list from position `i` on. -/
def readItems (r : Reader α) (stop : Option ListFault) : Nat → List Node → Except Failure (List α)
  | _, [] =>
    match stop with
    | none => .ok []
    | some f => failSyntax f.reading
  | i, n :: rest => do
    let a ← inside (.index i) (r n)
    (a :: ·) <$> readItems r stop (i + 1) rest

/-- Read a list. -/
def readList (room : Nat) (r : Reader α) : Reader (List α)
  | .list items stop =>
    if room = 0 then failSyntax .nestingLimit else readItems r stop 0 items
  | n => refuse "a sequence" n

/-- Check that a list of fixed length ends after its last element. -/
def closeList : List Node → Option ListFault → Except Failure Unit
  | [], none => .ok ()
  | [], some f => failSyntax f.closing
  | _ :: _, _ => failSyntax .trailingCharacters

/-- Read a list of two elements; `wanted` names it in a refusal and `whole` when it is too short. -/
def readPair (wanted whole : String) (room : Nat) (r : Reader α) : Reader (α × α)
  | .list items stop =>
    if room = 0 then failSyntax .nestingLimit
    else
      match items, stop with
      | [], none => failHere (.tooShort 0 whole)
      | [], some f => failSyntax f.reading
      | [a], none => do
        let _ ← inside (.index 0) (r a)
        failHere (.tooShort 1 whole)
      | [a], some f => do
        let _ ← inside (.index 0) (r a)
        failSyntax f.reading
      | a :: b :: rest, stop => do
        let x ← inside (.index 0) (r a)
        let y ← inside (.index 1) (r b)
        closeList rest stop
        return (x, y)
  | n => refuse wanted n

/-- Read the name of a member. -/
def readName (q : Quoted) : Except Failure String := inside .unknown (checked q.content)

/-- The failure of an object that stops where the next member's name is looked for, or, once the
name is known and let through by `screen`, at its colon. -/
def readObjectFault (screen : String → Except Failure Unit) : ObjectFault → Except Failure α
  | .ended => inside .unknown (failSyntax .endInObject)
  | .endedAfterComma => inside .unknown (failSyntax .endInValue)
  | .trailingComma => inside .unknown (failSyntax .trailingComma)
  | .noComma => inside .unknown (failSyntax .expectedObjectEnd)
  | .keyNotString => inside .unknown (failSyntax .keyNotString)
  | .key q => do
    let _ ← readName q
    failSyntax .endInString
  | .colon q atEnd => do
    screen (← readName q)
    failSyntax (colonError atEnd)

/-- Read the members of a map on top of those already read. -/
def readEntries (r : Reader α) (stop : Option ObjectFault) (acc : OrderedMap String α) :
    List (Quoted × Node) → Except Failure (OrderedMap String α)
  | [] =>
    match stop with
    | none => .ok acc
    | some f => readObjectFault (fun _ => .ok ()) f
  | (k, n) :: rest => do
    let name ← readName k
    let a ← inside (.key name) (r n)
    readEntries r stop (acc.insert name a) rest

/-- Read a map. A repeated name keeps its first place and takes the last value. -/
def readMap (room : Nat) (r : Reader α) : Reader (OrderedMap String α)
  | .object members stop =>
    if room = 0 then failSyntax .nestingLimit else readEntries r stop .empty members
  | n => refuse "a map" n

/-! ### Whole texts -/

/-- Read the first value of a text. -/
def readBytes (r : Reader α) (bs : List UInt8) : Except Failure α := r (Node.ofBytes bs)

/-- Read the first value of a text in characters. -/
def readText (r : Reader α) (s : String) : Except Failure α := r (Node.ofString s)

end IdlLink.Json
