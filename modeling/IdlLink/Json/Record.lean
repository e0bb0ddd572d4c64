/-
Reading records.

A record may be spelled as an object, with its members in any order and with others that nobody asked
for, or as a list of its members in the order of their declaration. `Shape` declares the members once
for both spellings.
-/
import IdlLink.Json.Reader

namespace IdlLink.Json

variable {α β : Type}

/-- The members of a record in order of declaration: name, reader, and the value of a member that is
left out, if it may be. The function at the end takes the members' values, the last member first. -/
inductive Shape : Type → Type 1 where
  | done {α : Type} (value : α) : Shape α
  | member {α β : Type} (name : String) (read : Reader β) (fallback : Option β)
      (rest : Shape (β → α)) : Shape α

/-- A member that must be there. -/
def Shape.required (name : String) (read : Reader β) (rest : Shape (β → α)) : Shape α :=
  .member name read none rest

/-- A member that may be left out. -/
def Shape.optional (name : String) (read : Reader β) (fallback : β) (rest : Shape (β → α)) :
    Shape α :=
  .member name read (some fallback) rest

/-- The names of the members. -/
def Shape.names : {α : Type} → Shape α → List String
  | _, .done _ => []
  | _, .member name _ _ rest => name :: rest.names

/-- What has been read of a record: for each member its value, once it was there. -/
def Shape.Slots : {α : Type} → Shape α → Type
  | _, .done _ => Unit
  | _, @Shape.member _ β _ _ _ rest => Option β × rest.Slots

/-- Nothing has been read yet. -/
def Shape.noSlots : {α : Type} → (shape : Shape α) → shape.Slots
  | _, .done _ => ()
  | _, .member _ _ _ rest => (none, rest.noSlots)

/-- Read a node into the slot of a name; nothing when no member has that name. -/
def Shape.fill (name : String) (n : Node) :
    {α : Type} → (shape : Shape α) → shape.Slots → Option (Except Failure shape.Slots)
  | _, .done _, _ => none
  | _, .member own read _ rest, slots =>
    if own = name then some ((fun b => (some b, slots.2)) <$> read n)
    else (rest.fill name n slots.2).map fun r => (fun t => (slots.1, t)) <$> r

/-- Whether the slot of a name is filled; nothing when no member has that name. -/
def Shape.isFilled (name : String) : {α : Type} → (shape : Shape α) → shape.Slots → Option Bool
  | _, .done _, _ => none
  | _, .member own _ _ rest, slots =>
    if own = name then some slots.1.isSome else rest.isFilled name slots.2

/-- The record once all members are read; members left out take their fallback, and the first that
has none is named. -/
def Shape.finish : {α : Type} → (shape : Shape α) → shape.Slots → Except Failure α
  | _, .done value, _ => .ok value
  | _, .member name _ fallback rest, slots =>
    match slots.1.or fallback with
    | none => failHere (.missingMember name)
    | some b => (· b) <$> rest.finish slots.2

/-- Whether members that nobody declared are skipped or refused. -/
inductive Extras where
  | skipped
  | refused
  deriving DecidableEq, Repr

/-- Let a member's name through, unless it was there before or is not declared and refused. The
answer says whether the member is declared. -/
def Shape.screen (extras : Extras) (shape : Shape α) (slots : shape.Slots) (name : String) :
    Except Failure Bool :=
  match shape.isFilled name slots with
  | some true => failHere (.duplicateMember name)
  | some false => .ok true
  | none =>
    match extras with
    | .skipped => .ok false
    | .refused => inside (.key name) (failHere (.unknownMember name shape.names))

/-- Read a member under its name, or skip over one that is not declared. -/
def Shape.take (extras : Extras) (shape : Shape α) (slots : shape.Slots) (name : String)
    (n : Node) : Except Failure shape.Slots := do
  if ← shape.screen extras slots name then
    inside (.key name) ((shape.fill name n slots).getD (.ok slots))
  else
    inside (.key name) (checked n.skip)
    return slots

/-- Read the members of an object into a record. -/
def Shape.readMembers (extras : Extras) (stop : Option ObjectFault) (shape : Shape α)
    (slots : shape.Slots) : List (Quoted × Node) → Except Failure α
  | [] =>
    match stop with
    | none => shape.finish slots
    | some f => readObjectFault (fun name => (fun _ => ()) <$> shape.screen extras slots name) f
  | (k, n) :: rest => do
    let name ← readName k
    let slots' ← shape.take extras slots name n
    Shape.readMembers extras stop shape slots' rest

/-- Read the elements of a list, from position `i` on, as the members of a record in order. -/
def Shape.readPositions (whole : String) (stop : Option ListFault) :
    {α : Type} → Nat → List Node → Shape α → Except Failure α
  | _, _, items, .done value => do
    closeList items stop
    return value
  | _, i, [], .member _ _ fallback rest =>
    match stop, fallback with
    | some f, _ => failSyntax f.reading
    | none, none => failHere (.tooShort i whole)
    | none, some b => (· b) <$> Shape.readPositions whole stop (i + 1) [] rest
  | _, i, n :: items, .member _ read _ rest => do
    let b ← inside (.index i) (read n)
    (· b) <$> Shape.readPositions whole stop (i + 1) items rest

/-- How a message counts the elements of a record. -/
def elementCount (n : Nat) : String :=
  if n = 1 then "1 element" else Number.decimal n ++ " elements"

/-- Read a record. `title` is its name in messages. -/
def readRecord (title : String) (extras : Extras) (room : Nat) (shape : Shape α) : Reader α
  | .object members stop =>
    if room = 0 then failSyntax .nestingLimit else shape.readMembers extras stop shape.noSlots members
  | .list items stop =>
    if room = 0 then failSyntax .nestingLimit
    else
      shape.readPositions ("struct " ++ title ++ " with " ++ elementCount shape.names.length)
        stop 0 items
  | n => refuse ("struct " ++ title) n

end IdlLink.Json
