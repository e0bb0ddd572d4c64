/-
Reading tagged values.

A tagged value is an object whose only member is the tag with its content, or, when there is no
content, the tag alone as a string. Every fault before the content belongs to the value itself.
-/
import IdlLink.Json.Reader

namespace IdlLink.Json

variable {α : Type}

/-- What follows a tag: nothing, or content that a reader reads. A tag that comes without its
content is refused with the words `wanted`. -/
inductive Payload (α : Type) where
  | none (value : α)
  | content (wanted : String) (read : Reader α)

/-- The alternatives of a tagged value, each under its tag. -/
abbrev Tags (α : Type) := List (String × Payload α)

/-- The payload of a tag. -/
def Tags.find (tags : Tags α) (name : String) : Except Failure (Payload α) :=
  match tags.find? fun t => t.1 = name with
  | some t => .ok t.2
  | none => failHere (.unknownTag name (tags.map Prod.fst))

/-- Read what follows a tag inside an object. -/
def Payload.read (p : Payload α) (n : Node) : Except Failure α :=
  match p with
  | .none value => do
    readNull n
    return value
  | .content _ read => read n

/-- Take a tag that stands alone. -/
def Payload.bare : Payload α → Except Failure α
  | .none value => .ok value
  | .content wanted _ => failHere (.mismatch .bareTag wanted)

/-- Check that the object of a tagged value ends after its content. -/
def closeTagged : List (Quoted × Node) → Option ObjectFault → Except Failure Unit
  | [], none => .ok ()
  | [], some .ended => failSyntax .endInObject
  | _, _ => failSyntax .expectedValue

/-- The failure of a tagged value whose object holds no member. -/
def readTagFault (tags : Tags α) : Option ObjectFault → Except Failure α
  | none => failSyntax .expectedValue
  | some (.key q) => do
    let _ ← checked q.content
    failSyntax .endInString
  | some (.colon q atEnd) => do
    let _ ← tags.find (← checked q.content)
    failSyntax (colonError atEnd)
  | some f => failSyntax f.skipping

/-- Read a tagged value: an object with the tag as its only member, or the tag alone as a string. -/
def readTagged (room : Nat) (tags : Tags α) : Reader α
  | .quoted q => do
    let name ← checked q.content
    let p ← tags.find name
    inside (.key name) p.bare
  | .object members stop =>
    if room = 0 then failSyntax .nestingLimit
    else
      match members with
      | [] => readTagFault tags stop
      | (k, n) :: rest => do
        let name ← checked k.content
        let p ← tags.find name
        let a ← inside (.key name) (p.read n)
        closeTagged rest stop
        return a
  | .missing => failSyntax .endInValue
  | _ => failSyntax .expectedValue

end IdlLink.Json
