/-
The declaration behind an entity.
-/
import IdlLink.Workspace.Basic

namespace IdlLink

/-- The declaration that an entity names. -/
inductive Definition where
  | record (r : Record)
  | enum (e : Enumeration)
  | enumMember (e : Enumeration) (m : EnumMember)
  | service (s : Service)
  | constant (c : Constant)

/-- The declaration of a local name in the category of a kind. -/
def Schema.definition? (s : Schema) (kind : EntityKind) (name : String) : Option Definition :=
  match kind with
  | .record .struct => (s.structs.get? name).map .record
  | .record .union => (s.unions.get? name).map .record
  | .record .exception => (s.exceptions.get? name).map .record
  | .enum => (s.enums.get? name).map .enum
  | .enumMember _ => do
    let (enumName, member) ← Text.splitOnce '.' name
    let e ← s.enums.get? enumName
    let m ← e.member? member
    return .enumMember e m
  | .service => (s.services.get? name).map .service
  | .constant => (s.constants.get? name).map .constant

/-- The declaration that an entity names, if a module of the workspace has it. -/
def Workspace.definition? (w : Workspace) (e : Entity) : Option Definition := do
  let (module, name) ← Text.splitOnce '.' e.name
  let schema ← w.schemas.get? module
  schema.definition? e.kind name

end IdlLink
