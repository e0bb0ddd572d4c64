/-
Declarations whose references are all resolved.

These are the forms of a schema's declarations after linking: a name is replaced by the entity that
it stands for, typedefs are gone, and every definition carries the destination of its generated
code.
-/
import IdlLink.Symbol

namespace IdlLink

/-- The module path of generated code, outermost segment first. -/
structure Destination where
  segments : List String
  deriving DecidableEq, Repr

/-- A destination with points between its segments. -/
def Destination.text (d : Destination) : String := String.intercalate "." d.segments

namespace Linked

/-- A type without names to look up. -/
inductive Ty where
  | primitive (p : Primitive)
  | list (of : Ty)
  | set (of : Ty)
  | map (key value : Ty)
  | named (entity : Entity)
  deriving DecidableEq, Repr

/-- The text of a type. -/
def Ty.text : Ty → String
  | primitive p => p.name
  | list t => "list<" ++ t.text ++ ">"
  | set t => "set<" ++ t.text ++ ">"
  | map k v => "map<" ++ k.text ++ "," ++ v.text ++ ">"
  | named e => e.name

/-- A constant without names to look up. -/
inductive Value where
  | bool (b : Bool)
  | int (i : Int64)
  | double (x : Number.Binary64)
  | string (s : String)
  | list (items : List Value)
  | map (entries : List (Value × Value))
  | named (entity : Entity)
  deriving Repr

/-- A resolved field. -/
structure Field where
  id : Option Int64
  name : String
  type : Ty
  requiredness : Requiredness
  default : Option Value
  deriving Repr

/-- A resolved function. -/
structure Function where
  name : String
  oneway : Bool
  result : Option Ty
  params : List Field
  exceptions : List Field
  deriving Repr

/-- A resolved record. -/
structure Record where
  name : String
  kind : RecordKind
  destination : Destination
  fields : List Field
  deriving Repr

/-- An enum with its destination. -/
structure Enumeration where
  name : String
  destination : Destination
  members : List EnumMember
  deriving Repr

/-- A resolved constant. -/
structure Constant where
  name : String
  type : Ty
  value : Value
  deriving Repr

/-- A resolved service. -/
structure Service where
  name : String
  destination : Destination
  base : Option Entity
  functions : List Function
  deriving Repr

/-- Everything that one module declares, resolved. -/
structure Module where
  name : String
  namespaceName : Option String
  constantsModule : Destination
  typedefs : List (String × Ty)
  enums : List Enumeration
  records : List Record
  constants : List Constant
  services : List Service
  deriving Repr

end Linked

end IdlLink
