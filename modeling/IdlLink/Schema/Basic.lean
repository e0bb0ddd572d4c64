/-
One IDL file as its declarations state it.

A `Schema` keeps every category of declarations in the order of the file. Types and constants refer
to other declarations by name only, spelled as at the place of use; what a name means is decided
later, by the scope that the place belongs to. The functions at the end assemble a schema by hand.
-/
import IdlLink.Number.Binary64
import IdlLink.OrderedMap

namespace IdlLink

/-- The types that are built in. -/
inductive Primitive where
  | bool
  | byte
  | i8
  | i16
  | i32
  | i64
  | double
  | string
  | binary
  deriving DecidableEq, Repr

/-- All built-in types. -/
def Primitive.all : List Primitive :=
  [.bool, .byte, .i8, .i16, .i32, .i64, .double, .string, .binary]

/-- The name of a built-in type. -/
def Primitive.name : Primitive → String
  | .bool => "bool"
  | .byte => "byte"
  | .i8 => "i8"
  | .i16 => "i16"
  | .i32 => "i32"
  | .i64 => "i64"
  | .double => "double"
  | .string => "string"
  | .binary => "binary"

/-- A type as it is written. -/
inductive TypeExpr where
  | primitive (p : Primitive)
  | list (of : TypeExpr)
  | set (of : TypeExpr)
  | map (key value : TypeExpr)
  /-- A name that stands for a declared type. -/
  | named (name : String)
  deriving DecidableEq, Repr

/-- A constant value as it is written. -/
inductive ConstExpr where
  | bool (b : Bool)
  | int (i : Int64)
  | double (x : Number.Binary64)
  | string (s : String)
  | list (items : List ConstExpr)
  | map (entries : List (ConstExpr × ConstExpr))
  /-- A name that stands for an enum member or a constant. -/
  | named (name : String)
  deriving Repr

/-- Whether a field has to be set. -/
inductive Requiredness where
  | required
  | optional
  | default
  deriving DecidableEq, Repr

/-- All degrees of requiredness. -/
def Requiredness.all : List Requiredness := [.required, .optional, .default]

/-- The name of a degree of requiredness. -/
def Requiredness.name : Requiredness → String
  | .required => "required"
  | .optional => "optional"
  | .default => "default"

/-- A field of a record, or a parameter or exception of a function. -/
structure Field where
  id : Option Int64
  requiredness : Requiredness
  type : TypeExpr
  name : String
  default : Option ConstExpr
  deriving Repr

/-- The role of a record. -/
inductive RecordKind where
  | struct
  | union
  | exception
  deriving DecidableEq, Repr

/-- All roles of records. -/
def RecordKind.all : List RecordKind := [.struct, .union, .exception]

/-- The name of a role. -/
def RecordKind.name : RecordKind → String
  | .struct => "struct"
  | .union => "union"
  | .exception => "exception"

/-- A struct, union or exception: they share one form and differ in their role. -/
structure Record where
  name : String
  kind : RecordKind
  fields : List Field
  deriving Repr

/-- A member of an enum with its number. -/
structure EnumMember where
  name : String
  value : Int64
  deriving DecidableEq, Repr

/-- An enum. -/
structure Enumeration where
  name : String
  members : List EnumMember
  deriving DecidableEq, Repr

/-- A constant with its declared type. -/
structure Constant where
  name : String
  type : TypeExpr
  value : ConstExpr
  deriving Repr

/-- A function of a service; without a result type it returns nothing. -/
structure Function where
  name : String
  oneway : Bool
  result : Option TypeExpr
  params : List Field
  exceptions : List Field
  deriving Repr

/-- A service with its functions, and the name of the service it extends. -/
structure Service where
  name : String
  base : Option String
  functions : OrderedMap String Function

/-- The namespace that a file declares for a generation target. -/
structure NamespaceDecl where
  target : String
  value : String
  deriving DecidableEq, Repr

/-- The declarations of one file. -/
structure Schema where
  /-- The paths of the included files, as they are written. -/
  includes : List String
  namespaces : OrderedMap String NamespaceDecl
  typedefs : OrderedMap String TypeExpr
  enums : OrderedMap String Enumeration
  structs : OrderedMap String Record
  unions : OrderedMap String Record
  exceptions : OrderedMap String Record
  services : OrderedMap String Service
  constants : OrderedMap String Constant

namespace Schema

/-- A file without declarations. -/
def empty : Schema := ⟨[], ∅, ∅, ∅, ∅, ∅, ∅, ∅, ∅⟩

instance : Inhabited Schema := ⟨empty⟩

/-! ### Reading declarations -/

/-- The declared namespace for a generation target. -/
def namespaceFor (s : Schema) (target : String) : Option String :=
  (s.namespaces.get? target).map NamespaceDecl.value

/-- The record of a name: a struct, else a union, else an exception. -/
def record? (s : Schema) (name : String) : Option Record :=
  (s.structs.get? name).or ((s.unions.get? name).or (s.exceptions.get? name))

/-- The names that a constants module must not nearly repeat, in the order in which they are
compared with it. -/
def typeNames (s : Schema) : List String :=
  s.enums.keys ++ s.exceptions.keys ++ s.structs.keys ++ s.services.keys ++ s.unions.keys

end Schema

/-! ### Enums -/

/-- The number after a member's: one more, or the same at the top of the range. -/
def nextMemberValue (v : Int64) : Int64 := if v = Int64.maxValue then v else v + 1

/-- Number members from `next` on; an explicit number restarts the count. -/
def numberMembers (next : Int64) : List (String × Option Int64) → List EnumMember
  | [] => []
  | (name, explicit) :: rest =>
    let v := explicit.getD next
    ⟨name, v⟩ :: numberMembers (nextMemberValue v) rest

namespace Enumeration

/-- The enum of some members; one without a number continues from the member before it, and the
first such member is zero. -/
def ofMembers (name : String) (members : List (String × Option Int64)) : Enumeration :=
  ⟨name, numberMembers 0 members⟩

/-- The first member of a name. -/
def member? (e : Enumeration) (name : String) : Option EnumMember :=
  e.members.find? fun m => m.name = name

end Enumeration

/-! ### Assembling a file -/

namespace Schema

/-- Include a path. -/
def addInclude (s : Schema) (path : String) : Schema := { s with includes := s.includes ++ [path] }

/-- Declare a namespace for a target. -/
def addNamespace (s : Schema) (target value : String) : Schema :=
  { s with namespaces := s.namespaces.insert target ⟨target, value⟩ }

/-- Declare a typedef. -/
def addTypedef (s : Schema) (name : String) (type : TypeExpr) : Schema :=
  { s with typedefs := s.typedefs.insert name type }

/-- Declare an enum. -/
def addEnum (s : Schema) (e : Enumeration) : Schema := { s with enums := s.enums.insert e.name e }

/-- Declare a record in the category of its role. -/
def addRecord (s : Schema) (r : Record) : Schema :=
  match r.kind with
  | .struct => { s with structs := s.structs.insert r.name r }
  | .union => { s with unions := s.unions.insert r.name r }
  | .exception => { s with exceptions := s.exceptions.insert r.name r }

/-- Declare a service. -/
def addService (s : Schema) (v : Service) : Schema :=
  { s with services := s.services.insert v.name v }

/-- Declare a constant. -/
def addConstant (s : Schema) (c : Constant) : Schema :=
  { s with constants := s.constants.insert c.name c }

end Schema

end IdlLink
