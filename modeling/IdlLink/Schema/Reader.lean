/-
Reading a schema out of a document.

Types and constants are tagged values; everything else is a record whose members are declared here
in the order in which the list spelling gives them. The readers of types and constants go down as
far as lists and objects may nest, one level of the recursion per level of nesting.
-/
import IdlLink.Json.Record
import IdlLink.Json.Tagged
import IdlLink.Schema.Basic

namespace IdlLink

open Json

/-- A string member. -/
def readPlainString : Reader String := readString "a string"

/-! ### Types and constants -/

/-- The tags of things that are named and have no content. -/
def bareTags {α : Type} (all : List α) (name : α → String) : Tags α :=
  all.map fun a => (name a, .none a)

/-- Read a built-in type. -/
def Primitive.read (room : Nat) : Reader Primitive :=
  readTagged room (bareTags Primitive.all Primitive.name)

/-- A reference to a type by name. -/
def typeRefShape : Shape String := .required "referenced_type" readPlainString (.done id)

/-- A reference to a value by name. -/
def valueRefShape : Shape String := .required "referenced_value" readPlainString (.done id)

/-- What a tag without its content is refused with when the content is a single value. -/
def singleContent : String := "newtype variant"

/-- The forms of a type, with room for `room` more levels in the content of the tag; `inner` reads a
type in that content and `element` one inside a list there. -/
def TypeExpr.forms (room : Nat) (inner element : Reader TypeExpr) : Tags TypeExpr :=
  [ ("primitive", .content singleContent fun n => TypeExpr.primitive <$> Primitive.read room n),
    ("list", .content singleContent fun n => TypeExpr.list <$> inner n),
    ("set", .content singleContent fun n => TypeExpr.set <$> inner n),
    ("map", .content "tuple variant" fun n =>
      (fun p => TypeExpr.map p.1 p.2) <$>
        readPair "tuple variant FieldType::Map" "tuple variant FieldType::Map with 2 elements"
          room element n),
    ("ref", .content singleContent fun n =>
      TypeExpr.named <$> readRecord "TypeRef" .skipped room typeRefShape n) ]

/-- Read a type. -/
def TypeExpr.read : Nat → Reader TypeExpr
  | 0 => readTagged 0 (TypeExpr.forms 0 noRoom noRoom)
  | 1 => readTagged 1 (TypeExpr.forms 0 (TypeExpr.read 0) noRoom)
  | room + 2 =>
    readTagged (room + 2) (TypeExpr.forms (room + 1) (TypeExpr.read (room + 1)) (TypeExpr.read room))

/-- The forms of a constant, with room for `room` more levels in the content of the tag; `element`
reads a constant in a list there and `entry` one in a pair of such a list. -/
def ConstExpr.forms (room : Nat) (element entry : Reader ConstExpr) : Tags ConstExpr :=
  [ ("bool", .content singleContent fun n => ConstExpr.bool <$> readBool n),
    ("int", .content singleContent fun n => ConstExpr.int <$> readInt64 n),
    ("double", .content singleContent fun n => ConstExpr.double <$> readReal n),
    ("string", .content singleContent fun n => ConstExpr.string <$> readPlainString n),
    ("list", .content singleContent fun n => ConstExpr.list <$> readList room element n),
    ("map", .content singleContent fun n =>
      ConstExpr.map <$>
        readList room
          (readPair "a tuple of size 2" "a tuple of size 2" (room - 1) entry) n),
    ("ref", .content singleContent fun n =>
      ConstExpr.named <$> readRecord "ValueRef" .skipped room valueRefShape n) ]

/-- Read a constant. -/
def ConstExpr.read : Nat → Reader ConstExpr
  | 0 => readTagged 0 (ConstExpr.forms 0 noRoom noRoom)
  | 1 => readTagged 1 (ConstExpr.forms 0 noRoom noRoom)
  | 2 => readTagged 2 (ConstExpr.forms 1 (ConstExpr.read 0) noRoom)
  | room + 3 =>
    readTagged (room + 3)
      (ConstExpr.forms (room + 2) (ConstExpr.read (room + 1)) (ConstExpr.read room))

/-! ### Declarations -/

/-- Read a record with members that nobody asked for skipped; `shape` is given the room inside. -/
def readDeclaration {α : Type} (title : String) (shape : Nat → Shape α) (room : Nat) : Reader α :=
  readRecord title .skipped room (shape (room - 1))

/-- The members of a field. -/
def Field.shape (room : Nat) : Shape Field :=
  .optional "id" (readOption readInt64) none <|
  .optional "required" (readTagged room (bareTags Requiredness.all Requiredness.name)) .default <|
  .required "type" (TypeExpr.read room) <|
  .required "name" readPlainString <|
  .optional "default" (readOption (ConstExpr.read room)) none <|
  .done fun default name type requiredness id => ⟨id, requiredness, type, name, default⟩

/-- Read a field. -/
def Field.read : Nat → Reader Field := readDeclaration "Field" Field.shape

/-- Read a list of fields. -/
def Field.readAll (room : Nat) : Reader (List Field) := readList room (Field.read (room - 1))

/-- The members of a record. -/
def Record.shape (room : Nat) : Shape Record :=
  .required "name" readPlainString <|
  .required "kind" (readTagged room (bareTags RecordKind.all RecordKind.name)) <|
  .optional "fields" (Field.readAll room) [] <|
  .done fun fields kind name => ⟨name, kind, fields⟩

/-- Read a record. -/
def Record.read : Nat → Reader Record := readDeclaration "Record" Record.shape

/-- The members of an enum member. -/
def EnumMember.shape (_room : Nat) : Shape EnumMember :=
  .required "name" readPlainString <|
  .required "value" readInt64 <|
  .done fun value name => ⟨name, value⟩

/-- Read an enum member. -/
def EnumMember.read : Nat → Reader EnumMember := readDeclaration "EnumValue" EnumMember.shape

/-- The members of an enum. -/
def Enumeration.shape (room : Nat) : Shape Enumeration :=
  .required "name" readPlainString <|
  .optional "values" (readList room (EnumMember.read (room - 1))) [] <|
  .done fun members name => ⟨name, members⟩

/-- Read an enum. -/
def Enumeration.read : Nat → Reader Enumeration := readDeclaration "TEnum" Enumeration.shape

/-- The members of a constant. -/
def Constant.shape (room : Nat) : Shape Constant :=
  .required "name" readPlainString <|
  .required "type" (TypeExpr.read room) <|
  .required "value" (ConstExpr.read room) <|
  .done fun value type name => ⟨name, type, value⟩

/-- Read a constant. -/
def Constant.read : Nat → Reader Constant := readDeclaration "Constant" Constant.shape

/-- The members of a function. -/
def Function.shape (room : Nat) : Shape Function :=
  .required "name" readPlainString <|
  .optional "oneway" readBool false <|
  .optional "return_type" (readOption (TypeExpr.read room)) none <|
  .optional "params" (Field.readAll room) [] <|
  .optional "exceptions" (Field.readAll room) [] <|
  .done fun exceptions params result oneway name => ⟨name, oneway, result, params, exceptions⟩

/-- Read a function. -/
def Function.read : Nat → Reader Function := readDeclaration "Function" Function.shape

/-- The members of a service. -/
def Service.shape (room : Nat) : Shape Service :=
  .required "name" readPlainString <|
  .optional "extends" (readOption readPlainString) none <|
  .optional "functions" (readMap room (Function.read (room - 1))) ∅ <|
  .done fun functions base name => ⟨name, base, functions⟩

/-- Read a service. -/
def Service.read : Nat → Reader Service := readDeclaration "Service" Service.shape

/-- The members of an include. -/
def includeShape (_room : Nat) : Shape String := .required "path" readPlainString (.done id)

/-- Read an include. -/
def readInclude : Nat → Reader String := readDeclaration "Include" includeShape

/-- The members of a namespace declaration. -/
def NamespaceDecl.shape (_room : Nat) : Shape NamespaceDecl :=
  .required "target" readPlainString <|
  .required "value" readPlainString <|
  .done fun value target => ⟨target, value⟩

/-- Read a namespace declaration. -/
def NamespaceDecl.read : Nat → Reader NamespaceDecl := readDeclaration "Namespace" NamespaceDecl.shape

/-- A category of declarations, which may be left out. -/
def category {α β : Type} (name : String) (read : Nat → Reader α) (room : Nat)
    (rest : Shape (OrderedMap String α → β)) : Shape β :=
  .optional name (readMap room (read (room - 1))) ∅ rest

/-- The members of a schema. -/
def Schema.shape (room : Nat) : Shape Schema :=
  .optional "includes" (readList room (readInclude (room - 1))) [] <|
  category "namespaces" NamespaceDecl.read room <|
  category "typedefs" TypeExpr.read room <|
  category "enums" Enumeration.read room <|
  category "structs" Record.read room <|
  category "unions" Record.read room <|
  category "exceptions" Record.read room <|
  category "services" Service.read room <|
  category "constants" Constant.read room <|
  .done fun constants services exceptions unions structs enums typedefs namespaces includes =>
    ⟨includes, namespaces, typedefs, enums, structs, unions, exceptions, services, constants⟩

/-- Read a schema. -/
def Schema.read : Nat → Reader Schema := readDeclaration "Schema" Schema.shape

/-- The schema that a text spells. -/
def Schema.ofBytes (bs : List UInt8) : Except Failure Schema :=
  readBytes (Schema.read maxNesting) bs

/-- The schema that a text in characters spells. -/
def Schema.ofText (s : String) : Except Failure Schema := readText (Schema.read maxNesting) s

end IdlLink
