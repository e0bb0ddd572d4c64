/-
Writing resolved declarations as documents.
-/
import IdlLink.Linked.Basic
import IdlLink.Schema.Writer

namespace IdlLink

open Json (Value)

/-- The kind of a definition as a document. -/
def EntityKind.toJson : EntityKind → Value
  | .record k => .tagged "record" (.string k.name)
  | .enum => .string "enum"
  | .enumMember v => .tagged "enum_value" (.object [("value", int64ToJson v)])
  | .service => .string "service"
  | .constant => .string "constant"

/-- A definition as a document. -/
def Entity.toJson (e : Entity) : Value :=
  .object [("name", .string e.name), ("kind", e.kind.toJson)]

/-- A symbol as a document. -/
def Symbol.toJson : Symbol → Value
  | .alias m t => .tagged "alias" (.object [("module", .string m), ("target", t.toJson)])
  | .definition e => .tagged "definition" e.toJson

/-- A destination as a document. -/
def Destination.toJson (d : Destination) : Value := .strings d.segments

namespace Linked

/-- A resolved type as a document. -/
def Ty.toJson : Ty → Json.Value
  | .primitive p => .tagged "primitive" (.string p.name)
  | .list t => .tagged "list" t.toJson
  | .set t => .tagged "set" t.toJson
  | .map k v => .tagged "map" (.list [k.toJson, v.toJson])
  | .named e => .tagged "named" e.toJson

mutual

/-- A resolved constant as a document. -/
def Value.toJson : Value → Json.Value
  | .bool b => .tagged "bool" (.bool b)
  | .int i => .tagged "int" (.int i.toInt)
  | .double x => .tagged "double" (.real x)
  | .string s => .tagged "string" (.string s)
  | .list items => .tagged "list" (.list (Value.itemsToJson items))
  | .map entries => .tagged "map" (.list (Value.entriesToJson entries))
  | .named e => .tagged "named" e.toJson

/-- The elements of a list of resolved constants. -/
def Value.itemsToJson : List Value → List Json.Value
  | [] => []
  | v :: rest => v.toJson :: Value.itemsToJson rest

/-- The entries of a map of resolved constants, each a list of two. -/
def Value.entriesToJson : List (Value × Value) → List Json.Value
  | [] => []
  | (k, v) :: rest => .list [k.toJson, v.toJson] :: Value.entriesToJson rest

end

/-- A resolved field as a document. -/
def Field.toJson (f : Field) : Json.Value :=
  .object [
    ("id", .option int64ToJson f.id),
    ("name", .string f.name),
    ("type", f.type.toJson),
    ("required", .string f.requiredness.name),
    ("default", .option Value.toJson f.default)]

/-- A resolved function as a document. -/
def Function.toJson (f : Function) : Json.Value :=
  .object [
    ("name", .string f.name),
    ("oneway", .bool f.oneway),
    ("return_type", .option Ty.toJson f.result),
    ("params", .list (f.params.map Field.toJson)),
    ("exceptions", .list (f.exceptions.map Field.toJson))]

/-- A resolved record as a document. -/
def Record.toJson (r : Record) : Json.Value :=
  .object [
    ("name", .string r.name),
    ("kind", .string r.kind.name),
    ("dest", r.destination.toJson),
    ("fields", .list (r.fields.map Field.toJson))]

/-- An enum with its destination as a document. -/
def Enumeration.toJson (e : Enumeration) : Json.Value :=
  .object [
    ("name", .string e.name),
    ("dest", e.destination.toJson),
    ("values", .list (e.members.map EnumMember.toJson))]

/-- A resolved constant declaration as a document. -/
def Constant.toJson (c : Constant) : Json.Value :=
  .object [("name", .string c.name), ("type", c.type.toJson), ("value", c.value.toJson)]

/-- A resolved service as a document. -/
def Service.toJson (s : Service) : Json.Value :=
  .object [
    ("name", .string s.name),
    ("dest", s.destination.toJson),
    ("extends", .option Entity.toJson s.base),
    ("functions", .list (s.functions.map Function.toJson))]

/-- A resolved typedef: its name and its type. -/
def typedefToJson (t : String × Ty) : Json.Value := .list [.string t.1, t.2.toJson]

/-- A resolved module as a document. -/
def Module.toJson (m : Module) : Json.Value :=
  .object [
    ("name", .string m.name),
    ("namespace", .option .string m.namespaceName),
    ("constants_module", m.constantsModule.toJson),
    ("typedefs", .list (m.typedefs.map typedefToJson)),
    ("enums", .list (m.enums.map Enumeration.toJson)),
    ("records", .list (m.records.map Record.toJson)),
    ("constants", .list (m.constants.map Constant.toJson)),
    ("services", .list (m.services.map Service.toJson))]

end Linked

end IdlLink
