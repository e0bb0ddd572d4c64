/-
Writing a schema as a document.

Every member is written, in the order of its declaration; maps are objects in the order of their
keys, and what is absent is null.
-/
import IdlLink.Json.Value
import IdlLink.Schema.Basic

namespace IdlLink

open Json (Value)

/-- A type as a document. -/
def TypeExpr.toJson : TypeExpr → Value
  | .primitive p => .tagged "primitive" (.string p.name)
  | .list t => .tagged "list" t.toJson
  | .set t => .tagged "set" t.toJson
  | .map k v => .tagged "map" (.list [k.toJson, v.toJson])
  | .named n => .tagged "ref" (.object [("referenced_type", .string n)])

mutual

/-- A constant as a document. -/
def ConstExpr.toJson : ConstExpr → Value
  | .bool b => .tagged "bool" (.bool b)
  | .int i => .tagged "int" (.int i.toInt)
  | .double x => .tagged "double" (.real x)
  | .string s => .tagged "string" (.string s)
  | .list items => .tagged "list" (.list (ConstExpr.itemsToJson items))
  | .map entries => .tagged "map" (.list (ConstExpr.entriesToJson entries))
  | .named n => .tagged "ref" (.object [("referenced_value", .string n)])

/-- The elements of a list of constants. -/
def ConstExpr.itemsToJson : List ConstExpr → List Value
  | [] => []
  | c :: rest => c.toJson :: ConstExpr.itemsToJson rest

/-- The entries of a map of constants, each a list of two. -/
def ConstExpr.entriesToJson : List (ConstExpr × ConstExpr) → List Value
  | [] => []
  | (k, v) :: rest => .list [k.toJson, v.toJson] :: ConstExpr.entriesToJson rest

end

/-- An integer of 64 bits as a document. -/
def int64ToJson (i : Int64) : Value := .int i.toInt

/-- A map as an object, in the order of its keys. -/
def OrderedMap.toJson {α : Type} (f : α → Value) (m : OrderedMap String α) : Value :=
  .object (m.entries.map fun e => (e.1, f e.2))

/-- A field as a document. -/
def Field.toJson (f : Field) : Value :=
  .object [
    ("id", .option int64ToJson f.id),
    ("required", .string f.requiredness.name),
    ("type", f.type.toJson),
    ("name", .string f.name),
    ("default", .option ConstExpr.toJson f.default)]

/-- A record as a document. -/
def Record.toJson (r : Record) : Value :=
  .object [
    ("name", .string r.name),
    ("kind", .string r.kind.name),
    ("fields", .list (r.fields.map Field.toJson))]

/-- An enum member as a document. -/
def EnumMember.toJson (m : EnumMember) : Value :=
  .object [("name", .string m.name), ("value", int64ToJson m.value)]

/-- An enum as a document. -/
def Enumeration.toJson (e : Enumeration) : Value :=
  .object [("name", .string e.name), ("values", .list (e.members.map EnumMember.toJson))]

/-- A constant declaration as a document. -/
def Constant.toJson (c : Constant) : Value :=
  .object [("name", .string c.name), ("type", c.type.toJson), ("value", c.value.toJson)]

/-- A function as a document. -/
def Function.toJson (f : Function) : Value :=
  .object [
    ("name", .string f.name),
    ("oneway", .bool f.oneway),
    ("return_type", .option TypeExpr.toJson f.result),
    ("params", .list (f.params.map Field.toJson)),
    ("exceptions", .list (f.exceptions.map Field.toJson))]

/-- A service as a document. -/
def Service.toJson (s : Service) : Value :=
  .object [
    ("name", .string s.name),
    ("extends", .option .string s.base),
    ("functions", s.functions.toJson Function.toJson)]

/-- A namespace declaration as a document. -/
def NamespaceDecl.toJson (n : NamespaceDecl) : Value :=
  .object [("target", .string n.target), ("value", .string n.value)]

/-- An include as a document. -/
def includeToJson (path : String) : Value := .object [("path", .string path)]

/-- A schema as a document. -/
def Schema.toJson (s : Schema) : Value :=
  .object [
    ("includes", .list (s.includes.map includeToJson)),
    ("namespaces", s.namespaces.toJson NamespaceDecl.toJson),
    ("typedefs", s.typedefs.toJson TypeExpr.toJson),
    ("enums", s.enums.toJson Enumeration.toJson),
    ("structs", s.structs.toJson Record.toJson),
    ("unions", s.unions.toJson Record.toJson),
    ("exceptions", s.exceptions.toJson Record.toJson),
    ("services", s.services.toJson Service.toJson),
    ("constants", s.constants.toJson Constant.toJson)]

/-- A schema as a text. -/
def Schema.toText (s : Schema) : String := s.toJson.compact

end IdlLink
