/-
The forms of the documents that schemas and settings are read from.

What stands at a place of a document decides what may stand inside of it.  The tables here name the
members of every record, in the order in which a list gives them, and the tags of every tagged
value, each with the form of what is inside; they say nothing about how a document is read.
-/
import IdlLink.Json.Record

namespace IdlLink

open Json

/-- The records that documents hold. -/
inductive RecordForm where
  | typeRef
  | valueRef
  | field
  | record
  | enumMember
  | enumeration
  | constant
  | function
  | service
  | inclusion
  | namespaceDecl
  | schema
  | settings
  deriving DecidableEq

/-- The tagged values whose tags may have content. -/
inductive TagForm where
  | type
  | constant
  deriving DecidableEq

/-- What stands at a place of a document. A value that may be absent has the form it has when it is
there. -/
inductive Form where
  /-- A string, a number, a truth value or a tag without content. -/
  | plain
  | list (element : Form)
  /-- A list of two elements. -/
  | pair (element : Form)
  | map (value : Form)
  | tagged (form : TagForm)
  | record (form : RecordForm)
  deriving DecidableEq

/-- The members of each record in order of declaration. -/
def RecordForm.members : RecordForm → List (String × Form)
  | .typeRef => [("referenced_type", .plain)]
  | .valueRef => [("referenced_value", .plain)]
  | .field =>
    [("id", .plain), ("required", .plain), ("type", .tagged .type), ("name", .plain),
      ("default", .tagged .constant)]
  | .record => [("name", .plain), ("kind", .plain), ("fields", .list (.record .field))]
  | .enumMember => [("name", .plain), ("value", .plain)]
  | .enumeration => [("name", .plain), ("values", .list (.record .enumMember))]
  | .constant => [("name", .plain), ("type", .tagged .type), ("value", .tagged .constant)]
  | .function =>
    [("name", .plain), ("oneway", .plain), ("return_type", .tagged .type),
      ("params", .list (.record .field)), ("exceptions", .list (.record .field))]
  | .service => [("name", .plain), ("extends", .plain), ("functions", .map (.record .function))]
  | .inclusion => [("path", .plain)]
  | .namespaceDecl => [("target", .plain), ("value", .plain)]
  | .schema =>
    [("includes", .list (.record .inclusion)), ("namespaces", .map (.record .namespaceDecl)),
      ("typedefs", .map (.tagged .type)), ("enums", .map (.record .enumeration)),
      ("structs", .map (.record .record)), ("unions", .map (.record .record)),
      ("exceptions", .map (.record .record)), ("services", .map (.record .service)),
      ("constants", .map (.record .constant))]
  | .settings => [("include_paths", .list .plain), ("namespace", .plain), ("target", .plain)]

/-- The names of the members. -/
def RecordForm.names (r : RecordForm) : List String := r.members.map Prod.fst

/-- Settings refuse members that nobody declared; every other record skips them. -/
def RecordForm.extras : RecordForm → Extras
  | .settings => .refused
  | _ => .skipped

/-- What follows each tag. -/
def TagForm.contents : TagForm → List (String × Form)
  | .type =>
    [("primitive", .plain), ("list", .tagged .type), ("set", .tagged .type),
      ("map", .pair (.tagged .type)), ("ref", .record .typeRef)]
  | .constant =>
    [("bool", .plain), ("int", .plain), ("double", .plain), ("string", .plain),
      ("list", .list (.tagged .constant)), ("map", .list (.pair (.tagged .constant))),
      ("ref", .record .valueRef)]

theorem RecordForm.names_nodup (r : RecordForm) : r.names.Nodup := by cases r <;> decide

end IdlLink
