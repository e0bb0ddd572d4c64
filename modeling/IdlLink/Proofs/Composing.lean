/-
Properties that readers have from the readers they are put together from.

Every reader of a document is made of a few plain readers in a few ways.  What the plain ones have and
no way of putting readers together loses, all of them have; so a property of the readers of schemas
and of settings needs one lemma for each of these ways, and none for each declaration.

* `Shape.All` — the members of a record are read by readers with a property;
* `Hereditary` — the plain readers have a property and larger ones keep it;
* `Hereditary.readType`, `Hereditary.readConst` — then types and constants have it, by induction on
  the room that is left;
* `Hereditary.readSchema`, `Hereditary.readSettings` — and so have the readers of whole documents.
-/
import IdlLink.Proofs.Forms
import IdlLink.Schema.Reader
import IdlLink.Settings
import Mathlib.Data.List.Nodup

namespace IdlLink

open Json

/-- Every member of a record is read by a reader with a property. -/
def Json.Shape.All (P : ∀ {β : Type}, Reader β → Prop) : {α : Type} → Shape α → Prop
  | _, .done _ => True
  | _, .member _ read _ rest => P read ∧ rest.All P

/-- The plain readers have a property, and every way of putting readers together keeps it. -/
structure Hereditary (P : ∀ {α : Type}, Reader α → Prop) : Prop where
  string (wanted : String) : P (readString wanted)
  bool : P readBool
  int64 : P readInt64
  real : P readReal
  noRoom (α : Type) : P (noRoom : Reader α)
  /-- A tag without content is told by its name alone. -/
  bare {α : Type} (a : α) : P (Payload.none a).read
  map {α β : Type} {read : Reader α} (f : α → β) : P read → P fun n => f <$> read n
  option {α : Type} {read : Reader α} : P read → P (readOption read)
  list {α : Type} {read : Reader α} (room : Nat) : P read → P (readList room read)
  pair {α : Type} {read : Reader α} (wanted whole : String) (room : Nat) :
    P read → P (readPair wanted whole room read)
  entries {α : Type} {read : Reader α} (room : Nat) : P read → P (readMap room read)
  tagged {α : Type} {tags : Tags α} (room : Nat) :
    (∀ t ∈ tags, P t.2.read) → P (readTagged room tags)
  record {α : Type} {shape : Shape α} (title : String) (extras : Extras) (room : Nat) :
    shape.names.Nodup → shape.All P → P (readRecord title extras room shape)

namespace Hereditary

variable {P : ∀ {α : Type}, Reader α → Prop} (h : Hereditary P)

include h

/-! ### Types and constants -/

theorem bareTags {α : Type} (all : List α) (name : α → String) (room : Nat) :
    P (readTagged room (bareTags all name)) := by
  refine h.tagged room fun t ht => ?_
  obtain ⟨a, _, rfl⟩ := List.mem_map.1 ht
  exact h.bare a

theorem plainString : P readPlainString := h.string _

theorem typeForms {inner element : Reader TypeExpr} (room : Nat) (hinner : P inner)
    (helement : P element) : ∀ t ∈ TypeExpr.forms room inner element, P t.2.read := by
  have href : typeRefShape.All P := ⟨h.plainString, trivial⟩
  intro t ht
  simp only [TypeExpr.forms, List.mem_cons, List.not_mem_nil, or_false] at ht
  rcases ht with rfl | rfl | rfl | rfl | rfl
  · exact h.map _ (h.bareTags _ _ room)
  · exact h.map _ hinner
  · exact h.map _ hinner
  · exact h.map _ (h.pair _ _ room helement)
  · exact h.map _ (h.record _ _ room (List.nodup_singleton _) href)

theorem readType : ∀ room, P (TypeExpr.read room)
  | 0 => h.tagged 0 (h.typeForms 0 (h.noRoom _) (h.noRoom _))
  | 1 => h.tagged 1 (h.typeForms 0 (readType 0) (h.noRoom _))
  | room + 2 => h.tagged (room + 2) (h.typeForms (room + 1) (readType (room + 1)) (readType room))

theorem constForms {element entry : Reader ConstExpr} (room : Nat) (helement : P element)
    (hentry : P entry) : ∀ t ∈ ConstExpr.forms room element entry, P t.2.read := by
  have href : valueRefShape.All P := ⟨h.plainString, trivial⟩
  intro t ht
  simp only [ConstExpr.forms, List.mem_cons, List.not_mem_nil, or_false] at ht
  rcases ht with rfl | rfl | rfl | rfl | rfl | rfl | rfl
  · exact h.map _ h.bool
  · exact h.map _ h.int64
  · exact h.map _ h.real
  · exact h.map _ h.plainString
  · exact h.map _ (h.list room helement)
  · exact h.map _ (h.list room (h.pair _ _ _ hentry))
  · exact h.map _ (h.record _ _ room (List.nodup_singleton _) href)

theorem readConst : ∀ room, P (ConstExpr.read room)
  | 0 => h.tagged 0 (h.constForms 0 (h.noRoom _) (h.noRoom _))
  | 1 => h.tagged 1 (h.constForms 0 (h.noRoom _) (h.noRoom _))
  | 2 => h.tagged 2 (h.constForms 1 (readConst 0) (h.noRoom _))
  | room + 3 => h.tagged (room + 3) (h.constForms (room + 2) (readConst (room + 1)) (readConst room))

/-! ### Declarations -/

theorem declaration {α : Type} {shape : Nat → Shape α} (r : RecordForm) (title : String)
    (hnames : ∀ room, (shape room).names = r.names) (hshape : ∀ room, (shape room).All P)
    (room : Nat) : P (readDeclaration title shape room) :=
  h.record title .skipped room (hnames _ ▸ r.names_nodup) (hshape _)

theorem readField : ∀ room, P (Field.read room) :=
  h.declaration .field _ (fun _ => rfl) fun room => ⟨h.option h.int64, h.bareTags _ _ room,
    h.readType room, h.plainString, h.option (h.readConst room), trivial⟩

theorem readFields (room : Nat) : P (Field.readAll room) := h.list room (h.readField _)

theorem readRecord : ∀ room, P (Record.read room) :=
  h.declaration .record _ (fun _ => rfl) fun room =>
    ⟨h.plainString, h.bareTags _ _ room, h.readFields room, trivial⟩

theorem readEnumMember : ∀ room, P (EnumMember.read room) :=
  h.declaration .enumMember _ (fun _ => rfl) fun _ => ⟨h.plainString, h.int64, trivial⟩

theorem readEnumeration : ∀ room, P (Enumeration.read room) :=
  h.declaration .enumeration _ (fun _ => rfl) fun room =>
    ⟨h.plainString, h.list room (h.readEnumMember _), trivial⟩

theorem readConstant : ∀ room, P (Constant.read room) :=
  h.declaration .constant _ (fun _ => rfl) fun room =>
    ⟨h.plainString, h.readType room, h.readConst room, trivial⟩

theorem readFunction : ∀ room, P (Function.read room) :=
  h.declaration .function _ (fun _ => rfl) fun room => ⟨h.plainString, h.bool,
    h.option (h.readType room), h.readFields room, h.readFields room, trivial⟩

theorem readService : ∀ room, P (Service.read room) :=
  h.declaration .service _ (fun _ => rfl) fun room =>
    ⟨h.plainString, h.option h.plainString, h.entries room (h.readFunction _), trivial⟩

theorem readInclusion : ∀ room, P (readInclude room) :=
  h.declaration .inclusion _ (fun _ => rfl) fun _ => ⟨h.plainString, trivial⟩

theorem readNamespace : ∀ room, P (NamespaceDecl.read room) :=
  h.declaration .namespaceDecl _ (fun _ => rfl) fun _ => ⟨h.plainString, h.plainString, trivial⟩

/-! ### Whole documents -/

theorem readSchema : ∀ room, P (Schema.read room) :=
  h.declaration .schema _ (fun _ => rfl) fun room =>
    ⟨h.list room (h.readInclusion _), h.entries room (h.readNamespace _),
      h.entries room (h.readType _), h.entries room (h.readEnumeration _),
      h.entries room (h.readRecord _), h.entries room (h.readRecord _),
      h.entries room (h.readRecord _), h.entries room (h.readService _),
      h.entries room (h.readConstant _), trivial⟩

theorem readSettings (room : Nat) : P (Settings.read room) := by
  have hnames : (Settings.shape (room - 1)).names = RecordForm.settings.names := rfl
  exact h.record _ .refused room (hnames ▸ RecordForm.settings.names_nodup)
    ⟨h.list _ (h.string _), h.option (h.string _), h.string _, trivial⟩

end Hereditary

end IdlLink
