/-
The spelling of a document does not change what it means.

Every reader of a declaration is put together from readers that respect other spellings, and types
and constants are read by induction on the room that is left.

* `TypeExpr.read_respects`, `ConstExpr.read_respects` — types and constants, by induction;
* `Field.read_respects`, …, `Schema.read_respects` — declarations, from their members;
* `spelling_keeps_meaning` — so texts that differ in spelling have one meaning.
-/
import IdlLink.Proofs.Documents
import IdlLink.Proofs.Respelling
import IdlLink.Schema.Reader
import IdlLink.Settings
import Mathlib.Logic.Relation

open Relation

namespace IdlLink

open Json

/-! ### Types and constants -/

theorem typeRefShape_follows : Follows typeRefShape RecordForm.typeRef.members :=
  .member (.plain _) (.done _)

theorem valueRefShape_follows : Follows valueRefShape RecordForm.valueRef.members :=
  .member (.plain _) (.done _)

theorem TypeExpr.forms_respect {inner element : Reader TypeExpr} (room : Nat)
    (hinner : Respects (.tagged .type) inner) (helement : Respects (.tagged .type) element) :
    ∀ name form, (name, form) ∈ TagForm.type.contents →
      ∀ p, Tags.find (TypeExpr.forms room inner element) name = .ok p → Respects form p.read := by
  intro name form hform p hp
  simp only [TagForm.contents, List.mem_cons, List.not_mem_nil, or_false, Prod.mk.injEq] at hform
  rcases hform with ⟨rfl, rfl⟩ | ⟨rfl, rfl⟩ | ⟨rfl, rfl⟩ | ⟨rfl, rfl⟩ | ⟨rfl, rfl⟩
  · exact .plain _
  · cases hp
    exact hinner.map _
  · cases hp
    exact hinner.map _
  · cases hp
    exact (helement.pair _ _ _).map _
  · cases hp
    exact (Respects.record typeRefShape_follows _ _).map _

theorem TypeExpr.read_respects : ∀ room, Respects (.tagged .type) (TypeExpr.read room)
  | 0 => .tagged 0 (forms_respect 0 (.noRoom _) (.noRoom _))
  | 1 => .tagged 1 (forms_respect 0 (read_respects 0) (.noRoom _))
  | room + 2 =>
    .tagged (room + 2) (forms_respect (room + 1) (read_respects (room + 1)) (read_respects room))

theorem ConstExpr.forms_respect {element entry : Reader ConstExpr} (room : Nat)
    (helement : Respects (.tagged .constant) element)
    (hentry : Respects (.tagged .constant) entry) :
    ∀ name form, (name, form) ∈ TagForm.constant.contents →
      ∀ p, Tags.find (ConstExpr.forms room element entry) name = .ok p → Respects form p.read := by
  intro name form hform p hp
  simp only [TagForm.contents, List.mem_cons, List.not_mem_nil, or_false, Prod.mk.injEq] at hform
  rcases hform with ⟨rfl, rfl⟩ | ⟨rfl, rfl⟩ | ⟨rfl, rfl⟩ | ⟨rfl, rfl⟩ | ⟨rfl, rfl⟩ | ⟨rfl, rfl⟩ |
    ⟨rfl, rfl⟩
  any_goals exact .plain _
  · cases hp
    exact (helement.list _).map _
  · cases hp
    exact ((hentry.pair _ _ _).list _).map _
  · cases hp
    exact (Respects.record valueRefShape_follows _ _).map _

theorem ConstExpr.read_respects : ∀ room, Respects (.tagged .constant) (ConstExpr.read room)
  | 0 => .tagged 0 (forms_respect 0 (.noRoom _) (.noRoom _))
  | 1 => .tagged 1 (forms_respect 0 (.noRoom _) (.noRoom _))
  | 2 => .tagged 2 (forms_respect 1 (read_respects 0) (.noRoom _))
  | room + 3 =>
    .tagged (room + 3) (forms_respect (room + 2) (read_respects (room + 1)) (read_respects room))

/-! ### Declarations -/

theorem Field.read_respects (room : Nat) : Respects (.record .field) (Field.read room) :=
  have h : Follows (Field.shape (room - 1)) RecordForm.field.members :=
    .member (.plain _) <| .member (.plain _) <| .member (TypeExpr.read_respects _) <|
      .member (.plain _) <| .member (ConstExpr.read_respects _).option <| .done _
  .record h _ _

theorem Field.readAll_respects (room : Nat) :
    Respects (.list (.record .field)) (Field.readAll room) :=
  (Field.read_respects _).list _

theorem Record.read_respects (room : Nat) : Respects (.record .record) (Record.read room) :=
  have h : Follows (Record.shape (room - 1)) RecordForm.record.members :=
    .member (.plain _) <| .member (.plain _) <| .member (Field.readAll_respects _) <| .done _
  .record h _ _

theorem EnumMember.read_respects (room : Nat) :
    Respects (.record .enumMember) (EnumMember.read room) :=
  have h : Follows (EnumMember.shape (room - 1)) RecordForm.enumMember.members :=
    .member (.plain _) <| .member (.plain _) <| .done _
  .record h _ _

theorem Enumeration.read_respects (room : Nat) :
    Respects (.record .enumeration) (Enumeration.read room) :=
  have h : Follows (Enumeration.shape (room - 1)) RecordForm.enumeration.members :=
    .member (.plain _) <| .member ((EnumMember.read_respects _).list _) <| .done _
  .record h _ _

theorem Constant.read_respects (room : Nat) : Respects (.record .constant) (Constant.read room) :=
  have h : Follows (Constant.shape (room - 1)) RecordForm.constant.members :=
    .member (.plain _) <| .member (TypeExpr.read_respects _) <|
      .member (ConstExpr.read_respects _) <| .done _
  .record h _ _

theorem Function.read_respects (room : Nat) : Respects (.record .function) (Function.read room) :=
  have h : Follows (Function.shape (room - 1)) RecordForm.function.members :=
    .member (.plain _) <| .member (.plain _) <| .member (TypeExpr.read_respects _).option <|
      .member (Field.readAll_respects _) <| .member (Field.readAll_respects _) <| .done _
  .record h _ _

theorem Service.read_respects (room : Nat) : Respects (.record .service) (Service.read room) :=
  have h : Follows (Service.shape (room - 1)) RecordForm.service.members :=
    .member (.plain _) <| .member (.plain _) <|
      .member ((Function.read_respects _).entries _) <| .done _
  .record h _ _

theorem readInclude_respects (room : Nat) : Respects (.record .inclusion) (readInclude room) :=
  have h : Follows (includeShape (room - 1)) RecordForm.inclusion.members :=
    .member (.plain _) <| .done _
  .record h _ _

theorem NamespaceDecl.read_respects (room : Nat) :
    Respects (.record .namespaceDecl) (NamespaceDecl.read room) :=
  have h : Follows (NamespaceDecl.shape (room - 1)) RecordForm.namespaceDecl.members :=
    .member (.plain _) <| .member (.plain _) <| .done _
  .record h _ _

theorem Schema.read_respects (room : Nat) : Respects (.record .schema) (Schema.read room) :=
  have h : Follows (Schema.shape (room - 1)) RecordForm.schema.members :=
    .member ((readInclude_respects _).list _) <|
    .member ((NamespaceDecl.read_respects _).entries _) <|
    .member ((TypeExpr.read_respects _).entries _) <|
    .member ((Enumeration.read_respects _).entries _) <|
    .member ((Record.read_respects _).entries _) <|
    .member ((Record.read_respects _).entries _) <|
    .member ((Record.read_respects _).entries _) <|
    .member ((Service.read_respects _).entries _) <|
    .member ((Constant.read_respects _).entries _) <| .done _
  .record h _ _

theorem Settings.read_respects (room : Nat) : Respects (.record .settings) (Settings.read room) :=
  have h : Follows (Settings.shape (room - 1)) RecordForm.settings.members :=
    .member ((Respects.plain _).list _) <| .member (.plain _) <| .member (.plain _) <| .done _
  .record h _ _

/-! ### Texts -/

variable {α : Type} {form : Form} {read : Reader α} {n n' : Node}

/-- Many changes of spelling make no more difference than one. -/
theorem Respects.star (h : Respects form read) (hn : ReflTransGen (Respelled form) n n') {a : α}
    (hread : read n = .ok a) : read n' = .ok a := by
  induction hn with
  | refl => exact hread
  | tail _ hlast ih => exact h hlast ih

theorem Respects.readText (h : Respects form read) {text text' : String} (htext : Spells n text)
    (htext' : Spells n' text') (hn : ReflTransGen (Respelled form) n n') {a : α}
    (hread : readText read text = .ok a) : readText read text' = .ok a := by
  rw [Json.readText, ofString_of_spells htext] at hread
  rw [Json.readText, ofString_of_spells htext']
  exact h.star hn hread

/-- **The spelling of a document does not change what it means.**  Two well-formed texts may differ
in space, and what they hold may differ by any number of changes of spelling: if the one is read as
a schema, the other one is read as the same schema, with the same orders.  So it is for settings,
where members that nobody asked for are no change of spelling. -/
theorem spelling_keeps_meaning {n n' : Node} {text text' : String} (h : Spells n text)
    (h' : Spells n' text') :
    (ReflTransGen (Respelled (.record .schema)) n n' →
      ∀ s, Schema.ofText text = .ok s → Schema.ofText text' = .ok s) ∧
    (ReflTransGen (Respelled (.record .settings)) n n' →
      ∀ s, Settings.ofText text = .ok s → Settings.ofText text' = .ok s) :=
  ⟨fun hn _ => (Schema.read_respects maxNesting).readText h h' hn,
    fun hn _ => (Settings.read_respects maxNesting).readText h h' hn⟩

/-- A type as a member of a file. -/
def idMember : String × Value :=
  ("typedefs", .object [("Id", .object [("primitive", .string "i64")])])

/-- A member of a file that nobody asked for. -/
def noteMember : String × Value := ("note", .object [("", .list [.null, .int (-1)])])

/-- One include as a member of a file. -/
def includesMember (v : Value) : String × Value := ("includes", .list [v])

/-- An include spelled with the name of its member. -/
def namedInclude : Value := .object [("path", .string "base")]

/-- The same include as a list. -/
def bareInclude : Value := .list [.string "base"]

/-- A file with an include and a type. -/
def plainSpelling : Value := .object [includesMember namedInclude, idMember]

/-- The same file with its members in another order, a note among them and the include as a list. -/
def oddSpelling : Value := .object [idMember, noteMember, includesMember bareInclude]

/-- Three changes lead from the one to the other. -/
theorem plainSpelling_respelled :
    ReflTransGen (Respelled (.record .schema)) plainSpelling.node oddSpelling.node := by
  have hreorder : Respelled (.record .schema) plainSpelling.node
      (Value.object [idMember, includesMember namedInclude]).node := .reorder (.swap _ _ _)
  have hnote : SpellsValue noteMember.2.node noteMember.2.compactChars :=
    spells_compactChars ⟨⟨trivial, trivial, trivial⟩, trivial⟩
  have henlarge : Respelled (.record .schema)
      (Value.object [idMember, includesMember namedInclude]).node
      (Value.object [idMember, noteMember, includesMember namedInclude]).node :=
    @Respelled.enlarge _ _ _ _ _ [_] _ rfl (content_of "note") (by decide) hnote
  have hinclude : Respelled (.record .inclusion) namedInclude.node bareInclude.node :=
    .positional (.refl _) (congrArg (fun c => [c]) (content_of "path"))
  have hincludes : Respelled (.list (.record .inclusion)) (Value.list [namedInclude]).node
      (Value.list [bareInclude]).node := @Respelled.element _ _ _ [] [] hinclude
  have hmember : Respelled (.record .schema)
      (Value.object [idMember, noteMember, includesMember namedInclude]).node oddSpelling.node :=
    @Respelled.member _ _ _ _ _ _ [_, _] [] (content_of "includes") List.mem_cons_self hincludes
  exact .tail (.tail (.single hreorder) henlarge) hmember

/-- Written on one line and on many, both are read as the same file. -/
theorem oddSpelling_keeps_meaning : ∃ s, s.includes = ["base"] ∧
    s.typedefs.entries = [("Id", .primitive .i64)] ∧
    Schema.ofText plainSpelling.compact = .ok s ∧ Schema.ofText oddSpelling.pretty = .ok s := by
  have hread : (Schema.ofText plainSpelling.compact).toOption.map
      (fun s => (s.includes, s.typedefs.entries)) = some (["base"], [("Id", .primitive .i64)]) := by
    decide +kernel
  have hplain : Spells plainSpelling.node plainSpelling.compact :=
    spells_compact ⟨⟨⟨trivial, trivial⟩, trivial⟩, ⟨⟨trivial, trivial⟩, trivial⟩, trivial⟩
  have hodd : Spells oddSpelling.node oddSpelling.pretty :=
    spells_pretty ⟨⟨⟨trivial, trivial⟩, trivial⟩, ⟨⟨trivial, trivial, trivial⟩, trivial⟩,
      ⟨⟨trivial, trivial⟩, trivial⟩, trivial⟩
  obtain ⟨s, hs, hparts⟩ := Option.map_eq_some_iff.1 hread
  obtain ⟨hincludes, htypes⟩ := Prod.mk.inj hparts
  have hs := toOption_eq_some_iff.1 hs
  exact ⟨s, hincludes, htypes, hs,
    (spelling_keeps_meaning hplain hodd).1 plainSpelling_respelled s hs⟩

end IdlLink
