/-
The failures of schemas and settings point at what they are about.

No plain reader and no way of putting readers together loses a step of the path or adds one, so no
reader of a document does.

* `locates_hereditary` — larger readers locate their failures when those they are put together from
  do;
* `failures_point_at_nodes` — so a failure leads to a node that it describes, or to an object
  without the member that it misses.
-/
import IdlLink.Proofs.Composing
import IdlLink.Proofs.Documents
import IdlLink.Proofs.Locating

namespace IdlLink

open Json

/-! ### Readers -/

theorem allLocate_of_all {α : Type} {shape : Shape α} (h : shape.All Locates) :
    shape.AllLocate := by
  induction shape with
  | done value => exact .done value
  | member name read fallback rest ih => exact .member h.1 (ih h.2)

theorem locates_hereditary : Hereditary Locates where
  string := .string
  bool := .bool
  int64 := .int64
  real := .real
  noRoom _ := .noRoom
  bare _ := .payload fun _ _ h => nomatch h
  map f h := h.map f
  option h := h.option
  list room h := h.list room
  pair wanted whole room h := h.pair wanted whole room
  entries room h := h.entries room
  tagged room h := .tagged h room
  record title extras room hnames h := .record (allLocate_of_all h) hnames title extras room

theorem Schema.read_locates : ∀ room, Locates (Schema.read room) := locates_hereditary.readSchema

theorem Settings.read_locates : ∀ room, Locates (Settings.read room) :=
  locates_hereditary.readSettings

/-! ### Texts -/

/-- **A failure to read a document points at what it is about.**  When a well-formed text is not
read as a schema or as settings because something else was wanted, the path leads from the root to a
node that the message describes; when a member is missing, it leads to an object without that
member. -/
theorem failures_point_at_nodes {n : Node} {text : String} {f : Failure} (h : Spells n text)
    (hf : Schema.ofText text = .error f ∨ Settings.ofText text = .error f) :
    (∀ found wanted, f.problem = .mismatch found wanted → found ≠ .bareTag →
      ∃ m, n.At f.path m ∧ found.Describes m) ∧
    ∀ name, f.problem = .missingMember name →
      ∃ ms, n.At f.path (.object ms none) ∧ ∀ m ∈ ms, m.1.content ≠ .ok name := by
  have hpoints : f.PointsInto n := by
    rw [← ofString_of_spells h]
    rcases hf with hf | hf
    · exact Schema.read_locates maxNesting _ hf
    · exact Settings.read_locates maxNesting _ hf
  exact ⟨fun _ _ => hpoints.mismatch, fun _ => hpoints.missing⟩

/-- A file whose only struct has a field with a number for its name. -/
def numberedField : Value :=
  .object [("structs", .object [("P", .object [("name", .string "P"), ("kind", .string "struct"),
    ("fields", .list [.object [("type", .object [("set", .object [("primitive", .string "i32")])]),
      ("name", .int 7)]])])])]

/-- A file whose only constant maps a reference without a name to a number. -/
def namelessReference : Value :=
  .object [("constants", .object [("C", .object [("name", .string "C"),
    ("type", .object [("primitive", .string "i32")]),
    ("value", .object [("map", .list [.list [.object [("ref", .object [])],
      .object [("int", .int 1)]]])])])])]

/-- The one is refused at the number and the other one at the reference. -/
theorem bad_documents_pointed_at :
    (∃ f, Schema.ofText numberedField.compact = .error f ∧
      f.message = "at JSON path structs.P.fields[0].name → " ++
        "invalid type: integer `7`, expected a string" ∧
      ∃ m, numberedField.node.At f.path m ∧ (Found.integer 7).Describes m) ∧
    ∃ f, Schema.ofText namelessReference.compact = .error f ∧
      f.message = "at JSON path constants.C.value.map[0][0].ref → " ++
        "missing field `referenced_value`" ∧
      ∃ ms, namelessReference.node.At f.path (.object ms none) ∧
        ∀ m ∈ ms, m.1.content ≠ .ok "referenced_value" := by
  have hnumbered : failureOf (Schema.ofText numberedField.compact) =
      some ⟨[.key "structs", .key "P", .key "fields", .index 0, .key "name"],
        .mismatch (.integer 7) "a string"⟩ := by decide +kernel
  have hnameless : failureOf (Schema.ofText namelessReference.compact) =
      some ⟨[.key "constants", .key "C", .key "value", .key "map", .index 0, .index 0, .key "ref"],
        .missingMember "referenced_value"⟩ := by decide +kernel
  have hfield : Spells numberedField.node numberedField.compact := spells_compact (by
    simp [numberedField, Value.Exact, Value.ExactMembers, Value.ExactItems])
  have href : Spells namelessReference.node namelessReference.compact := spells_compact (by
    simp [namelessReference, Value.Exact, Value.ExactMembers, Value.ExactItems])
  have hnumbered := failureOf_eq_some_iff.1 hnumbered
  have hnameless := failureOf_eq_some_iff.1 hnameless
  refine ⟨⟨_, hnumbered, by decide +kernel, ?_⟩, ⟨_, hnameless, by decide +kernel, ?_⟩⟩
  · exact (failures_point_at_nodes hfield (.inl hnumbered)).1 _ _ rfl (by decide)
  · exact (failures_point_at_nodes href (.inl hnameless)).2 _ rfl

end IdlLink
