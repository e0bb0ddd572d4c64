/-
A schema that is written is read back as it was.

Writer and reader describe each kind of declaration separately, member by member.  One lemma for each
kind says that the two agree, as long as there is room for what nests in it; a constant must not hold
a double, which is not looked at here.

* `TypeExpr.takes_toJson`, `ConstExpr.takes_toJson` — types and constants, by induction;
* `Field.takes_toJson`, …, `Schema.takes_toJson` — declarations, from their members;
* `schema_reads_back` — so the text of a schema is read as the schema.
-/
import IdlLink.Proofs.Taking
import IdlLink.Schema.Reader
import IdlLink.Workspace.Check
import Mathlib.Data.List.Nodup

namespace IdlLink

open Json

/-! ### Doubles -/

mutual

/-- Whether a double stands in a constant. -/
def ConstExpr.hasDouble : ConstExpr → Bool
  | .double _ => true
  | .list items => ConstExpr.itemsHaveDouble items
  | .map entries => ConstExpr.entriesHaveDouble entries
  | _ => false

/-- Whether a double stands in any of some constants. -/
def ConstExpr.itemsHaveDouble : List ConstExpr → Bool
  | [] => false
  | c :: rest => c.hasDouble || ConstExpr.itemsHaveDouble rest

/-- Whether a double stands in any of some entries. -/
def ConstExpr.entriesHaveDouble : List (ConstExpr × ConstExpr) → Bool
  | [] => false
  | (k, v) :: rest => k.hasDouble || v.hasDouble || ConstExpr.entriesHaveDouble rest

end

/-- Whether a reference is a value with a double in it. -/
def Reference.hasDouble : Reference → Bool
  | .value c => c.hasDouble
  | _ => false

/-- No double stands in the values among some references. -/
def NoDoubles (refs : List Reference) : Prop := ∀ r ∈ refs, r.hasDouble = false

instance (refs : List Reference) : Decidable (NoDoubles refs) :=
  inferInstanceAs (Decidable (∀ r ∈ refs, r.hasDouble = false))

theorem NoDoubles.mono {refs refs' : List Reference} (h : NoDoubles refs') (hsub : refs ⊆ refs') :
    NoDoubles refs :=
  fun r hr => h r (hsub hr)

theorem NoDoubles.of_flatMap {α : Type} {xs : List α} {f : α → List Reference}
    (h : NoDoubles (xs.flatMap f)) {x : α} (hx : x ∈ xs) : NoDoubles (f x) :=
  fun r hr => h r (List.mem_flatMap.2 ⟨x, hx, hr⟩)

/-! ### Names and references -/

theorem Primitive.takes_name (p : Primitive) (room : Nat) :
    Takes (Primitive.read room) (.string p.name) p :=
  takes_bare (by cases p <;> rfl) room

theorem Requiredness.takes_name (q : Requiredness) (room : Nat) :
    Takes (readTagged room (bareTags Requiredness.all Requiredness.name)) (.string q.name) q :=
  takes_bare (by cases q <;> rfl) room

theorem RecordKind.takes_name (k : RecordKind) (room : Nat) :
    Takes (readTagged room (bareTags RecordKind.all RecordKind.name)) (.string k.name) k :=
  takes_bare (by cases k <;> rfl) room

theorem takes_plainString (s : String) : Takes readPlainString (.string s) s :=
  takes_string "a string" s

/-! ### Types -/

/-- The reader of types enters every nesting with one level less. -/
theorem TypeExpr.read_succ (room : Nat) : ∃ element : Reader TypeExpr,
    TypeExpr.read (room + 1) =
      readTagged (room + 1) (TypeExpr.forms room (TypeExpr.read room) element) ∧
      ∀ inner, room = inner + 1 → element = TypeExpr.read inner := by
  cases room with
  | zero => exact ⟨noRoom, rfl, fun inner h => by cases h⟩
  | succ room =>
    refine ⟨TypeExpr.read room, rfl, fun inner h => ?_⟩
    cases h
    rfl

theorem TypeExpr.takes_tagged {t : TypeExpr} {tag : String} {content : Value} {room : Nat}
    (hdepth : (Value.tagged tag content).depth ≤ room)
    (h : ∀ inner, content.depth ≤ inner → ∀ element : Reader TypeExpr,
      (∀ room, inner = room + 1 → element = TypeExpr.read room) →
        Takes (readTagged (inner + 1) (TypeExpr.forms inner (TypeExpr.read inner) element))
          (.tagged tag content) t) :
    Takes (TypeExpr.read room) (.tagged tag content) t := by
  obtain ⟨inner, rfl, hcontent⟩ := exists_room_of_tagged hdepth
  obtain ⟨element, hread, helement⟩ := TypeExpr.read_succ inner
  rw [hread]
  exact h inner hcontent element helement

theorem TypeExpr.takes_toJson {t : TypeExpr} {room : Nat} (hdepth : t.toJson.depth ≤ room) :
    Takes (TypeExpr.read room) t.toJson t := by
  induction t generalizing room with
  | primitive p =>
    exact takes_tagged hdepth fun room _ _ _ => takes_content rfl (p.takes_name room) rfl room
  | list t ih => exact takes_tagged hdepth fun room ht _ _ => takes_content rfl (ih ht) rfl room
  | set t ih => exact takes_tagged hdepth fun room ht _ _ => takes_content rfl (ih ht) rfl room
  | map k v ihk ihv =>
    refine takes_tagged hdepth fun room hpair element helement => ?_
    obtain ⟨inner, rfl, hparts⟩ := exists_room_of_list hpair
    obtain ⟨hk, hv⟩ := List.forall_mem_cons.1 hparts
    have hv := hv _ (List.mem_singleton_self _)
    rw [helement inner rfl]
    exact takes_content rfl (takes_pair (ihk hk) (ihv hv) inner) (by rfl) (inner + 1)
  | named n =>
    refine takes_tagged hdepth fun room href _ _ => ?_
    obtain ⟨inner, rfl, _⟩ := exists_room_of_object href
    have hshape : typeRefShape.TakesAll [("referenced_type", .string n)] n :=
      .member (takes_plainString n) (.done id)
    exact takes_content rfl (takes_record hshape (List.nodup_singleton _) inner) rfl (inner + 1)

/-! ### Constants -/

theorem ConstExpr.itemsToJson_eq_map (items : List ConstExpr) :
    ConstExpr.itemsToJson items = items.map ConstExpr.toJson := by
  induction items with
  | nil => rfl
  | cons c rest ih => rw [ConstExpr.itemsToJson, ih, List.map_cons]

/-- An entry of a map of constants as a document. -/
def ConstExpr.entryToJson (e : ConstExpr × ConstExpr) : Value := .list [e.1.toJson, e.2.toJson]

theorem ConstExpr.entriesToJson_eq_map (entries : List (ConstExpr × ConstExpr)) :
    ConstExpr.entriesToJson entries = entries.map ConstExpr.entryToJson := by
  induction entries with
  | nil => rfl
  | cons e rest ih => rw [ConstExpr.entriesToJson, ih, List.map_cons, ConstExpr.entryToJson]

/-- The reader of constants enters a list with two levels less, and a pair in it with three. -/
theorem ConstExpr.read_succ (room : Nat) : ∃ element entry : Reader ConstExpr,
    ConstExpr.read (room + 1) = readTagged (room + 1) (ConstExpr.forms room element entry) ∧
      (∀ inner, room = inner + 1 → element = ConstExpr.read inner) ∧
      ∀ inner, room = inner + 2 → entry = ConstExpr.read inner := by
  rcases room with _ | _ | room
  · exact ⟨noRoom, noRoom, rfl, fun inner h => (by cases h), fun inner h => (by cases h)⟩
  · refine ⟨ConstExpr.read 0, noRoom, rfl, fun inner h => ?_, fun inner h => (by cases h)⟩
    cases h
    rfl
  · refine ⟨ConstExpr.read (room + 1), ConstExpr.read room, rfl, fun inner h => ?_,
      fun inner h => ?_⟩
    · cases h
      rfl
    · cases h
      rfl

theorem ConstExpr.takes_tagged {c : ConstExpr} {tag : String} {content : Value} {room : Nat}
    (hdepth : (Value.tagged tag content).depth ≤ room)
    (h : ∀ inner, content.depth ≤ inner → ∀ element entry : Reader ConstExpr,
      (∀ room, inner = room + 1 → element = ConstExpr.read room) →
      (∀ room, inner = room + 2 → entry = ConstExpr.read room) →
        Takes (readTagged (inner + 1) (ConstExpr.forms inner element entry))
          (.tagged tag content) c) :
    Takes (ConstExpr.read room) (.tagged tag content) c := by
  obtain ⟨inner, rfl, hcontent⟩ := exists_room_of_tagged hdepth
  obtain ⟨element, entry, hread, helement, hentry⟩ := ConstExpr.read_succ inner
  rw [hread]
  exact h inner hcontent element entry helement hentry

mutual

theorem ConstExpr.takes_toJson : ∀ {c : ConstExpr}, c.hasDouble = false → ∀ {room : Nat},
    c.toJson.depth ≤ room → Takes (ConstExpr.read room) c.toJson c
  | .bool b, _, _, hdepth => ConstExpr.takes_tagged hdepth fun room _ _ _ _ _ =>
      takes_content rfl (takes_bool b) rfl room
  | .int i, _, _, hdepth => ConstExpr.takes_tagged hdepth fun room _ _ _ _ _ =>
      takes_content rfl (takes_int64 i) rfl room
  | .string s, _, _, hdepth => ConstExpr.takes_tagged hdepth fun room _ _ _ _ _ =>
      takes_content rfl (takes_plainString s) rfl room
  | .named n, _, _, hdepth => by
    refine ConstExpr.takes_tagged hdepth fun room href _ _ _ _ => ?_
    obtain ⟨inner, rfl, _⟩ := exists_room_of_object href
    have hshape : valueRefShape.TakesAll [("referenced_value", .string n)] n :=
      .member (takes_plainString n) (.done id)
    exact takes_content rfl (takes_record hshape (List.nodup_singleton _) inner) rfl (inner + 1)
  | .list items, hdouble, _, hdepth => by
    rw [ConstExpr.toJson, ConstExpr.itemsToJson_eq_map] at hdepth ⊢
    refine ConstExpr.takes_tagged hdepth fun room hlist element _ helement _ => ?_
    obtain ⟨inner, rfl, hitems⟩ := exists_room_of_list hlist
    have htakes : ∀ c ∈ items, Takes (ConstExpr.read inner) c.toJson c := fun c hc =>
      ConstExpr.takes_items hdouble c hc (hitems _ (List.mem_map_of_mem hc))
    rw [helement inner rfl]
    exact takes_content rfl (takes_list htakes inner) rfl (inner + 1)
  | .map entries, hdouble, _, hdepth => by
    rw [ConstExpr.toJson, ConstExpr.entriesToJson_eq_map] at hdepth ⊢
    refine ConstExpr.takes_tagged hdepth fun room hlist _ entry _ hentry => ?_
    obtain ⟨inner, rfl, hpairs⟩ := exists_room_of_list hlist
    have htakes : ∀ e ∈ entries,
        Takes (readPair "a tuple of size 2" "a tuple of size 2" inner entry)
          (ConstExpr.entryToJson e) e := by
      intro e he
      obtain ⟨room, rfl, hparts⟩ := exists_room_of_list (hpairs _ (List.mem_map_of_mem he))
      obtain ⟨hk, hv⟩ := List.forall_mem_cons.1 hparts
      obtain ⟨hkey, hvalue⟩ := ConstExpr.takes_entries hdouble e he hk
        (hv _ (List.mem_singleton_self _))
      rw [hentry room rfl]
      exact takes_pair hkey hvalue room
    exact takes_content rfl (takes_list htakes inner) rfl (inner + 1)

theorem ConstExpr.takes_items : ∀ {items : List ConstExpr},
    ConstExpr.itemsHaveDouble items = false → ∀ c ∈ items, ∀ {room : Nat},
    c.toJson.depth ≤ room → Takes (ConstExpr.read room) c.toJson c
  | [], _, _, hc, _, _ => by cases hc
  | c :: rest, hdouble, c', hc', room, hdepth => by
    obtain ⟨hc, hrest⟩ := Bool.or_eq_false_iff.1 hdouble
    rcases List.mem_cons.1 hc' with h | h
    · rw [h] at hdepth ⊢
      exact ConstExpr.takes_toJson hc hdepth
    · exact ConstExpr.takes_items hrest c' h hdepth

theorem ConstExpr.takes_entries : ∀ {entries : List (ConstExpr × ConstExpr)},
    ConstExpr.entriesHaveDouble entries = false → ∀ e ∈ entries, ∀ {room : Nat},
    e.1.toJson.depth ≤ room → e.2.toJson.depth ≤ room →
      Takes (ConstExpr.read room) e.1.toJson e.1 ∧ Takes (ConstExpr.read room) e.2.toJson e.2
  | [], _, _, he, _, _, _ => by cases he
  | (k, v) :: rest, hdouble, e, he, room, hk, hv => by
    obtain ⟨hboth, hrest⟩ := Bool.or_eq_false_iff.1 hdouble
    obtain ⟨hkdouble, hvdouble⟩ := Bool.or_eq_false_iff.1 hboth
    rcases List.mem_cons.1 he with h | h
    · rw [h] at hk hv ⊢
      exact ⟨ConstExpr.takes_toJson hkdouble hk, ConstExpr.takes_toJson hvdouble hv⟩
    · exact ConstExpr.takes_entries hrest e h hk hv

end

/-! ### Declarations -/

/-- A declaration is taken when its members are, with one level less of room. -/
theorem takes_declaration {α : Type} {title : String} {shape : Nat → Shape α} {names : List String}
    {ms : List (String × Value)} {a : α} {room : Nat} (hnames : names.Nodup)
    (hshape : ∀ inner, (shape inner).names = names) (hdepth : (Value.object ms).depth ≤ room)
    (h : ∀ inner, (∀ m ∈ ms, m.2.depth ≤ inner) → (shape inner).TakesAll ms a) :
    Takes (readDeclaration title shape room) (.object ms) a := by
  obtain ⟨inner, rfl, hmembers⟩ := exists_room_of_object hdepth
  exact takes_record (h inner hmembers) (hshape inner ▸ hnames) inner

theorem takes_optionalType {o : Option TypeExpr} {room : Nat}
    (hdepth : (Value.option TypeExpr.toJson o).depth ≤ room) :
    Takes (readOption (TypeExpr.read room)) (.option TypeExpr.toJson o) o := by
  refine takes_option (fun t ht => ?_) fun t _ h => ?_
  · rw [ht] at hdepth
    exact TypeExpr.takes_toJson hdepth
  · cases t <;> cases h

theorem takes_optionalConst {o : Option ConstExpr} (hdouble : ∀ c ∈ o, c.hasDouble = false)
    {room : Nat} (hdepth : (Value.option ConstExpr.toJson o).depth ≤ room) :
    Takes (readOption (ConstExpr.read room)) (.option ConstExpr.toJson o) o := by
  refine takes_option (fun c hc => ?_) fun c _ h => ?_
  · rw [hc] at hdepth
    exact ConstExpr.takes_toJson (hdouble c hc) hdepth
  · cases c <;> cases h

theorem Field.takes_toJson {f : Field} (hdouble : NoDoubles f.references) {room : Nat}
    (hdepth : f.toJson.depth ≤ room) : Takes (Field.read room) f.toJson f := by
  have hnames : ["id", "required", "type", "name", "default"].Nodup := by decide
  refine takes_declaration hnames (fun _ => rfl) hdepth fun inner hmembers => ?_
  simp only [List.forall_mem_cons] at hmembers
  obtain ⟨_, _, htype, _, hdefault, _⟩ := hmembers
  have hid : Takes (readOption readInt64) (.option int64ToJson f.id) f.id :=
    takes_option (fun i _ => takes_int64 i) fun _ _ h => by cases h
  have hvalue : ∀ c ∈ f.default, c.hasDouble = false := by
    intro c hc
    refine hdouble (.value c) ?_
    rw [Field.references, hc]
    exact List.mem_cons_of_mem _ (List.mem_singleton_self _)
  exact .member hid (.member (f.requiredness.takes_name inner)
    (.member (TypeExpr.takes_toJson htype) (.member (takes_plainString f.name)
      (.member (takes_optionalConst hvalue hdefault) (.done _)))))

theorem takes_fields {fs : List Field} (hdouble : NoDoubles (fs.flatMap Field.references))
    {room : Nat} (hdepth : (Value.list (fs.map Field.toJson)).depth ≤ room) :
    Takes (Field.readAll room) (.list (fs.map Field.toJson)) fs :=
  takes_list_of_depth hdepth fun _ hf _ => Field.takes_toJson (hdouble.of_flatMap hf)

theorem Record.takes_toJson {r : Record} (hdouble : NoDoubles (r.fields.flatMap Field.references))
    {room : Nat} (hdepth : r.toJson.depth ≤ room) : Takes (Record.read room) r.toJson r := by
  have hnames : ["name", "kind", "fields"].Nodup := by decide
  refine takes_declaration hnames (fun _ => rfl) hdepth fun inner hmembers => ?_
  simp only [List.forall_mem_cons] at hmembers
  obtain ⟨_, _, hfields, _⟩ := hmembers
  exact .member (takes_plainString r.name) (.member (r.kind.takes_name inner)
    (.member (takes_fields hdouble hfields) (.done _)))

theorem EnumMember.takes_toJson {m : EnumMember} {room : Nat} (hdepth : m.toJson.depth ≤ room) :
    Takes (EnumMember.read room) m.toJson m := by
  have hnames : ["name", "value"].Nodup := by decide
  refine takes_declaration hnames (fun _ => rfl) hdepth fun inner _ => ?_
  exact .member (takes_plainString m.name) (.member (takes_int64 m.value) (.done _))

theorem Enumeration.takes_toJson {e : Enumeration} {room : Nat} (hdepth : e.toJson.depth ≤ room) :
    Takes (Enumeration.read room) e.toJson e := by
  have hnames : ["name", "values"].Nodup := by decide
  refine takes_declaration hnames (fun _ => rfl) hdepth fun inner hmembers => ?_
  simp only [List.forall_mem_cons] at hmembers
  obtain ⟨_, hvalues, _⟩ := hmembers
  exact .member (takes_plainString e.name)
    (.member (takes_list_of_depth hvalues fun _ _ _ => EnumMember.takes_toJson) (.done _))

theorem Constant.takes_toJson {c : Constant} (hdouble : NoDoubles c.references) {room : Nat}
    (hdepth : c.toJson.depth ≤ room) : Takes (Constant.read room) c.toJson c := by
  have hnames : ["name", "type", "value"].Nodup := by decide
  refine takes_declaration hnames (fun _ => rfl) hdepth fun inner hmembers => ?_
  simp only [List.forall_mem_cons] at hmembers
  obtain ⟨_, htype, hvalue, _⟩ := hmembers
  have hexact : c.value.hasDouble = false :=
    hdouble (.value c.value) (List.mem_cons_of_mem _ (List.mem_singleton_self _))
  exact .member (takes_plainString c.name) (.member (TypeExpr.takes_toJson htype)
    (.member (ConstExpr.takes_toJson hexact hvalue) (.done _)))

theorem Function.takes_toJson {f : Function} (hdouble : NoDoubles f.references) {room : Nat}
    (hdepth : f.toJson.depth ≤ room) : Takes (Function.read room) f.toJson f := by
  have hnames : ["name", "oneway", "return_type", "params", "exceptions"].Nodup := by decide
  refine takes_declaration hnames (fun _ => rfl) hdepth fun inner hmembers => ?_
  simp only [List.forall_mem_cons] at hmembers
  obtain ⟨_, _, hresult, hparams, hexceptions, _⟩ := hmembers
  rw [Function.references, List.flatMap_append] at hdouble
  have hdouble := hdouble.mono (List.subset_append_right _ _)
  exact .member (takes_plainString f.name) (.member (takes_bool f.oneway)
    (.member (takes_optionalType hresult)
      (.member (takes_fields (hdouble.mono (List.subset_append_left _ _)) hparams)
        (.member (takes_fields (hdouble.mono (List.subset_append_right _ _)) hexceptions)
          (.done _)))))

theorem Service.takes_toJson {v : Service} (hdouble : NoDoubles v.references) {room : Nat}
    (hdepth : v.toJson.depth ≤ room) : Takes (Service.read room) v.toJson v := by
  have hnames : ["name", "extends", "functions"].Nodup := by decide
  refine takes_declaration hnames (fun _ => rfl) hdepth fun inner hmembers => ?_
  simp only [List.forall_mem_cons] at hmembers
  obtain ⟨_, _, hfunctions, _⟩ := hmembers
  have hbase : Takes (readOption readPlainString) (.option .string v.base) v.base :=
    takes_option (fun s _ => takes_plainString s) fun _ _ h => by cases h
  have hdouble := hdouble.mono (List.subset_append_right _ _)
  exact .member (takes_plainString v.name) (.member hbase
    (.member (takes_map_of_depth hfunctions fun _ hf _ =>
      Function.takes_toJson (hdouble.of_flatMap hf)) (.done _)))

theorem takes_include {path : String} {room : Nat} (hdepth : (includeToJson path).depth ≤ room) :
    Takes (readInclude room) (includeToJson path) path := by
  refine takes_declaration (List.nodup_singleton "path") (fun _ => rfl) hdepth fun inner _ => ?_
  exact .member (takes_plainString path) (.done id)

theorem NamespaceDecl.takes_toJson {n : NamespaceDecl} {room : Nat}
    (hdepth : n.toJson.depth ≤ room) : Takes (NamespaceDecl.read room) n.toJson n := by
  have hnames : ["target", "value"].Nodup := by decide
  refine takes_declaration hnames (fun _ => rfl) hdepth fun inner _ => ?_
  exact .member (takes_plainString n.target) (.member (takes_plainString n.value) (.done _))

theorem Schema.takes_toJson {s : Schema} (hdouble : NoDoubles s.references) {room : Nat}
    (hdepth : s.toJson.depth ≤ room) : Takes (Schema.read room) s.toJson s := by
  have hnames : ["includes", "namespaces", "typedefs", "enums", "structs", "unions", "exceptions",
    "services", "constants"].Nodup := by decide
  refine takes_declaration hnames (fun _ => rfl) hdepth fun inner hmembers => ?_
  simp only [List.forall_mem_cons] at hmembers
  obtain ⟨hincludes, hnamespaces, htypedefs, henums, hstructs, hunions, hexceptions, hservices,
    hconstants, _⟩ := hmembers
  rw [Schema.references] at hdouble
  have hrest := hdouble.mono (List.subset_append_left _ _)
  have hrecord : ∀ r ∈ s.structs.values ++ s.unions.values ++ s.exceptions.values, ∀ room,
      r.toJson.depth ≤ room → Takes (Record.read room) r.toJson r := by
    intro r hr room
    have hrecords := (hrest.mono (List.subset_append_left _ _)).mono (List.subset_append_right _ _)
    exact Record.takes_toJson (hrecords.of_flatMap hr)
  have hconstant : ∀ c ∈ s.constants.values, ∀ room,
      c.toJson.depth ≤ room → Takes (Constant.read room) c.toJson c := by
    intro c hc room
    exact Constant.takes_toJson ((hrest.mono (List.subset_append_right _ _)).of_flatMap hc)
  have hservice : ∀ v ∈ s.services.values, ∀ room,
      v.toJson.depth ≤ room → Takes (Service.read room) v.toJson v := by
    intro v hv room
    exact Service.takes_toJson ((hdouble.mono (List.subset_append_right _ _)).of_flatMap hv)
  exact .member (takes_list_of_depth hincludes fun _ _ _ => takes_include)
    (.member (takes_map_of_depth hnamespaces fun _ _ _ => NamespaceDecl.takes_toJson)
    (.member (takes_map_of_depth htypedefs fun _ _ _ => TypeExpr.takes_toJson)
    (.member (takes_map_of_depth henums fun _ _ _ => Enumeration.takes_toJson)
    (.member (takes_map_of_depth hstructs fun r hr =>
      hrecord r (List.mem_append_left _ (List.mem_append_left _ hr)))
    (.member (takes_map_of_depth hunions fun r hr =>
      hrecord r (List.mem_append_left _ (List.mem_append_right _ hr)))
    (.member (takes_map_of_depth hexceptions fun r hr => hrecord r (List.mem_append_right _ hr))
    (.member (takes_map_of_depth hservices hservice)
    (.member (takes_map_of_depth hconstants hconstant) (.done _)))))))))

/-! ### Schemas -/

/-- **A schema that is written is read back.**  Where no constant and no default holds a double and
lists and objects nest no deeper than a reader goes, the text of a schema is read as the schema, on
one line or on many. -/
theorem schema_reads_back {s : Schema} (hdouble : NoDoubles s.references)
    (hdepth : s.toJson.depth ≤ maxNesting) :
    Schema.ofText s.toText = .ok s ∧ Schema.ofText s.toJson.pretty = .ok s :=
  (Schema.takes_toJson hdouble hdepth).readText

/-- A type of lists in lists. -/
def nestedList : Nat → TypeExpr
  | 0 => .primitive .bool
  | n + 1 => .list (nestedList n)

/-- A file with the deepest type that can be read, with integers from both ends of their range, and
with names and texts that need care. -/
def puzzlingSchema : Schema :=
  { Schema.empty with
    includes := ["north \"sea\"\\map.thrift"]
    typedefs := .ofList [("zoë", nestedList 124), ("", .map (.named "a.b") (.primitive .i8))]
    structs := .ofList [("東", ⟨"東", .struct,
      [⟨some Int64.minValue, .optional, .set (.named "zoë"), "tab\t", some (.bool false)⟩]⟩)]
    constants := .ofList [("LIMITS", ⟨"LIMITS", .map (.primitive .string) (.primitive .i64), .map
      [(.string "line\nbreak \u0001\u007f 😀", .int Int64.maxValue), (.string "", .int (-1)),
       (.list [.list []], .named "a.b")]⟩)] }

/-- It nests as deep as anything that can be read, and is read back. -/
theorem puzzlingSchema_reads_back :
    NoDoubles puzzlingSchema.references ∧ puzzlingSchema.toJson.depth = maxNesting ∧
      Schema.ofText puzzlingSchema.toText = .ok puzzlingSchema ∧
      Schema.ofText puzzlingSchema.toJson.pretty = .ok puzzlingSchema := by
  have hdouble : NoDoubles puzzlingSchema.references := by decide
  have hdepth : puzzlingSchema.toJson.depth = maxNesting := by decide +kernel
  exact ⟨hdouble, hdepth, schema_reads_back hdouble hdepth.le⟩

end IdlLink
