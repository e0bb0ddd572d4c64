/-
The documents that readers take.

A reader takes a document to a value when that is what it makes of the document's text.  What a
larger reader takes is put together from what its parts take, one lemma for each way of putting
readers together; where an object or a list is entered, there has to be room for one more level.

* `takes_list`, `takes_map`, `takes_option`, `takes_pair`, `takes_content` — one for each reader;
* `Shape.TakesAll` — the members of a record, one after the other, each taken by its own reader;
* `takes_record` — and what they come to is what the record is taken to, in any case of other
  members.
-/
import IdlLink.Json.Record
import IdlLink.Json.Tagged
import IdlLink.Proofs.Documents
import IdlLink.Proofs.Outcome
import IdlLink.Proofs.Records
import IdlLink.Schema.Writer

namespace IdlLink.Json

variable {α β : Type} {read : Reader α} {v : Value} {a : α}

/-! ### Elements and members -/

theorem exactItems_iff {vs : List Value} : Value.ExactItems vs ↔ ∀ v ∈ vs, v.Exact := by
  induction vs with
  | nil => simp [Value.ExactItems]
  | cons v vs ih => rw [Value.ExactItems, ih, List.forall_mem_cons]

theorem exactMembers_iff {ms : List (String × Value)} :
    Value.ExactMembers ms ↔ ∀ m ∈ ms, m.2.Exact := by
  induction ms with
  | nil => simp [Value.ExactMembers]
  | cons m ms ih => rw [Value.ExactMembers, ih, List.forall_mem_cons]

theorem itemNodes_eq_map (vs : List Value) : Value.itemNodes vs = vs.map Value.node := by
  induction vs with
  | nil => rfl
  | cons v vs ih => rw [Value.itemNodes, ih, List.map_cons]

theorem memberNodes_eq_map (ms : List (String × Value)) :
    Value.memberNodes ms = ms.map fun m => (Quoted.of m.1, m.2.node) := by
  induction ms with
  | nil => rfl
  | cons m ms ih => rw [Value.memberNodes, ih, List.map_cons]

mutual

/-- How deep the lists and objects of a document nest. -/
def Value.depth : Value → Nat
  | .list items => Value.itemsDepth items + 1
  | .object members => Value.membersDepth members + 1
  | _ => 0

/-- How deep the deepest of some documents nests. -/
def Value.itemsDepth : List Value → Nat
  | [] => 0
  | v :: rest => max v.depth (Value.itemsDepth rest)

/-- How deep the deepest value of some members nests. -/
def Value.membersDepth : List (String × Value) → Nat
  | [] => 0
  | (_, v) :: rest => max v.depth (Value.membersDepth rest)

end

theorem itemsDepth_le_iff {vs : List Value} {n : Nat} :
    Value.itemsDepth vs ≤ n ↔ ∀ v ∈ vs, v.depth ≤ n := by
  induction vs with
  | nil => simp [Value.itemsDepth]
  | cons v vs ih => rw [Value.itemsDepth, Nat.max_le, ih, List.forall_mem_cons]

theorem membersDepth_le_iff {ms : List (String × Value)} {n : Nat} :
    Value.membersDepth ms ≤ n ↔ ∀ m ∈ ms, m.2.depth ≤ n := by
  induction ms with
  | nil => simp [Value.membersDepth]
  | cons m ms ih => rw [Value.membersDepth, Nat.max_le, ih, List.forall_mem_cons]

/-- A list leaves room for one level less to its elements. -/
theorem exists_room_of_list {vs : List Value} {room : Nat} (h : (Value.list vs).depth ≤ room) :
    ∃ inner, room = inner + 1 ∧ ∀ v ∈ vs, v.depth ≤ inner := by
  obtain ⟨inner, rfl⟩ := Nat.exists_eq_add_of_le' h
  exact ⟨inner + Value.itemsDepth vs, by rw [Value.depth]; omega,
    itemsDepth_le_iff.1 (Nat.le_add_left _ _)⟩

/-- An object leaves room for one level less to its members. -/
theorem exists_room_of_object {ms : List (String × Value)} {room : Nat}
    (h : (Value.object ms).depth ≤ room) :
    ∃ inner, room = inner + 1 ∧ ∀ m ∈ ms, m.2.depth ≤ inner := by
  obtain ⟨inner, rfl⟩ := Nat.exists_eq_add_of_le' h
  exact ⟨inner + Value.membersDepth ms, by rw [Value.depth]; omega,
    membersDepth_le_iff.1 (Nat.le_add_left _ _)⟩

/-- So does a tag to its content. -/
theorem exists_room_of_tagged {tag : String} {content : Value} {room : Nat}
    (h : (Value.tagged tag content).depth ≤ room) :
    ∃ inner, room = inner + 1 ∧ content.depth ≤ inner := by
  obtain ⟨inner, rfl, hmembers⟩ := exists_room_of_object h
  exact ⟨inner, rfl, hmembers _ (List.mem_singleton_self _)⟩

/-! ### Taking a document -/

/-- A reader takes a document without doubles to a value. -/
structure Takes (read : Reader α) (v : Value) (a : α) : Prop where
  exact : v.Exact
  read_node : read v.node = .ok a

/-- What a reader takes it reads from either text of the document. -/
theorem Takes.readText (h : Takes read v a) :
    readText read v.compact = .ok a ∧ readText read v.pretty = .ok a := by
  rw [Json.readText, Json.readText, ofString_compact h.exact, ofString_pretty h.exact]
  exact ⟨h.read_node, h.read_node⟩

/-! ### Plain values -/

theorem takes_string (wanted s : String) : Takes (readString wanted) (.string s) s := by
  refine ⟨trivial, ?_⟩
  rw [Value.node, readString, content_of]
  rfl

theorem takes_bool : ∀ b, Takes readBool (.bool b) b
  | true => ⟨trivial, rfl⟩
  | false => ⟨trivial, rfl⟩

theorem takes_int64 (i : Int64) : Takes readInt64 (.int i.toInt) i := by
  refine ⟨trivial, ?_⟩
  have hmin : -2 ^ 63 ≤ i.toInt := i.le_toInt
  have hmax : i.toInt < 2 ^ 63 := i.toInt_lt
  have hvalue : numeralValue (.ok (.ofInt i.toInt)) = .ok (.integer i.toInt) := by
    rw [numeralValue, value_ofInt hmin (by omega)]
  have hle : i.toInt ≤ Int64.maxValue.toInt := Int.lt_add_one_iff.1 hmax
  rw [Value.node, readInt64, hvalue]
  change (if i.toInt ≤ Int64.maxValue.toInt then Except.ok (Int64.ofInt i.toInt) else _) = _
  rw [if_pos hle, Int64.ofInt_toInt]

/-- What is not null itself may be left out. -/
theorem takes_option {f : α → Value} {o : Option α} (h : ∀ a ∈ o, Takes read (f a) a)
    (hnull : ∀ a ∈ o, f a ≠ .null) : Takes (readOption read) (.option f o) o := by
  cases o with
  | none => exact ⟨trivial, rfl⟩
  | some a =>
    obtain ⟨hexact, hread⟩ := h a rfl
    refine ⟨hexact, ?_⟩
    have hnode : ∀ fault, (f a).node ≠ .word .null fault := by
      intro fault hword
      match hv : f a, hexact with
      | .null, _ => exact hnull a rfl hv
      | .bool true, _ | .bool false, _ | .int _, _ | .string _, _ | .list _, _ | .object _, _ =>
        rw [hv, Value.node] at hword
        cases hword
    change readOption read (f a).node = _
    rw [readOption, hread]
    · rfl
    · exact hnode none
    · exact fun fault => hnode (some fault)

/-! ### Lists, pairs and maps -/

theorem readItems_map {f : α → Value} {xs : List α} (h : ∀ x ∈ xs, Takes read (f x) x) (i : Nat) :
    readItems read none i ((xs.map f).map Value.node) = .ok xs := by
  induction xs generalizing i with
  | nil => rfl
  | cons x xs ih =>
    obtain ⟨hx, hxs⟩ := List.forall_mem_cons.1 h
    rw [List.map_cons, List.map_cons, readItems, hx.read_node, inside_ok]
    exact map_eq_ok_iff.2 ⟨xs, ih hxs (i + 1), rfl⟩

theorem takes_list {f : α → Value} {xs : List α} (h : ∀ x ∈ xs, Takes read (f x) x) (room : Nat) :
    Takes (readList (room + 1) read) (.list (xs.map f)) xs := by
  refine ⟨exactItems_iff.2 (List.forall_mem_map.2 fun x hx => (h x hx).exact), ?_⟩
  rw [Value.node, readList, if_neg (Nat.succ_ne_zero room), itemNodes_eq_map]
  exact readItems_map h 0

theorem takes_pair {v' : Value} {a' : α} {wanted whole : String} (h : Takes read v a)
    (h' : Takes read v' a') (room : Nat) :
    Takes (readPair wanted whole (room + 1) read) (.list [v, v']) (a, a') := by
  refine ⟨⟨h.exact, h'.exact, trivial⟩, ?_⟩
  rw [Value.node, itemNodes_eq_map, List.map_cons, List.map_cons, List.map_nil, readPair,
    if_neg (Nat.succ_ne_zero room)]
  simp only [h.read_node, h'.read_node, inside_ok]
  rfl

theorem readName_of (s : String) : readName (.of s) = .ok s := by
  rw [readName, content_of]
  rfl

theorem readEntries_map {f : α → Value} {es : List (String × α)}
    (h : ∀ e ∈ es, Takes read (f e.2) e.2) (acc : OrderedMap String α) :
    readEntries read none acc (Value.memberNodes (es.map fun e => (e.1, f e.2))) =
      .ok (acc.extend es) := by
  induction es generalizing acc with
  | nil => rfl
  | cons e es ih =>
    obtain ⟨he, hes⟩ := List.forall_mem_cons.1 h
    rw [List.map_cons, Value.memberNodes, readEntries, readName_of]
    change (inside (.key e.1) (read (f e.2).node) >>= fun a => _) = _
    rw [he.read_node, inside_ok]
    exact ih hes (acc.insert e.1 e.2)

/-- A map is taken with its keys in their order. -/
theorem takes_map {f : α → Value} {m : OrderedMap String α}
    (h : ∀ a ∈ m.values, Takes read (f a) a) (room : Nat) :
    Takes (readMap (room + 1) read) (m.toJson f) m := by
  have hentries : ∀ e ∈ m.entries, Takes read (f e.2) e.2 :=
    fun e he => h e.2 (List.mem_map_of_mem he)
  refine ⟨exactMembers_iff.2 (List.forall_mem_map.2 fun e he => (hentries e he).exact), ?_⟩
  rw [OrderedMap.toJson, Value.node, readMap, if_neg (Nat.succ_ne_zero room),
    readEntries_map hentries]
  exact congrArg Except.ok m.ofList_entries

/-! Elements that nest as deep as there is room for are each taken by the reader of that room. -/

theorem takes_list_of_depth {read : Nat → Reader α} {f : α → Value} {xs : List α} {room : Nat}
    (hdepth : (Value.list (xs.map f)).depth ≤ room)
    (h : ∀ x ∈ xs, ∀ inner, (f x).depth ≤ inner → Takes (read inner) (f x) x) :
    Takes (readList room (read (room - 1))) (.list (xs.map f)) xs := by
  obtain ⟨inner, rfl, hitems⟩ := exists_room_of_list hdepth
  exact takes_list (fun x hx => h x hx inner (hitems _ (List.mem_map_of_mem hx))) inner

theorem takes_map_of_depth {read : Nat → Reader α} {f : α → Value} {m : OrderedMap String α}
    {room : Nat} (hdepth : (m.toJson f).depth ≤ room)
    (h : ∀ a ∈ m.values, ∀ inner, (f a).depth ≤ inner → Takes (read inner) (f a) a) :
    Takes (readMap room (read (room - 1))) (m.toJson f) m := by
  obtain ⟨inner, rfl, hmembers⟩ := exists_room_of_object hdepth
  refine takes_map (fun a ha => h a ha inner ?_) inner
  obtain ⟨e, he, rfl⟩ := List.mem_map.1 ha
  exact hmembers _ (List.mem_map.2 ⟨e, he, rfl⟩)

/-! ### Tagged values -/

/-- A tag with its content. -/
theorem takes_content {tags : Tags α} {tag wanted : String} {f : β → α} {content : Reader β} {b : β}
    (hfind : tags.find tag = .ok (.content wanted fun n => f <$> content n))
    (h : Takes content v b) (hf : f b = a) (room : Nat) :
    Takes (readTagged (room + 1) tags) (.tagged tag v) a := by
  subst hf
  refine ⟨⟨h.exact, trivial⟩, ?_⟩
  rw [Value.tagged, Value.node, memberNodes_eq_map, List.map_cons, List.map_nil, readTagged,
    if_neg (Nat.succ_ne_zero room)]
  simp only [content_of, checked, Except.mapError, bind, Except.bind, hfind, Payload.read,
    h.read_node]
  rfl

/-- A tag alone. -/
theorem takes_bare {tags : Tags α} {tag : String} (hfind : tags.find tag = .ok (.none a))
    (room : Nat) : Takes (readTagged room tags) (.string tag) a := by
  refine ⟨trivial, ?_⟩
  rw [Value.node, readTagged]
  simp only [content_of, checked, Except.mapError, bind, Except.bind, hfind]
  rfl

/-! ### Records -/

/-- The members of a record in order, each with a document that its reader takes to its value; the
last argument is what they come to. -/
inductive Shape.TakesAll : {α : Type} → Shape α → List (String × Value) → α → Prop
  | done {α : Type} (value : α) : TakesAll (.done value) [] value
  | member {α β : Type} {name : String} {read : Reader β} {fallback : Option β}
      {rest : Shape (β → α)} {v : Value} {b : β} {ms : List (String × Value)} {f : β → α} :
      Takes read v b → TakesAll rest ms f →
        TakesAll (.member name read fallback rest) ((name, v) :: ms) (f b)

namespace Shape

variable {shape : Shape α} {ms : List (String × Value)} {extras : Extras}

theorem TakesAll.exact (h : shape.TakesAll ms a) : Value.ExactMembers ms := by
  induction h with
  | done => trivial
  | member hv _ ih => exact ⟨hv.exact, ih⟩

theorem TakesAll.names_eq (h : shape.TakesAll ms a) : ms.map Prod.fst = shape.names := by
  induction h with
  | done => rfl
  | member _ _ ih => rw [List.map_cons, ih, names]

/-- No value stands under a name that no member has. -/
theorem valuesUnder_of_not_mem {name : String} (hname : name ∉ ms.map Prod.fst) :
    valuesUnder name (Value.memberNodes ms) = [] := by
  rw [memberNodes_eq_map]
  refine valuesUnder_eq_nil (List.forall_mem_map.2 fun m hm => content_ne (content_of m.1) ?_)
  rintro rfl
  exact hname (List.mem_map_of_mem hm)

/-- Members in order settle their slots, and the record is what they come to. -/
theorem TakesAll.reads (h : shape.TakesAll ms a) (hnames : shape.names.Nodup) :
    shape.Reads (Value.memberNodes ms) shape.noSlots a := by
  induction h with
  | done value => rfl
  | @member α β name read fallback rest v b ms f hv hrest ih =>
    obtain ⟨hname, hnames⟩ := List.nodup_cons.1 hnames
    have hnone : valuesUnder name (Value.memberNodes ms) = [] :=
      valuesUnder_of_not_mem (hrest.names_eq ▸ hname)
    have hone : valuesUnder name (Value.memberNodes ((name, v) :: ms)) = [v.node] := by
      rw [Value.memberNodes, valuesUnder_cons_of_eq (content_of name), hnone]
    refine ⟨b, f, hone ▸ .present hv.read_node, (ih hnames).congr fun other hother => ?_, rfl⟩
    refine valuesUnder_cons_of_ne (content_ne (content_of name) ?_) _ _
    rintro rfl
    exact hname hother

theorem TakesAll.admits (h : shape.TakesAll ms a) :
    ∀ m ∈ Value.memberNodes ms, shape.Admits extras m := by
  rw [memberNodes_eq_map]
  refine List.forall_mem_map.2 fun m hm => ⟨m.1, content_of m.1, .inl ?_⟩
  rw [← h.names_eq]
  exact List.mem_map_of_mem hm

end Shape

/-- A record is taken to what its members come to. -/
theorem takes_record {shape : Shape α} {ms : List (String × Value)} {title : String}
    {extras : Extras} (h : shape.TakesAll ms a) (hnames : shape.names.Nodup) (room : Nat) :
    Takes (readRecord title extras (room + 1) shape) (.object ms) a := by
  refine ⟨h.exact, ?_⟩
  rw [Value.node, readRecord, if_neg (Nat.succ_ne_zero room)]
  exact (Shape.readMembers_eq_ok_iff hnames).2 ⟨h.admits, h.reads hnames⟩

end IdlLink.Json
