/-
Reading looks at the first complete value of a text only.

What a reader takes it has looked at to the end, down to the members that it skips over; so the node
is complete, and a text that goes on after it holds the same node.

* `ReadsWhole` — a reader takes complete nodes only;
* `readsWhole_hereditary` — larger readers do when those they are put together from do;
* `readBytes_append` — so what comes after a document does not change what it is read as;
* `text_after_document_ignored` — schemas and settings, from characters and from bytes.
-/
import IdlLink.Proofs.Appending
import IdlLink.Proofs.Composing
import IdlLink.Proofs.Locating

namespace IdlLink

open Json

namespace Json

variable {α β : Type} {read : Reader α}

/-- A reader reads nothing from a node that breaks off. -/
def ReadsWhole (read : Reader α) : Prop :=
  ∀ ⦃n : Node⦄ ⦃a : α⦄, read n = .ok a → n.skip = .ok ()

/-! ### What does not come to a value -/

theorem refuse_ne_ok (wanted : String) (n : Node) (a : α) : refuse wanted n ≠ .ok a := by
  intro h
  obtain ⟨_, _, h⟩ := bind_eq_ok_iff.1 h
  cases h

theorem readObjectFault_ne_ok (screen : String → Except Failure Unit) (f : ObjectFault) (a : α) :
    readObjectFault screen f ≠ .ok a := by
  intro h
  match f with
  | .ended | .endedAfterComma | .trailingComma | .noComma | .keyNotString => cases h
  | .key q =>
    obtain ⟨_, _, h⟩ := bind_eq_ok_iff.1 h
    cases h
  | .colon q atEnd =>
    obtain ⟨_, _, h⟩ := bind_eq_ok_iff.1 h
    obtain ⟨_, _, h⟩ := bind_eq_ok_iff.1 h
    cases h

theorem readTagFault_ne_ok (tags : Tags α) (stop : Option ObjectFault) (a : α) :
    readTagFault tags stop ≠ .ok a := by
  intro h
  match stop with
  | none | some .ended | some .endedAfterComma | some .trailingComma | some .noComma
  | some .keyNotString => cases h
  | some (.key q) =>
    obtain ⟨_, _, h⟩ := bind_eq_ok_iff.1 h
    cases h
  | some (.colon q atEnd) =>
    obtain ⟨_, _, h⟩ := bind_eq_ok_iff.1 h
    obtain ⟨_, _, h⟩ := bind_eq_ok_iff.1 h
    cases h

theorem closeList_eq_ok {ns : List Node} {stop : Option ListFault} {u : Unit}
    (h : closeList ns stop = .ok u) : ns = [] ∧ stop = none := by
  match ns, stop with
  | [], none => exact ⟨rfl, rfl⟩
  | [], some _ | _ :: _, _ => cases h

theorem closeTagged_eq_ok {ms : List (Quoted × Node)} {stop : Option ObjectFault} {u : Unit}
    (h : closeTagged ms stop = .ok u) : ms = [] ∧ stop = none := by
  unfold closeTagged at h
  split at h
  · exact ⟨rfl, rfl⟩
  · cases h
  · cases h

/-! ### Strings and numbers -/

theorem fault_of_bytes {fault : Option QuoteFault} {ps : List Piece} {bs : List UInt8}
    (h : Quoted.bytes fault ps = .ok bs) : fault = none := by
  -- every part goes on to the next one, until the fault is asked for
  fun_induction Quoted.bytes fault ps generalizing bs with
  | case1 hfault => exact hfault
  | case2 => cases h
  | case3 b ps ih =>
    obtain ⟨_, hps, _⟩ := map_eq_ok_iff.1 h
    exact ih hps
  | case4 => cases h
  | case5 u v ps _ _ _ ih =>
    obtain ⟨_, hps, _⟩ := map_eq_ok_iff.1 h
    exact ih hps
  | case6 => cases h
  | case7 u v ps _ _ ih =>
    obtain ⟨_, hps, _⟩ := map_eq_ok_iff.1 h
    exact ih hps
  | case8 => cases h
  | case9 => cases h
  | case10 => cases h
  | case11 => cases h
  | case12 u ps _ _ _ ih =>
    obtain ⟨_, hps, _⟩ := map_eq_ok_iff.1 h
    exact ih hps

/-- A string with a content has an end. -/
theorem skipping_of_content {q : Quoted} {s : String} (h : q.content = .ok s) :
    q.skipping = .ok () := by
  obtain ⟨bs, hbs, _⟩ := bind_eq_ok_iff.1 h
  rw [Quoted.skipping, fault_of_bytes hbs]

theorem skip_of_numeralValue {m : Except NumeralFault Numeral} {v : Number}
    (h : numeralValue m = .ok v) : (Node.numeral m).skip = .ok () := by
  obtain ⟨n, rfl, _⟩ := numeralValue_eq_ok_iff.1 h
  rfl

/-! ### Readers of one value -/

namespace ReadsWhole

theorem string (wanted : String) : ReadsWhole (readString wanted) := by
  intro n a h
  match n with
  | .quoted q => exact skipping_of_content (checked_eq_ok_iff.1 h)
  | .missing | .unexpected | .word _ _ | .numeral _ | .list _ _ | .object _ _ =>
    exact absurd h (refuse_ne_ok _ _ _)

theorem bool : ReadsWhole readBool := by
  intro n a h
  match n with
  | .word .true none | .word .false none => rfl
  | .word .null _ | .word .true (some _) | .word .false (some _) | .missing | .unexpected
  | .quoted _ | .numeral _ | .list _ _ | .object _ _ => exact absurd h (refuse_ne_ok _ _ _)

theorem null : ReadsWhole readNull := by
  intro n a h
  match n with
  | .word .null none => rfl
  | .word .null (some _) | .word .true _ | .word .false _ | .missing | .unexpected | .quoted _
  | .numeral _ | .list _ _ | .object _ _ => exact absurd h (refuse_ne_ok _ _ _)

theorem int64 : ReadsWhole readInt64 := by
  intro n a h
  match n with
  | .numeral m =>
    obtain ⟨v, hv, _⟩ := bind_eq_ok_iff.1 h
    exact skip_of_numeralValue (checked_eq_ok_iff.1 hv)
  | .missing | .unexpected | .word _ _ | .quoted _ | .list _ _ | .object _ _ =>
    exact absurd h (refuse_ne_ok _ _ _)

theorem real : ReadsWhole readReal := by
  intro n a h
  match n with
  | .numeral m =>
    obtain ⟨v, hv, _⟩ := map_eq_ok_iff.1 h
    exact skip_of_numeralValue (checked_eq_ok_iff.1 hv)
  | .missing | .unexpected | .word _ _ | .quoted _ | .list _ _ | .object _ _ =>
    exact absurd h (refuse_ne_ok _ _ _)

theorem map (h : ReadsWhole read) (f : α → β) : ReadsWhole fun n => f <$> read n := by
  intro n b hread
  obtain ⟨a, ha, _⟩ := map_eq_ok_iff.1 hread
  exact h ha

theorem option (h : ReadsWhole read) : ReadsWhole (readOption read) := by
  intro n o hread
  match n with
  | .word .null none => rfl
  | .word .null (some _) => cases hread
  | .word .true _ | .word .false _ | .missing | .unexpected | .quoted _ | .numeral _ | .list _ _
  | .object _ _ => exact h.map some hread

/-! ### Readers of lists, pairs and maps -/

theorem items (h : ReadsWhole read) {stop : Option ListFault} {i : Nat} {ns : List Node}
    {as : List α} (hread : readItems read stop i ns = .ok as) :
    Node.skipItems stop ns = .ok () := by
  induction ns generalizing i as with
  | nil =>
    cases stop with
    | none => rfl
    | some f => cases hread
  | cons n ns ih =>
    obtain ⟨a, ha, hread⟩ := bind_eq_ok_iff.1 hread
    obtain ⟨as, has, _⟩ := map_eq_ok_iff.1 hread
    obtain ⟨hns, hstop⟩ := skipItems_eq_ok_iff.1 (ih has)
    exact skipItems_eq_ok_iff.2
      ⟨List.forall_mem_cons.2 ⟨h (inside_eq_ok_iff.1 ha), hns⟩, hstop⟩

theorem list (h : ReadsWhole read) (room : Nat) : ReadsWhole (readList room read) := by
  intro n as hread
  match n with
  | .list ns stop => exact h.items (enter_eq_ok_iff.1 hread).2
  | .missing | .unexpected | .word _ _ | .numeral _ | .quoted _ | .object _ _ =>
    exact absurd hread (refuse_ne_ok _ _ _)

theorem pair (h : ReadsWhole read) (wanted whole : String) (room : Nat) :
    ReadsWhole (readPair wanted whole room read) := by
  intro n p hread
  match n with
  | .list [] none | .list [] (some _) => cases (enter_eq_ok_iff.1 hread).2
  | .list [a] none | .list [a] (some _) =>
    obtain ⟨_, _, hread⟩ := bind_eq_ok_iff.1 (enter_eq_ok_iff.1 hread).2
    cases hread
  | .list (a :: b :: rest) stop =>
    obtain ⟨x, hx, hread⟩ := bind_eq_ok_iff.1 (enter_eq_ok_iff.1 hread).2
    obtain ⟨y, hy, hread⟩ := bind_eq_ok_iff.1 hread
    obtain ⟨_, hclose, _⟩ := bind_eq_ok_iff.1 hread
    obtain ⟨rfl, rfl⟩ := closeList_eq_ok hclose
    have ha := h (inside_eq_ok_iff.1 hx)
    have hb := h (inside_eq_ok_iff.1 hy)
    exact skipItems_eq_ok_iff.2 ⟨by simp [ha, hb], rfl⟩
  | .missing | .unexpected | .word _ _ | .numeral _ | .quoted _ | .object _ _ =>
    exact absurd hread (refuse_ne_ok _ _ _)

theorem entriesFrom (h : ReadsWhole read) {stop : Option ObjectFault} {acc m : OrderedMap String α}
    {ms : List (Quoted × Node)} (hread : readEntries read stop acc ms = .ok m) :
    Node.skipMembers stop ms = .ok () := by
  induction ms generalizing acc with
  | nil =>
    cases stop with
    | none => rfl
    | some f => exact absurd hread (readObjectFault_ne_ok _ _ _)
  | cons e ms ih =>
    obtain ⟨name, hname, hread⟩ := bind_eq_ok_iff.1 hread
    obtain ⟨a, ha, hread⟩ := bind_eq_ok_iff.1 hread
    obtain ⟨hms, hstop⟩ := skipMembers_eq_ok_iff.1 (ih hread)
    have he := skipping_of_content (readName_eq_ok_iff.1 hname)
    exact skipMembers_eq_ok_iff.2
      ⟨List.forall_mem_cons.2 ⟨⟨he, h (inside_eq_ok_iff.1 ha)⟩, hms⟩, hstop⟩

theorem entries (h : ReadsWhole read) (room : Nat) : ReadsWhole (readMap room read) := by
  intro n m hread
  match n with
  | .object ms stop => exact h.entriesFrom (enter_eq_ok_iff.1 hread).2
  | .missing | .unexpected | .word _ _ | .numeral _ | .quoted _ | .list _ _ =>
    exact absurd hread (refuse_ne_ok _ _ _)

/-! ### Readers of tagged values -/

theorem bare (a : α) : ReadsWhole (Payload.none a).read := by
  intro n a' h
  obtain ⟨_, hnull, _⟩ := bind_eq_ok_iff.1 h
  exact null hnull

theorem tagged {tags : Tags α} (h : ∀ t ∈ tags, ReadsWhole t.2.read) (room : Nat) :
    ReadsWhole (readTagged room tags) := by
  intro n a hread
  match n with
  | .quoted q =>
    obtain ⟨name, hname, _⟩ := bind_eq_ok_iff.1 hread
    exact skipping_of_content (checked_eq_ok_iff.1 hname)
  | .object [] stop => exact absurd (enter_eq_ok_iff.1 hread).2 (readTagFault_ne_ok _ _ _)
  | .object ((k, n) :: ms) stop =>
    obtain ⟨name, hname, hread⟩ := bind_eq_ok_iff.1 (enter_eq_ok_iff.1 hread).2
    obtain ⟨p, hp, hread⟩ := bind_eq_ok_iff.1 hread
    obtain ⟨b, hb, hread⟩ := bind_eq_ok_iff.1 hread
    obtain ⟨_, hclose, _⟩ := bind_eq_ok_iff.1 hread
    obtain ⟨t, ht, rfl⟩ := Tags.exists_mem_of_find hp
    obtain ⟨rfl, rfl⟩ := closeTagged_eq_ok hclose
    have hk := skipping_of_content (checked_eq_ok_iff.1 hname)
    have hn := h t ht (inside_eq_ok_iff.1 hb)
    exact skipMembers_eq_ok_iff.2 ⟨by simp [hk, hn], rfl⟩
  | .missing | .unexpected | .word _ _ | .numeral _ | .list _ _ => cases hread

end ReadsWhole

/-! ### Readers of records -/

namespace Shape

variable {shape : Shape α} {slots slots' : shape.Slots} {name : String} {n : Node}
  {extras : Extras} {a : α}

theorem skip_of_fill (h : shape.All ReadsWhole)
    (hfill : shape.fill name n slots = some (.ok slots')) : n.skip = .ok () := by
  induction shape with
  | done value => cases hfill
  | member own read fallback rest ih =>
    obtain ⟨hown, hrest⟩ := h
    rw [fill] at hfill
    by_cases heq : own = name
    · rw [if_pos heq] at hfill
      obtain ⟨b, hb, _⟩ := map_eq_ok_iff.1 (Option.some.inj hfill)
      exact hown hb
    · rw [if_neg heq] at hfill
      obtain ⟨r, hr, hfill⟩ := Option.map_eq_some_iff.1 hfill
      obtain ⟨t, rfl, _⟩ := map_eq_ok_iff.1 hfill
      exact ih hrest hr

/-- A member that is taken in is complete, whether it is declared or skipped over. -/
theorem skip_of_take (h : shape.All ReadsWhole)
    (htake : shape.take extras slots name n = .ok slots') : n.skip = .ok () := by
  by_cases hname : name ∈ shape.names
  · exact skip_of_fill h ((take_of_declared hname).1 htake).2
  · exact ((take_of_undeclared hname).1 htake).1.2

theorem skip_of_readMembers (h : shape.All ReadsWhole) {stop : Option ObjectFault}
    {ms : List (Quoted × Node)} (hread : shape.readMembers extras stop slots ms = .ok a) :
    Node.skipMembers stop ms = .ok () := by
  induction ms generalizing slots with
  | nil =>
    cases stop with
    | none => rfl
    | some f => exact absurd hread (readObjectFault_ne_ok _ _ _)
  | cons m ms ih =>
    obtain ⟨name, hname, hread⟩ := bind_eq_ok_iff.1 hread
    obtain ⟨slots', htake, hread⟩ := bind_eq_ok_iff.1 hread
    obtain ⟨hms, hstop⟩ := skipMembers_eq_ok_iff.1 (ih hread)
    have hm := skipping_of_content (readName_eq_ok_iff.1 hname)
    exact skipMembers_eq_ok_iff.2
      ⟨List.forall_mem_cons.2 ⟨⟨hm, skip_of_take h htake⟩, hms⟩, hstop⟩

theorem skip_of_readPositions (h : shape.All ReadsWhole) {whole : String}
    {stop : Option ListFault} {i : Nat} {ns : List Node}
    (hread : shape.readPositions whole stop i ns = .ok a) : Node.skipItems stop ns = .ok () := by
  induction shape generalizing i ns with
  | done value =>
    obtain ⟨_, hclose, _⟩ := bind_eq_ok_iff.1 hread
    obtain ⟨rfl, rfl⟩ := closeList_eq_ok hclose
    rfl
  | member own read fallback rest ih =>
    obtain ⟨hown, hrest⟩ := h
    cases ns with
    | nil =>
      cases stop with
      | none => rfl
      | some f => cases hread
    | cons n ns =>
      obtain ⟨b, hb, hread⟩ := bind_eq_ok_iff.1 hread
      obtain ⟨f, hf, _⟩ := map_eq_ok_iff.1 hread
      obtain ⟨hns, hstop⟩ := skipItems_eq_ok_iff.1 (ih hrest hf)
      exact skipItems_eq_ok_iff.2
        ⟨List.forall_mem_cons.2 ⟨hown (inside_eq_ok_iff.1 hb), hns⟩, hstop⟩

end Shape

theorem ReadsWhole.record {shape : Shape α} (h : shape.All ReadsWhole) (title : String)
    (extras : Extras) (room : Nat) : ReadsWhole (readRecord title extras room shape) := by
  intro n a hread
  match n with
  | .object ms stop => exact Shape.skip_of_readMembers h (enter_eq_ok_iff.1 hread).2
  | .list ns stop => exact Shape.skip_of_readPositions h (enter_eq_ok_iff.1 hread).2
  | .missing | .unexpected | .word _ _ | .numeral _ | .quoted _ =>
    exact absurd hread (refuse_ne_ok _ _ _)

end Json

theorem readsWhole_hereditary : Hereditary ReadsWhole where
  string := .string
  bool := .bool
  int64 := .int64
  real := .real
  noRoom _ _ _ h := nomatch h
  bare := .bare
  map f h := h.map f
  option h := h.option
  list room h := h.list room
  pair wanted whole room h := h.pair wanted whole room
  entries room h := h.entries room
  tagged room h := .tagged h room
  record title extras room _ h := .record h title extras room

/-! ### Texts -/

/-- What comes after a document is not looked at. -/
theorem readBytes_append {α : Type} {read : Reader α} (hwhole : ReadsWhole read)
    (hnumeral : ∀ n a, read (.numeral n) ≠ .ok a) {bs : List UInt8} {a : α}
    (h : readBytes read bs = .ok a) (more : List UInt8) : readBytes read (bs ++ more) = .ok a := by
  have hnode : Node.ofBytes (bs ++ more) = Node.ofBytes bs := by
    refine run_append (hwhole h) (fun n hn => ?_) more
    rw [readBytes, Node.ofBytes, hn] at h
    exact hnumeral n a h
  rw [readBytes, hnode]
  exact h

theorem readText_append {α : Type} {read : Reader α} (hwhole : ReadsWhole read)
    (hnumeral : ∀ n a, read (.numeral n) ≠ .ok a) {s : String} {a : α}
    (h : readText read s = .ok a) (more : String) : readText read (s ++ more) = .ok a := by
  have hbytes : Text.toBytes (s ++ more) = Text.toBytes s ++ Text.toBytes more := by
    rw [Text.toBytes_eq, Text.toBytes_eq, Text.toBytes_eq, String.toList_append, Text.encode_append]
  rw [readText, Node.ofString, hbytes]
  exact readBytes_append hwhole hnumeral h _

/-- **Reading looks at the first complete value only.**  A text that is read as a schema or as settings
is read as the same when it goes on, whatever comes after it; so are bytes, which need not spell
anything from there on. -/
theorem text_after_document_ignored :
    (∀ (text more : String) (s : Schema),
      Schema.ofText text = .ok s → Schema.ofText (text ++ more) = .ok s) ∧
    (∀ (text more : String) (c : Settings),
      Settings.ofText text = .ok c → Settings.ofText (text ++ more) = .ok c) ∧
    (∀ (bs more : List UInt8) (s : Schema),
      Schema.ofBytes bs = .ok s → Schema.ofBytes (bs ++ more) = .ok s) ∧
    ∀ (bs more : List UInt8) (c : Settings),
      readBytes (Settings.read maxNesting) bs = .ok c →
        readBytes (Settings.read maxNesting) (bs ++ more) = .ok c := by
  have hschema : ReadsWhole (Schema.read maxNesting) := readsWhole_hereditary.readSchema _
  have hsettings : ReadsWhole (Settings.read maxNesting) := readsWhole_hereditary.readSettings _
  -- a record is no number, the one value that may go on
  have hschemaNumber : ∀ n a, Schema.read maxNesting (.numeral n) ≠ .ok a :=
    fun _ a => refuse_ne_ok "struct Schema" _ a
  have hsettingsNumber : ∀ n a, Settings.read maxNesting (.numeral n) ≠ .ok a :=
    fun _ a => refuse_ne_ok "struct GroupConfig" _ a
  refine ⟨?_, ?_, ?_, ?_⟩
  · intro text more s h
    exact readText_append hschema hschemaNumber h more
  · intro text more c h
    exact readText_append hsettings hsettingsNumber h more
  · intro bs more s h
    exact readBytes_append hschema hschemaNumber h more
  · intro bs more c h
    exact readBytes_append hsettings hsettingsNumber h more

/-- A file with an include, and a number at its end that nobody asked for. -/
def notedFile : Value := .object [("includes", .list [.list [.string "base"]]), ("note", .int (-5))]

/-- More digits, brackets and bytes that spell nothing are all the same to it. -/
theorem notedFile_ignores_rest :
    (∃ s, s.includes = ["base"] ∧ Schema.ofText notedFile.compact = .ok s ∧
      Schema.ofText (notedFile.compact ++ "7\x7d null") = .ok s ∧
      Schema.ofBytes (Text.toBytes notedFile.compact ++ [0x37, 0xFF, 0xC0]) = .ok s) ∧
    Settings.ofText ("[]" ++ "],") = .ok .standard ∧
    readBytes (Settings.read maxNesting) (Text.toBytes "[]" ++ [0xFF]) = .ok .standard := by
  have hread : (Schema.ofText notedFile.compact).toOption.map Schema.includes = some ["base"] := by
    decide +kernel
  have hsettings : Settings.ofText "[]" = .ok .standard :=
    toOption_eq_some_iff.1 (by decide +kernel)
  obtain ⟨s, hs, hincludes⟩ := Option.map_eq_some_iff.1 hread
  have hs := toOption_eq_some_iff.1 hs
  obtain ⟨hschema, hconfig, hschemaBytes, hconfigBytes⟩ := text_after_document_ignored
  exact ⟨⟨s, hincludes, hs, hschema _ _ s hs, hschemaBytes _ _ s hs⟩, hconfig _ _ _ hsettings,
    hconfigBytes _ _ _ hsettings⟩

end IdlLink
