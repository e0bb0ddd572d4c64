/-
Other spellings of a document.

The form of what stands at a place decides how the same thing may be spelled otherwise there: a
record may have its members in any order and others that nobody asked for, or be a list of its
values.  `Respelled` makes one such change at some place, however deep; space between tokens is no
part of a node at all.

* `Respelled` — one change of spelling;
* `Respects` — a reader reads the same after one change that it read before it;
* `Respects.list`, `Respects.record`, … — one lemma for each way of putting readers together.
-/
import IdlLink.Json.Tagged
import IdlLink.Proofs.Forms
import IdlLink.Proofs.Grammar
import IdlLink.Proofs.Records
import Mathlib.Data.List.Nodup

namespace IdlLink

open Json

/-! ### Other spellings -/

/-- One change of spelling at some place of a document that has a form. -/
inductive Respelled : Form → Node → Node → Prop
  /-- The members of a record are put in another order. -/
  | reorder {r : RecordForm} {ms ms' : List (Quoted × Node)} : ms.Perm ms' →
      Respelled (.record r) (.object ms none) (.object ms' none)
  /-- A member that nobody asked for is put anywhere, with any well-formed value. -/
  | enlarge {r : RecordForm} {q : Quoted} {name : String} {n : Node} {cs : List Char}
      {before after : List (Quoted × Node)} : r.extras = .skipped → q.content = .ok name →
      name ∉ r.names → SpellsValue n cs →
      Respelled (.record r) (.object (before ++ after) none)
        (.object (before ++ (q, n) :: after) none)
  /-- A record with all of its members and no others becomes the list of their values in order of
  declaration. -/
  | positional {r : RecordForm} {ms ms' : List (Quoted × Node)} : ms.Perm ms' →
      ms'.map (fun m => m.1.content) = r.names.map .ok →
      Respelled (.record r) (.object ms none) (.list (ms'.map Prod.snd) none)
  /-- The value of a member is spelled otherwise. -/
  | member {r : RecordForm} {q : Quoted} {name : String} {form : Form} {n n' : Node}
      {before after : List (Quoted × Node)} : q.content = .ok name → (name, form) ∈ r.members →
      Respelled form n n' →
      Respelled (.record r) (.object (before ++ (q, n) :: after) none)
        (.object (before ++ (q, n') :: after) none)
  /-- So is a value of a record that is a list already. -/
  | position {r : RecordForm} {name : String} {form : Form} {n n' : Node}
      {before after : List Node} : r.members[before.length]? = some (name, form) →
      Respelled form n n' →
      Respelled (.record r) (.list (before ++ n :: after) none) (.list (before ++ n' :: after) none)
  /-- An element of a list is spelled otherwise. -/
  | element {form : Form} {n n' : Node} {before after : List Node} : Respelled form n n' →
      Respelled (.list form) (.list (before ++ n :: after) none)
        (.list (before ++ n' :: after) none)
  /-- So is an element of a pair. -/
  | part {form : Form} {n n' : Node} {before after : List Node} : Respelled form n n' →
      Respelled (.pair form) (.list (before ++ n :: after) none)
        (.list (before ++ n' :: after) none)
  /-- So is a value of a map. The order of the map stays. -/
  | entry {form : Form} {q : Quoted} {n n' : Node} {before after : List (Quoted × Node)} :
      Respelled form n n' →
      Respelled (.map form) (.object (before ++ (q, n) :: after) none)
        (.object (before ++ (q, n') :: after) none)
  /-- So is the content of a tag. -/
  | content {t : TagForm} {q : Quoted} {name : String} {form : Form} {n n' : Node} :
      q.content = .ok name → (name, form) ∈ t.contents → Respelled form n n' →
      Respelled (.tagged t) (.object [(q, n)] none) (.object [(q, n')] none)

/-- A reader reads after a change of spelling what it read before it. -/
def Respects {α : Type} (form : Form) (read : Reader α) : Prop :=
  ∀ ⦃n n' : Node⦄, Respelled form n n' → ∀ ⦃a : α⦄, read n = .ok a → read n' = .ok a

variable {α β : Type} {form : Form} {read : Reader α}

/-! ### Readers of one value -/

theorem Respects.plain (read : Reader α) : Respects .plain read :=
  fun _ _ h => nomatch h

theorem Respects.noRoom (form : Form) : Respects form (noRoom : Reader α) :=
  fun _ _ _ _ h => nomatch h

theorem Respects.map (h : Respects form read) (f : α → β) :
    Respects form (fun n => f <$> read n) := by
  intro n n' hn b hread
  obtain ⟨a, ha, rfl⟩ := map_eq_ok_iff.1 hread
  exact map_eq_ok_iff.2 ⟨a, h hn ha, rfl⟩

/-- A null has one spelling only. -/
theorem Respects.option (h : Respects form read) : Respects form (readOption read) := by
  intro n n' hn o hread
  have hn₀ : readOption read n = some <$> read n := by cases hn <;> rfl
  have hn₁ : readOption read n' = some <$> read n' := by cases hn <;> rfl
  rw [hn₀] at hread
  rw [hn₁]
  exact h.map some hn hread

/-! ### Readers of lists, pairs and maps -/

theorem readItems_replace {n n' : Node} (h : ∀ ⦃a⦄, read n = .ok a → read n' = .ok a)
    {before after : List Node} {i : Nat} {as : List α}
    (hread : readItems read none i (before ++ n :: after) = .ok as) :
    readItems read none i (before ++ n' :: after) = .ok as := by
  induction before generalizing i as with
  | nil =>
    obtain ⟨a, ha, hread⟩ := bind_eq_ok_iff.1 hread
    exact bind_eq_ok_iff.2 ⟨a, inside_eq_ok_iff.2 (h (inside_eq_ok_iff.1 ha)), hread⟩
  | cons m before ih =>
    obtain ⟨a, ha, hread⟩ := bind_eq_ok_iff.1 hread
    obtain ⟨as, has, rfl⟩ := map_eq_ok_iff.1 hread
    exact bind_eq_ok_iff.2 ⟨a, ha, map_eq_ok_iff.2 ⟨as, ih has, rfl⟩⟩

theorem Respects.list (h : Respects form read) (room : Nat) :
    Respects (.list form) (readList room read) := by
  intro n n' hn as hread
  cases hn with
  | element hn =>
    obtain ⟨hroom, hread⟩ := enter_eq_ok_iff.1 hread
    exact enter_eq_ok_iff.2 ⟨hroom, readItems_replace (h hn) hread⟩

theorem readPair_eq_ok_iff {wanted whole : String} {room : Nat} {ns : List Node} {p : α × α} :
    readPair wanted whole room read (.list ns none) = .ok p ↔
      room ≠ 0 ∧ ∃ n n', ns = [n, n'] ∧ read n = .ok p.1 ∧ read n' = .ok p.2 := by
  refine enter_eq_ok_iff.trans (and_congr_right fun _ => ?_)
  match ns with
  | [] => exact ⟨fun h => (by cases h), fun ⟨_, _, h, _⟩ => (by cases h)⟩
  | [n] =>
    refine ⟨fun h => ?_, fun ⟨_, _, h, _⟩ => (by cases h)⟩
    obtain ⟨_, _, h⟩ := bind_eq_ok_iff.1 h
    cases h
  | [n, n'] =>
    constructor
    · intro h
      obtain ⟨x, hx, h⟩ := bind_eq_ok_iff.1 h
      obtain ⟨y, hy, h⟩ := bind_eq_ok_iff.1 h
      cases h
      exact ⟨n, n', rfl, inside_eq_ok_iff.1 hx, inside_eq_ok_iff.1 hy⟩
    · rintro ⟨_, _, h, hx, hy⟩
      cases h
      exact bind_eq_ok_iff.2 ⟨p.1, inside_eq_ok_iff.2 hx,
        bind_eq_ok_iff.2 ⟨p.2, inside_eq_ok_iff.2 hy, rfl⟩⟩
  | n :: n' :: _ :: _ =>
    refine ⟨fun h => ?_, fun ⟨_, _, h, _⟩ => (by cases h)⟩
    obtain ⟨_, _, h⟩ := bind_eq_ok_iff.1 h
    obtain ⟨_, _, h⟩ := bind_eq_ok_iff.1 h
    cases h

theorem Respects.pair (h : Respects form read) (wanted whole : String) (room : Nat) :
    Respects (.pair form) (readPair wanted whole room read) := by
  intro n n' hn p hread
  cases hn with
  | @part _ _ _ before after hn =>
    obtain ⟨hroom, x, y, hparts, hx, hy⟩ := readPair_eq_ok_iff.1 hread
    refine readPair_eq_ok_iff.2 ⟨hroom, ?_⟩
    rcases before with _ | ⟨_, _ | ⟨_, _⟩⟩
    · obtain ⟨rfl, rfl⟩ := List.cons.inj hparts
      exact ⟨_, y, rfl, h hn hx, hy⟩
    · obtain ⟨rfl, hrest⟩ := List.cons.inj hparts
      obtain ⟨rfl, rfl⟩ := List.cons.inj hrest
      exact ⟨_, _, rfl, hx, h hn hy⟩
    · simp at hparts

theorem readEntries_replace {q : Quoted} {n n' : Node} (h : ∀ ⦃a⦄, read n = .ok a → read n' = .ok a)
    {before after : List (Quoted × Node)} {acc m : OrderedMap String α}
    (hread : readEntries read none acc (before ++ (q, n) :: after) = .ok m) :
    readEntries read none acc (before ++ (q, n') :: after) = .ok m := by
  induction before generalizing acc with
  | nil =>
    obtain ⟨name, hname, hread⟩ := bind_eq_ok_iff.1 hread
    obtain ⟨a, ha, hread⟩ := bind_eq_ok_iff.1 hread
    exact bind_eq_ok_iff.2 ⟨name, hname,
      bind_eq_ok_iff.2 ⟨a, inside_eq_ok_iff.2 (h (inside_eq_ok_iff.1 ha)), hread⟩⟩
  | cons e before ih =>
    obtain ⟨name, hname, hread⟩ := bind_eq_ok_iff.1 hread
    obtain ⟨a, ha, hread⟩ := bind_eq_ok_iff.1 hread
    exact bind_eq_ok_iff.2 ⟨name, hname, bind_eq_ok_iff.2 ⟨a, ha, ih hread⟩⟩

theorem Respects.entries (h : Respects form read) (room : Nat) :
    Respects (.map form) (readMap room read) := by
  intro n n' hn m hread
  cases hn with
  | entry hn =>
    obtain ⟨hroom, hread⟩ := enter_eq_ok_iff.1 hread
    exact enter_eq_ok_iff.2 ⟨hroom, readEntries_replace (h hn) hread⟩

/-! ### Readers of tagged values -/

/-- The contents of a tag are read by readers that respect its form. -/
theorem Respects.tagged {t : TagForm} {tags : Tags α} (room : Nat)
    (h : ∀ name form, (name, form) ∈ t.contents →
      ∀ p, tags.find name = .ok p → Respects form p.read) :
    Respects (.tagged t) (readTagged room tags) := by
  intro n n' hn a hread
  cases hn with
  | content hq hform hn =>
    obtain ⟨hroom, hread⟩ := enter_eq_ok_iff.1 hread
    obtain ⟨name, hname, hread⟩ := bind_eq_ok_iff.1 hread
    obtain ⟨p, hp, hread⟩ := bind_eq_ok_iff.1 hread
    obtain ⟨a, ha, hread⟩ := bind_eq_ok_iff.1 hread
    obtain rfl := Except.ok.inj ((checked_eq_ok_iff.1 hname).symm.trans hq)
    have hcontent := h name _ hform p hp hn (inside_eq_ok_iff.1 ha)
    refine enter_eq_ok_iff.2 ⟨hroom, bind_eq_ok_iff.2 ⟨name, hname, bind_eq_ok_iff.2 ⟨p, hp, ?_⟩⟩⟩
    exact bind_eq_ok_iff.2 ⟨a, inside_eq_ok_iff.2 hcontent, hread⟩

/-! ### Readers of records -/

/-- The members of a record are read by readers that respect their forms. -/
inductive Follows : {α : Type} → Shape α → List (String × Form) → Prop
  | done {α : Type} (value : α) : Follows (.done value) []
  | member {α β : Type} {name : String} {read : Reader β} {fallback : Option β}
      {rest : Shape (β → α)} {form : Form} {fields : List (String × Form)} :
      Respects form read → Follows rest fields →
        Follows (.member name read fallback rest) ((name, form) :: fields)

section Records

variable {shape : Shape α} {fields : List (String × Form)} {name : String} {q : Quoted}
  {n n' : Node} {a : α}

theorem Follows.names_eq (h : Follows shape fields) : shape.names = fields.map Prod.fst := by
  induction h with
  | done => rfl
  | member _ _ ih => rw [Shape.names, ih, List.map_cons]

/-- The one value that is left for a slot may be replaced. -/
theorem settles_replace {slot fallback : Option α} {before after : List Node}
    (h : ∀ ⦃a⦄, read n = .ok a → read n' = .ok a)
    (hread : Settles read slot fallback (before ++ n :: after) a) :
    Settles read slot fallback (before ++ n' :: after) a := by
  cases before with
  | nil =>
    obtain ⟨hslot, a', ha', hread⟩ := Settles.cons_iff.1 hread
    exact Settles.cons_iff.2 ⟨hslot, a', h ha', hread⟩
  | cons m before =>
    have hlength := hread.length_le
    simp at hlength

theorem Follows.reads_replace (h : Follows shape fields) {slots : shape.Slots}
    (hnames : (fields.map Prod.fst).Nodup) (hq : q.content = .ok name)
    (hform : (name, form) ∈ fields) (hn : Respelled form n n') {before after : List (Quoted × Node)}
    (hread : shape.Reads (before ++ (q, n) :: after) slots a) :
    shape.Reads (before ++ (q, n') :: after) slots a := by
  -- under every other name there is what was there before
  have hother : ∀ other, name ≠ other → valuesUnder other (before ++ (q, n') :: after) =
      valuesUnder other (before ++ (q, n) :: after) := by
    intro other hne
    rw [valuesUnder_append, valuesUnder_append, valuesUnder_cons_of_ne (content_ne hq hne),
      valuesUnder_cons_of_ne (content_ne hq hne)]
  induction h with
  | done value => cases hform
  | @member α β own read fallback rest own_form fields hrespects hrest ih =>
    obtain ⟨hown, hnames⟩ := List.nodup_cons.1 hnames
    obtain ⟨b, f, hb, hf, rfl⟩ := hread
    rcases List.mem_cons.1 hform with heq | hform'
    · cases heq
      refine ⟨b, f, ?_, hf.congr fun other hmem => hother other ?_, rfl⟩
      · rw [valuesUnder_append, valuesUnder_cons_of_eq hq] at hb ⊢
        exact settles_replace (hrespects hn) hb
      · rintro rfl
        exact hown (hrest.names_eq ▸ hmem)
    · have hne : name ≠ own := by
        rintro rfl
        exact hown (List.mem_map.2 ⟨_, hform', rfl⟩)
      exact ⟨b, f, (hother own hne).symm ▸ hb, ih hnames hform' hf, rfl⟩

theorem Follows.positions_replace (h : Follows shape fields) {whole : String}
    {before after : List Node} (hform : fields[before.length]? = some (name, form))
    (hn : Respelled form n n') {i : Nat}
    (hread : shape.readPositions whole none i (before ++ n :: after) = .ok a) :
    shape.readPositions whole none i (before ++ n' :: after) = .ok a := by
  induction h generalizing before i with
  | done value => cases hform
  | @member α β own read fallback rest own_form fields hrespects hrest ih =>
    cases before with
    | nil =>
      cases hform
      obtain ⟨b, hb, hread⟩ := bind_eq_ok_iff.1 hread
      have hb' := hrespects hn (inside_eq_ok_iff.1 hb)
      exact bind_eq_ok_iff.2 ⟨b, inside_eq_ok_iff.2 hb', hread⟩
    | cons m before =>
      obtain ⟨b, hb, hread⟩ := bind_eq_ok_iff.1 hread
      obtain ⟨f, hf, rfl⟩ := map_eq_ok_iff.1 hread
      exact bind_eq_ok_iff.2 ⟨b, hb, map_eq_ok_iff.2 ⟨f, ih hform hf, rfl⟩⟩

end Records

/-- A record of some form is read the same however it is spelled. -/
theorem Respects.record {r : RecordForm} {shape : Shape α} (h : Follows shape r.members)
    (title : String) (room : Nat) :
    Respects (.record r) (readRecord title r.extras room shape) := by
  intro n n' hn a hread
  have hnames : shape.names = r.names := h.names_eq
  have hnodup : shape.names.Nodup := hnames ▸ r.names_nodup
  cases hn with
  | reorder hperm =>
    obtain ⟨hroom, hadmits, hreads⟩ := (Shape.readRecord_object_iff hnodup).1 hread
    exact (Shape.readRecord_object_iff hnodup).2
      ⟨hroom, fun m hm => hadmits m (hperm.mem_iff.2 hm), hreads.perm hperm⟩
  | @enlarge _ q name n _ before after hextras hq hname hcs =>
    obtain ⟨hroom, hadmits, hreads⟩ := (Shape.readRecord_object_iff hnodup).1 hread
    rw [List.forall_mem_append] at hadmits
    have hadded : shape.Admits r.extras (q, n) := ⟨name, hq, .inr ⟨hextras, skip_value hcs⟩⟩
    refine (Shape.readRecord_object_iff hnodup).2 ⟨hroom, ?_, hreads.congr fun other hother => ?_⟩
    · exact List.forall_mem_append.2 ⟨hadmits.1, List.forall_mem_cons.2 ⟨hadded, hadmits.2⟩⟩
    · have hne : name ≠ other := by
        rintro rfl
        exact hname (hnames ▸ hother)
      rw [valuesUnder_append, valuesUnder_append, valuesUnder_cons_of_ne (content_ne hq hne)]
  | @positional _ ms ms' hperm hordered =>
    obtain ⟨hroom, hadmits, hreads⟩ := (Shape.readRecord_object_iff hnodup).1 hread
    have hordered : ms'.map (fun m => m.1.content) = shape.names.map .ok := hnames ▸ hordered
    have hms' : (ms'.map fun m => m.1.content).Nodup :=
      hordered ▸ List.Nodup.map (fun _ _ => Except.ok.inj) hnodup
    exact enter_eq_ok_iff.2 ⟨hroom, (hreads.perm hperm).readPositions hordered
      (fun m hm name hname => valuesUnder_of_nodup hms' hm hname) 0⟩
  | @member _ q name form n n' before after hq hform hn =>
    obtain ⟨hroom, hadmits, hreads⟩ := (Shape.readRecord_object_iff hnodup).1 hread
    rw [List.forall_mem_append, List.forall_mem_cons] at hadmits
    have hdeclared : shape.Admits r.extras (q, n') :=
      ⟨name, hq, .inl (hnames ▸ List.mem_map_of_mem hform)⟩
    refine (Shape.readRecord_object_iff hnodup).2 ⟨hroom, ?_, ?_⟩
    · exact List.forall_mem_append.2 ⟨hadmits.1, List.forall_mem_cons.2 ⟨hdeclared, hadmits.2.2⟩⟩
    · exact h.reads_replace r.names_nodup hq hform hn hreads
  | position hform hn =>
    obtain ⟨hroom, hread⟩ := enter_eq_ok_iff.1 hread
    exact enter_eq_ok_iff.2 ⟨hroom, h.positions_replace hform hn hread⟩

end IdlLink
