/-
A failure points at what it is about.

The path of a failure is put together on the way out of the document, one step for each member and
each element that was entered.  Read from the root it leads back in: to a node that the message
describes when something else was wanted, and to the object that lacks a member when one is missing.
Failures of other kinds are not looked at here.

* `Node.At`, `Found.Describes` — where a path leads, and what a message says of a node;
* `Locates` — the failures of a reader point at what they are about;
* `Locates.list`, `Locates.record`, … — one lemma for each way of putting readers together.
-/
import IdlLink.Json.Tagged
import IdlLink.Proofs.Records

namespace IdlLink.Json

variable {α β : Type}

/-! ### Failing -/

theorem inside_eq_error_iff {s : Segment} {r : Except Failure α} {f : Failure} :
    inside s r = .error f ↔ ∃ g, r = .error g ∧ g.under s = f := by
  cases r with
  | error g =>
    refine ⟨fun h => ⟨g, rfl, Except.error.inj h⟩, ?_⟩
    rintro ⟨_, ⟨⟩, rfl⟩
    rfl
  | ok a => exact ⟨fun h => (by cases h), fun ⟨_, h, _⟩ => (by cases h)⟩

theorem checked_eq_error_iff {r : Except SyntaxError α} {f : Failure} :
    checked r = .error f ↔ ∃ e, r = .error e ∧ ⟨[], .syntaxError e⟩ = f := by
  cases r with
  | error e =>
    refine ⟨fun h => ⟨e, rfl, Except.error.inj h⟩, ?_⟩
    rintro ⟨_, ⟨⟩, rfl⟩
    rfl
  | ok a => exact ⟨fun h => (by cases h), fun ⟨_, h, _⟩ => (by cases h)⟩

/-- An element further on in a list, and what is left after it. -/
theorem getElem?_of_drop {all ns : List Node} {n : Node} {i : Nat} (h : all.drop i = n :: ns) :
    all[i]? = some n ∧ all.drop (i + 1) = ns := by
  have hn : (all.drop i)[0]? = some n := by rw [h]; rfl
  rw [List.getElem?_drop] at hn
  refine ⟨hn, ?_⟩
  rw [← List.tail_drop, h]
  rfl

/-- The payload of a tag is one of those that are declared. -/
theorem Tags.exists_mem_of_find {tags : Tags α} {name : String} {p : Payload α}
    (h : tags.find name = .ok p) : ∃ t ∈ tags, t.2 = p := by
  rw [Tags.find] at h
  cases ht : tags.find? fun t => t.1 = name with
  | none =>
    rw [ht] at h
    cases h
  | some t =>
    rw [ht] at h
    exact ⟨t, List.mem_of_find?_eq_some ht, Except.ok.inj h⟩

/-! ### Places -/

/-- A path leads from a node to one of those in it, by the names of members and of tags and by the
positions of elements. -/
inductive Node.At : Node → List Segment → Node → Prop
  | here (n : Node) : At n [] n
  | member {ms : List (Quoted × Node)} {stop : Option ObjectFault} {q : Quoted} {name : String}
      {n m : Node} {path : List Segment} : (q, n) ∈ ms → q.content = .ok name → n.At path m →
      Node.At (.object ms stop) (.key name :: path) m
  | element {ns : List Node} {stop : Option ListFault} {i : Nat} {n m : Node}
      {path : List Segment} : ns[i]? = some n → n.At path m →
      Node.At (.list ns stop) (.index i :: path) m

/-- What a message says of a node. A tag without its content is no node of its own. -/
inductive Found.Describes : Found → Node → Prop
  | null : Describes .null (.word .null none)
  | true : Describes (.boolean true) (.word .true none)
  | false : Describes (.boolean false) (.word .false none)
  | integer {n : Numeral} {i : Int} : n.value = some (.integer i) →
      Describes (.integer i) (.numeral (.ok n))
  | real {n : Numeral} {x : Number.Binary64} : n.value = some (.real x) →
      Describes (.real x) (.numeral (.ok n))
  | string {q : Quoted} {s : String} : q.content = .ok s → Describes (.string s) (.quoted q)
  | list {ns : List Node} {stop : Option ListFault} : Describes .list (.list ns stop)
  | object {ms : List (Quoted × Node)} {stop : Option ObjectFault} :
      Describes .object (.object ms stop)

/-- A failure points from a node at what it is about. -/
structure Failure.PointsInto (f : Failure) (n : Node) : Prop where
  /-- What is described is where the path leads. -/
  mismatch : ∀ {found wanted}, f.problem = .mismatch found wanted → found ≠ .bareTag →
    ∃ m, n.At f.path m ∧ found.Describes m
  /-- What lacks a member is where the path leads. -/
  missing : ∀ {name}, f.problem = .missingMember name →
    ∃ ms, n.At f.path (.object ms none) ∧ ∀ m ∈ ms, m.1.content ≠ .ok name

/-- Whether a problem is one of another kind. -/
def Problem.IsOther : Problem → Prop
  | .mismatch found _ => found = .bareTag
  | .missingMember _ => False
  | _ => True

theorem Failure.PointsInto.of_isOther {f : Failure} {n : Node} (h : f.problem.IsOther) :
    f.PointsInto n where
  mismatch hf hne := by
    rw [hf] at h
    exact absurd h hne
  missing hf := by
    rw [hf] at h
    exact h.elim

/-- One step further out, the path begins with that step. -/
theorem Failure.PointsInto.under {f : Failure} {n n' : Node} {s : Segment} (h : f.PointsInto n)
    (hs : ∀ {path m}, n.At path m → n'.At (s :: path) m) : (f.under s).PointsInto n' where
  mismatch hf hne := by
    obtain ⟨m, hm, hfound⟩ := h.mismatch hf hne
    exact ⟨m, hs hm, hfound⟩
  missing hf := by
    obtain ⟨ms, hms, hname⟩ := h.missing hf
    exact ⟨ms, hs hms, hname⟩

/-! ### Computations that fail with another problem -/

/-- A computation fails with problems of other kinds only. -/
def FailsOtherwise (r : Except Failure α) : Prop :=
  ∀ ⦃f : Failure⦄, r = .error f → f.problem.IsOther

namespace FailsOtherwise

theorem ok (a : α) : FailsOtherwise (.ok a) := fun _ h => nomatch h

theorem failHere {p : Problem} (hp : p.IsOther) :
    FailsOtherwise (failHere p : Except Failure α) := by
  rintro f ⟨⟩
  exact hp

theorem failSyntax (e : SyntaxError) : FailsOtherwise (failSyntax e : Except Failure α) :=
  failHere trivial

theorem checked (r : Except SyntaxError α) : FailsOtherwise (checked r) := by
  intro f h
  obtain ⟨e, _, rfl⟩ := checked_eq_error_iff.1 h
  trivial

theorem inside {r : Except Failure α} (h : FailsOtherwise r) (s : Segment) :
    FailsOtherwise (inside s r) := by
  intro f hf
  obtain ⟨g, hg, rfl⟩ := inside_eq_error_iff.1 hf
  change g.problem.IsOther
  exact h hg

theorem bind {r : Except Failure α} {next : α → Except Failure β} (h : FailsOtherwise r)
    (hnext : ∀ a, FailsOtherwise (next a)) : FailsOtherwise (r >>= next) := by
  intro f hf
  rcases bind_eq_error_iff.1 hf with hf | ⟨a, _, hf⟩
  · exact h hf
  · exact hnext a hf

theorem readName (q : Quoted) : FailsOtherwise (readName q) := (checked _).inside _

/-- So does whatever comes of a fault in an object. -/
theorem readObjectFault {screen : String → Except Failure Unit}
    (h : ∀ name, FailsOtherwise (screen name)) (fault : ObjectFault) :
    FailsOtherwise (readObjectFault screen fault : Except Failure α) := by
  match fault with
  | .ended | .endedAfterComma | .trailingComma | .noComma | .keyNotString =>
    exact (failSyntax _).inside _
  | .key q => exact (readName q).bind fun _ => failSyntax _
  | .colon q atEnd => exact (readName q).bind fun name => (h name).bind fun _ => failSyntax _

theorem closeList (ns : List Node) (stop : Option ListFault) :
    FailsOtherwise (closeList ns stop) := by
  match ns, stop with
  | [], none => exact ok ()
  | [], some _ | _ :: _, _ => exact failSyntax _

theorem find (tags : Tags α) (name : String) : FailsOtherwise (tags.find name) := by
  rw [Tags.find]
  cases tags.find? fun t => t.1 = name with
  | none => exact failHere trivial
  | some t => exact ok t.2

theorem readTagFault (tags : Tags α) (stop : Option ObjectFault) :
    FailsOtherwise (readTagFault tags stop) := by
  match stop with
  | none | some .ended | some .endedAfterComma | some .trailingComma | some .noComma
  | some .keyNotString => exact failSyntax _
  | some (.key q) => exact (checked _).bind fun _ => failSyntax _
  | some (.colon q atEnd) =>
    exact (checked _).bind fun name => (find tags name).bind fun _ => failSyntax _

theorem closeTagged (ms : List (Quoted × Node)) (stop : Option ObjectFault) :
    FailsOtherwise (closeTagged ms stop) := by
  match ms, stop with
  | [], none => exact ok ()
  | [], some .ended | [], some .endedAfterComma | [], some .trailingComma | [], some .noComma
  | [], some .keyNotString | [], some (.key _) | [], some (.colon _ _) | _ :: _, _ =>
    exact failSyntax _

/-- A tag alone is refused as such. -/
theorem bare (p : Payload α) : FailsOtherwise p.bare := by
  cases p with
  | none value => exact ok value
  | content wanted read => exact failHere rfl

end FailsOtherwise

/-! ### Computations that fail inside of a node -/

/-- The failure of a computation points into a node. -/
def FailsInto (n : Node) (r : Except Failure α) : Prop :=
  ∀ ⦃f : Failure⦄, r = .error f → f.PointsInto n

/-- The failures of a reader point at what they are about. -/
def Locates (read : Reader α) : Prop := ∀ n, FailsInto n (read n)

theorem FailsOtherwise.failsInto {r : Except Failure α} (h : FailsOtherwise r) (n : Node) :
    FailsInto n r :=
  fun _ hf => .of_isOther (h hf)

namespace FailsInto

variable {n : Node} {r : Except Failure α}

theorem ok (a : α) : FailsInto n (.ok a) := (FailsOtherwise.ok a).failsInto n

theorem failHere {p : Problem} (hp : p.IsOther) : FailsInto n (failHere p : Except Failure α) :=
  (FailsOtherwise.failHere hp).failsInto n

theorem failSyntax (e : SyntaxError) : FailsInto n (failSyntax e : Except Failure α) :=
  failHere trivial

theorem bind {next : α → Except Failure β} (h : FailsInto n r)
    (hnext : ∀ a, r = .ok a → FailsInto n (next a)) : FailsInto n (r >>= next) := by
  intro f hf
  rcases bind_eq_error_iff.1 hf with hf | ⟨a, ha, hf⟩
  · exact h hf
  · exact hnext a ha hf

theorem map (h : FailsInto n r) (g : α → β) : FailsInto n (g <$> r) :=
  fun _ hf => h (map_eq_error_iff.1 hf)

/-- A list or object is entered where there is room for it. -/
theorem enter (h : FailsInto n r) (room : Nat) :
    FailsInto n (if room = 0 then Json.failSyntax .nestingLimit else r) := by
  by_cases hroom : room = 0
  · rw [if_pos hroom]
    exact failSyntax _
  · rw [if_neg hroom]
    exact h

theorem mismatch {found : Found} (hfound : found.Describes n) (wanted : String) :
    FailsInto n (Json.failHere (.mismatch found wanted) : Except Failure α) := by
  rintro f ⟨⟩
  refine ⟨fun h _ => ⟨n, .here n, ?_⟩, fun h => nomatch h⟩
  cases h
  exact hfound

/-- What fails in a member fails in the object, one step further out. -/
theorem member {ms : List (Quoted × Node)} {stop : Option ObjectFault} {q : Quoted} {name : String}
    (h : FailsInto n r) (hm : (q, n) ∈ ms) (hname : q.content = .ok name) :
    FailsInto (.object ms stop) (inside (.key name) r) := by
  intro f hf
  obtain ⟨g, hg, rfl⟩ := inside_eq_error_iff.1 hf
  exact (h hg).under (.member hm hname)

/-- So does what fails in an element. -/
theorem element {ns : List Node} {stop : Option ListFault} {i : Nat} (h : FailsInto n r)
    (hn : ns[i]? = some n) : FailsInto (.list ns stop) (inside (.index i) r) := by
  intro f hf
  obtain ⟨g, hg, rfl⟩ := inside_eq_error_iff.1 hf
  exact (h hg).under (.element hn)

end FailsInto

/-! ### Readers of one value -/

theorem numeralValue_eq_ok_iff {m : Except NumeralFault Numeral} {v : Number} :
    numeralValue m = .ok v ↔ ∃ n, m = .ok n ∧ n.value = some v := by
  cases m with
  | error e => exact ⟨fun h => (by cases h), fun ⟨_, h, _⟩ => (by cases h)⟩
  | ok n =>
    rw [numeralValue]
    cases hvalue : n.value with
    | none =>
      refine ⟨fun h => (by cases h), ?_⟩
      rintro ⟨_, ⟨⟩, h⟩
      rw [hvalue] at h
      cases h
    | some v' =>
      refine ⟨fun h => ⟨n, rfl, hvalue.trans (congrArg _ (Except.ok.inj h))⟩, ?_⟩
      rintro ⟨_, ⟨⟩, h⟩
      exact congrArg _ (Option.some.inj (hvalue.symm.trans h))

theorem Number.describes {m : Except NumeralFault Numeral} {v : Number}
    (h : numeralValue m = .ok v) : v.found.Describes (.numeral m) := by
  obtain ⟨n, rfl, hvalue⟩ := numeralValue_eq_ok_iff.1 h
  cases v with
  | integer i => exact .integer hvalue
  | real x => exact .real hvalue

/-- What is found at a node describes it. -/
theorem Node.describes_of_found {n : Node} {found : Found} (h : n.found = .ok found) :
    found.Describes n := by
  match n with
  | .missing | .unexpected | .word _ (some _) => cases h
  | .word .null none =>
    cases h
    exact .null
  | .word .true none =>
    cases h
    exact .true
  | .word .false none =>
    cases h
    exact .false
  | .numeral m =>
    obtain ⟨v, hv, rfl⟩ := map_eq_ok_iff.1 h
    exact Number.describes hv
  | .quoted q =>
    obtain ⟨s, hs, rfl⟩ := map_eq_ok_iff.1 h
    exact .string hs
  | .list _ _ =>
    cases h
    exact .list
  | .object _ _ =>
    cases h
    exact .object

namespace Locates

theorem refuse (wanted : String) : Locates (refuse wanted : Reader α) := fun n =>
  ((FailsOtherwise.checked _).failsInto n).bind fun _ hfound =>
    .mismatch (Node.describes_of_found (checked_eq_ok_iff.1 hfound)) wanted

theorem noRoom : Locates (noRoom : Reader α) := fun _ => .failSyntax _

theorem string (wanted : String) : Locates (readString wanted) := by
  intro n
  match n with
  | .quoted q => exact (FailsOtherwise.checked _).failsInto _
  | .missing | .unexpected | .word _ _ | .numeral _ | .list _ _ | .object _ _ =>
    exact refuse wanted _

theorem bool : Locates readBool := by
  intro n
  match n with
  | .word .true none | .word .false none => exact .ok _
  | .word .null _ | .word .true (some _) | .word .false (some _) | .missing | .unexpected
  | .quoted _ | .numeral _ | .list _ _ | .object _ _ => exact refuse "a boolean" _

theorem null : Locates readNull := by
  intro n
  match n with
  | .word .null none => exact .ok ()
  | .word .null (some _) | .word .true _ | .word .false _ | .missing | .unexpected | .quoted _
  | .numeral _ | .list _ _ | .object _ _ => exact refuse "unit" _

theorem int64 : Locates readInt64 := by
  intro n
  match n with
  | .numeral m =>
    refine ((FailsOtherwise.checked _).failsInto _).bind fun v hv => ?_
    have hfound := Number.describes (checked_eq_ok_iff.1 hv)
    cases v with
    | real x => exact .mismatch hfound "i64"
    | integer i =>
      change FailsInto _ (if i ≤ Int64.maxValue.toInt then _ else _)
      by_cases hi : i ≤ Int64.maxValue.toInt
      · rw [if_pos hi]
        exact .ok _
      · rw [if_neg hi]
        exact .failHere trivial
  | .missing | .unexpected | .word _ _ | .quoted _ | .list _ _ | .object _ _ =>
    exact refuse "i64" _

theorem real : Locates readReal := by
  intro n
  match n with
  | .numeral m => exact ((FailsOtherwise.checked _).failsInto _).map _
  | .missing | .unexpected | .word _ _ | .quoted _ | .list _ _ | .object _ _ =>
    exact refuse "f64" _

variable {read : Reader α}

theorem map (h : Locates read) (g : α → β) : Locates fun n => g <$> read n := fun n => (h n).map g

theorem option (h : Locates read) : Locates (readOption read) := by
  intro n
  match n with
  | .word .null none => exact .ok none
  | .word .null (some _) => exact .failSyntax _
  | .word .true _ | .word .false _ | .missing | .unexpected | .quoted _ | .numeral _ | .list _ _
  | .object _ _ => exact h.map some _

/-! ### Readers of lists, pairs and maps -/

theorem items (h : Locates read) {all ns : List Node} {i : Nat} (hns : all.drop i = ns)
    (stop : Option ListFault) : FailsInto (.list all stop) (readItems read stop i ns) := by
  induction ns generalizing i with
  | nil =>
    cases stop with
    | none => exact .ok []
    | some _ => exact .failSyntax _
  | cons n ns ih =>
    obtain ⟨hn, hns⟩ := getElem?_of_drop hns
    exact ((h n).element hn).bind fun _ _ => (ih hns).map _

theorem list (h : Locates read) (room : Nat) : Locates (readList room read) := by
  intro n
  match n with
  | .list ns stop => exact (h.items List.drop_zero stop).enter room
  | .missing | .unexpected | .word _ _ | .numeral _ | .quoted _ | .object _ _ =>
    exact refuse "a sequence" _

theorem pair (h : Locates read) (wanted whole : String) (room : Nat) :
    Locates (readPair wanted whole room read) := by
  intro n
  match n with
  | .list [] none => exact (FailsInto.failHere (by trivial)).enter room
  | .list [] (some _) => exact (FailsInto.failSyntax _).enter room
  | .list [a] none =>
    exact (((h a).element rfl).bind fun _ _ => .failHere (by trivial)).enter room
  | .list [a] (some _) => exact (((h a).element rfl).bind fun _ _ => .failSyntax _).enter room
  | .list (a :: b :: rest) stop =>
    refine (((h a).element rfl).bind fun _ _ => ((h b).element rfl).bind fun _ _ => ?_).enter room
    exact ((FailsOtherwise.closeList rest stop).failsInto _).bind fun _ _ => .ok _
  | .missing | .unexpected | .word _ _ | .numeral _ | .quoted _ | .object _ _ =>
    exact refuse wanted _

theorem entriesFrom (h : Locates read) {all ms : List (Quoted × Node)} (hms : ms ⊆ all)
    (stop : Option ObjectFault) (acc : OrderedMap String α) :
    FailsInto (.object all stop) (readEntries read stop acc ms) := by
  induction ms generalizing acc with
  | nil =>
    cases stop with
    | none => exact .ok acc
    | some fault => exact (FailsOtherwise.readObjectFault (fun _ => .ok ()) fault).failsInto _
  | cons m ms ih =>
    obtain ⟨hm, hms⟩ := List.cons_subset.1 hms
    refine ((FailsOtherwise.readName _).failsInto _).bind fun name hname => ?_
    exact ((h m.2).member hm (readName_eq_ok_iff.1 hname)).bind fun _ _ => ih hms _

theorem entries (h : Locates read) (room : Nat) : Locates (readMap room read) := by
  intro n
  match n with
  | .object ms stop => exact (h.entriesFrom (List.Subset.refl _) stop .empty).enter room
  | .missing | .unexpected | .word _ _ | .numeral _ | .quoted _ | .list _ _ =>
    exact refuse "a map" _

/-! ### Readers of tagged values -/

theorem payload {p : Payload α} (h : ∀ wanted read, p = .content wanted read → Locates read) :
    Locates p.read := by
  cases p with
  | none value => exact fun n => (null n).bind fun _ _ => .ok value
  | content wanted read => exact h wanted read rfl

/-- The contents of the tags are read by readers that locate their failures. -/
theorem tagged {tags : Tags α} (h : ∀ t ∈ tags, Locates t.2.read) (room : Nat) :
    Locates (readTagged room tags) := by
  intro n
  have hfind : ∀ {name p}, tags.find name = .ok p → Locates p.read := by
    intro name p hp
    obtain ⟨t, ht, rfl⟩ := Tags.exists_mem_of_find hp
    exact h t ht
  match n with
  | .quoted q =>
    refine FailsOtherwise.failsInto ?_ _
    exact (FailsOtherwise.checked _).bind fun name => (FailsOtherwise.find tags name).bind fun p =>
      (FailsOtherwise.bare p).inside _
  | .object [] stop => exact ((FailsOtherwise.readTagFault tags stop).failsInto _).enter room
  | .object (m :: ms) stop =>
    refine FailsInto.enter ?_ room
    refine ((FailsOtherwise.checked _).failsInto _).bind fun name hname => ?_
    refine ((FailsOtherwise.find tags name).failsInto _).bind fun p hp => ?_
    refine ((hfind hp m.2).member List.mem_cons_self (checked_eq_ok_iff.1 hname)).bind fun a _ => ?_
    exact ((FailsOtherwise.closeTagged ms stop).failsInto _).bind fun _ _ => .ok a
  | .missing | .unexpected | .word _ _ | .numeral _ | .list _ _ => exact .failSyntax _

end Locates

/-! ### Readers of records -/

/-- Every member of a record is read by a reader that locates its failures. -/
inductive Shape.AllLocate : {α : Type} → Shape α → Prop
  | done {α : Type} (value : α) : AllLocate (.done value)
  | member {α β : Type} {name : String} {read : Reader β} {fallback : Option β}
      {rest : Shape (β → α)} : Locates read → AllLocate rest →
        AllLocate (.member name read fallback rest)

namespace Shape

variable {shape : Shape α} {slots slots' : shape.Slots} {name : String} {n : Node}
  {extras : Extras} {all ms : List (Quoted × Node)}

/-- The slots that are empty once a slot is filled were empty before, and are others. -/
theorem isFilled_of_fill (h : shape.fill name n slots = some (.ok slots')) {other : String}
    (hother : shape.isFilled other slots' = some false) :
    other ≠ name ∧ shape.isFilled other slots = some false := by
  induction shape with
  | done value => cases h
  | member own read fallback rest ih =>
    rw [fill] at h
    rw [isFilled] at hother ⊢
    by_cases hown : own = name
    · rw [if_pos hown] at h
      obtain ⟨b, hb, rfl⟩ := map_eq_ok_iff.1 (Option.some.inj h)
      by_cases heq : own = other
      · rw [if_pos heq] at hother
        cases hother
      · rw [if_neg heq] at hother ⊢
        exact ⟨fun h => heq (hown.trans h.symm), hother⟩
    · rw [if_neg hown] at h
      obtain ⟨r, hr, h⟩ := Option.map_eq_some_iff.1 h
      obtain ⟨t, rfl, rfl⟩ := map_eq_ok_iff.1 h
      by_cases heq : own = other
      · rw [if_pos heq] at hother ⊢
        exact ⟨heq ▸ hown, hother⟩
      · rw [if_neg heq] at hother ⊢
        exact ih hr hother

/-- A name that is let through has an empty slot or none; what is refused is refused as a name. -/
theorem screen_failsOtherwise (extras : Extras) (shape : Shape α) (slots : shape.Slots)
    (name : String) : FailsOtherwise (shape.screen extras slots name) := by
  unfold screen
  cases shape.isFilled name slots with
  | some filled =>
    cases filled with
    | true => exact .failHere trivial
    | false => exact .ok Bool.true
  | none =>
    cases extras with
    | skipped => exact .ok Bool.false
    | refused => exact (FailsOtherwise.failHere (by trivial)).inside _

theorem AllLocate.fill (h : shape.AllLocate) (slots : shape.Slots) (name : String) (n : Node) :
    FailsInto n ((shape.fill name n slots).getD (.ok slots)) := by
  induction h with
  | done value => exact .ok slots
  | @member α β own read fallback rest hread _ ih =>
    rw [Shape.fill]
    by_cases hown : own = name
    · rw [if_pos hown]
      exact (hread n).map _
    · rw [if_neg hown]
      specialize ih slots.2
      cases hrest : rest.fill name n slots.2 with
      | none => exact .ok slots
      | some r =>
        rw [hrest] at ih
        exact FailsInto.map ih _

theorem AllLocate.take (h : shape.AllLocate) {q : Quoted} {stop : Option ObjectFault}
    (hm : (q, n) ∈ all) (hname : q.content = .ok name) :
    FailsInto (.object all stop) (shape.take extras slots name n) := by
  refine ((screen_failsOtherwise extras shape slots name).failsInto _).bind fun declared _ => ?_
  cases declared with
  | true => exact (h.fill slots name n).member hm hname
  | false =>
    exact (((FailsOtherwise.checked n.skip).inside _).failsInto _).bind fun _ _ => .ok slots

/-- A member that is missing has an empty slot. -/
theorem finish_eq_error (hnames : shape.names.Nodup) {f : Failure}
    (h : shape.finish slots = .error f) :
    ∃ name, ⟨[], .missingMember name⟩ = f ∧ shape.isFilled name slots = some false := by
  induction shape with
  | done value => cases h
  | member own read fallback rest ih =>
    obtain ⟨hown, hnames⟩ := List.nodup_cons.1 hnames
    rw [finish] at h
    cases hslot : slots.1.or fallback with
    | none =>
      rw [hslot] at h
      have hempty : slots.1 = none := (Option.or_eq_none_iff.1 hslot).1
      refine ⟨own, Except.error.inj h, ?_⟩
      rw [isFilled, if_pos rfl, hempty]
      rfl
    | some b =>
      rw [hslot] at h
      obtain ⟨name, hf, hfilled⟩ := ih hnames (map_eq_error_iff.1 h)
      refine ⟨name, hf, (if_neg ?_).trans hfilled⟩
      rintro rfl
      rw [isFilled_eq_none_iff.2 hown] at hfilled
      cases hfilled

/-- Every member of an object is still to come, or the slot of its name is not empty any more. -/
def Passed (shape : Shape α) (slots : shape.Slots) (all ms : List (Quoted × Node)) : Prop :=
  ∀ m ∈ all, m ∈ ms ∨ ∀ name, m.1.content = .ok name → shape.isFilled name slots ≠ some false

theorem Passed.take {q : Quoted} (h : shape.Passed slots all ((q, n) :: ms))
    (hq : q.content = .ok name) (htake : shape.take extras slots name n = .ok slots') :
    shape.Passed slots' all ms := by
  have hempty : ∀ {other}, shape.isFilled other slots' = some false →
      other ≠ name ∧ shape.isFilled other slots = some false := by
    intro other hother
    by_cases hname : name ∈ shape.names
    · exact isFilled_of_fill ((take_of_declared hname).1 htake).2 hother
    · obtain ⟨_, rfl⟩ := (take_of_undeclared hname).1 htake
      refine ⟨?_, hother⟩
      rintro rfl
      rw [isFilled_eq_none_iff.2 hname] at hother
      cases hother
  intro m hm
  rcases h m hm with hm | hm
  · rcases List.mem_cons.1 hm with rfl | hm
    · refine .inr fun other hother hfilled => (hempty hfilled).1 ?_
      exact Except.ok.inj (hother.symm.trans hq)
    · exact .inl hm
  · exact .inr fun other hother hfilled => hm other hother (hempty hfilled).2

theorem AllLocate.readMembers (h : shape.AllLocate) (hnames : shape.names.Nodup) (hms : ms ⊆ all)
    (hpassed : shape.Passed slots all ms) (stop : Option ObjectFault) :
    FailsInto (.object all stop) (shape.readMembers extras stop slots ms) := by
  induction ms generalizing slots with
  | nil =>
    cases stop with
    | some fault =>
      refine (FailsOtherwise.readObjectFault (fun name => ?_) fault).failsInto _
      exact (screen_failsOtherwise extras shape slots name).bind fun _ => .ok ()
    | none =>
      intro f hf
      obtain ⟨name, rfl, hfilled⟩ := finish_eq_error hnames hf
      refine ⟨fun h => (by cases h), fun h => ⟨all, .here _, fun m hm hname => ?_⟩⟩
      cases h
      rcases hpassed m hm with hm | hm
      · cases hm
      · exact hm name hname hfilled
  | cons m ms ih =>
    obtain ⟨hm, hms⟩ := List.cons_subset.1 hms
    refine ((FailsOtherwise.readName _).failsInto _).bind fun name hname => ?_
    have hname := readName_eq_ok_iff.1 hname
    exact (h.take hm hname).bind fun slots' htake => ih hms (hpassed.take hname htake)

theorem AllLocate.readPositions (h : shape.AllLocate) {all ns : List Node} {i : Nat}
    (hns : all.drop i = ns) (whole : String) (stop : Option ListFault) :
    FailsInto (.list all stop) (shape.readPositions whole stop i ns) := by
  induction h generalizing i ns with
  | done value => exact ((FailsOtherwise.closeList ns stop).failsInto _).bind fun _ _ => .ok value
  | @member α β name read fallback rest hread _ ih =>
    cases ns with
    | nil =>
      match stop, fallback with
      | some _, _ => exact .failSyntax _
      | none, none => exact .failHere (by trivial)
      | none, some b =>
        have hnil : all.drop (i + 1) = [] :=
          List.drop_eq_nil_iff.2 (Nat.le_succ_of_le (List.drop_eq_nil_iff.1 hns))
        exact (ih hnil).map _
    | cons n ns =>
      obtain ⟨hn, hns⟩ := getElem?_of_drop hns
      exact ((hread n).element hn).bind fun _ _ => (ih hns).map _

end Shape

theorem Locates.record {shape : Shape α} (h : shape.AllLocate) (hnames : shape.names.Nodup)
    (title : String) (extras : Extras) (room : Nat) :
    Locates (readRecord title extras room shape) := by
  intro n
  match n with
  | .object ms stop =>
    exact (h.readMembers hnames (List.Subset.refl _) (fun _ hm => .inl hm) stop).enter room
  | .list ns stop => exact (h.readPositions List.drop_zero _ stop).enter room
  | .missing | .unexpected | .word _ _ | .numeral _ | .quoted _ =>
    exact refuse ("struct " ++ title) _

end IdlLink.Json
