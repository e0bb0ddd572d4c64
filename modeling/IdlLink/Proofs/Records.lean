/-
What an object is read as where a record is wanted.

The reader goes through the members one by one and fills a slot for each that is declared.  What it
comes to can be said without that order: every member has to be admitted, and each slot is settled
by the one value under its name, or by its default where there is none.

* `Shape.Admits`, `Shape.Reads` — a member is let through, and the slots come to a record;
* `readMembers_eq_ok_iff` — reading the members succeeds just then;
* `Shape.Reads.congr` — so it depends on what stands under each declared name, and on nothing else;
* `Shape.Reads.readPositions` — and the values in order, as a list, are read as the same record.
-/
import IdlLink.Json.Record
import IdlLink.Proofs.Outcome

namespace IdlLink.Json

variable {α β : Type}

theorem inside_ok (s : Segment) (a : α) : inside s (.ok a) = .ok a := rfl

theorem inside_eq_ok_iff {s : Segment} {r : Except Failure α} {a : α} :
    inside s r = .ok a ↔ r = .ok a := by
  cases r with
  | error e => exact ⟨fun h => (by cases h), fun h => (by cases h)⟩
  | ok a' => exact Iff.rfl

theorem checked_eq_ok_iff {r : Except SyntaxError α} {a : α} : checked r = .ok a ↔ r = .ok a := by
  cases r with
  | error e => exact ⟨fun h => (by cases h), fun h => (by cases h)⟩
  | ok a' => exact ⟨fun h => congrArg _ (Except.ok.inj h), fun h => congrArg _ (Except.ok.inj h)⟩

/-- A list or object is entered where there is room for it. -/
theorem enter_eq_ok_iff {room : Nat} {r : Except Failure α} {a : α} :
    (if room = 0 then failSyntax .nestingLimit else r) = .ok a ↔ room ≠ 0 ∧ r = .ok a := by
  by_cases hroom : room = 0
  · rw [if_pos hroom]
    exact ⟨fun h => (by cases h), fun h => absurd hroom h.1⟩
  · rw [if_neg hroom, and_iff_right hroom]

theorem readName_eq_ok_iff {q : Quoted} {name : String} :
    readName q = .ok name ↔ q.content = .ok name :=
  inside_eq_ok_iff.trans checked_eq_ok_iff

/-! ### Values under a name -/

/-- The values of the members that have a name. -/
def valuesUnder (name : String) (ms : List (Quoted × Node)) : List Node :=
  ms.filterMap fun m => if m.1.content.toOption = some name then some m.2 else none

section ValuesUnder

variable {name : String} {q : Quoted} {n : Node} {ms ms' : List (Quoted × Node)}

theorem valuesUnder_cons_of_eq (hq : q.content = .ok name) (n : Node)
    (ms : List (Quoted × Node)) : valuesUnder name ((q, n) :: ms) = n :: valuesUnder name ms :=
  List.filterMap_cons_some (if_pos (toOption_eq_some_iff.2 hq))

theorem valuesUnder_cons_of_ne (hq : q.content ≠ .ok name) (n : Node)
    (ms : List (Quoted × Node)) : valuesUnder name ((q, n) :: ms) = valuesUnder name ms :=
  List.filterMap_cons_none (if_neg fun h => hq (toOption_eq_some_iff.1 h))

theorem valuesUnder_eq_nil (h : ∀ m ∈ ms, m.1.content ≠ .ok name) : valuesUnder name ms = [] :=
  List.filterMap_eq_nil_iff.2 fun m hm => if_neg fun hcontent =>
    h m hm (toOption_eq_some_iff.1 hcontent)

theorem content_ne {other : String} (hq : q.content = .ok other) (hne : other ≠ name) :
    q.content ≠ .ok name := fun h => hne (Except.ok.inj (hq.symm.trans h))

theorem valuesUnder_append : valuesUnder name (ms ++ ms') =
    valuesUnder name ms ++ valuesUnder name ms' :=
  List.filterMap_append

theorem valuesUnder_perm (h : ms.Perm ms') : (valuesUnder name ms).Perm (valuesUnder name ms') :=
  h.filterMap _

/-- Where no two members have one name, each name has its one value. -/
theorem valuesUnder_of_nodup (hms : (ms.map fun m => m.1.content).Nodup) {m : Quoted × Node}
    (hm : m ∈ ms) (hname : m.1.content = .ok name) : valuesUnder name ms = [m.2] := by
  induction ms with
  | nil => cases hm
  | cons m' ms ih =>
    obtain ⟨hm', hms⟩ := List.nodup_cons.1 hms
    rcases List.mem_cons.1 hm with rfl | hm
    · have hnone : valuesUnder name ms = [] := valuesUnder_eq_nil fun other hother h =>
        hm' (List.mem_map.2 ⟨other, hother, h.trans hname.symm⟩)
      rw [← hnone]
      exact valuesUnder_cons_of_eq hname _ _
    · have hne : m'.1.content ≠ .ok name := fun h =>
        hm' (List.mem_map.2 ⟨m, hm, hname.trans h.symm⟩)
      exact (valuesUnder_cons_of_ne hne _ _).trans (ih hms hm)

end ValuesUnder

/-! ### Slots -/

/-- What a slot comes to with the values that are left for it: a filled slot takes no other value,
and an empty one takes the only value there is, or else its default. -/
inductive Settles (read : Reader β) : Option β → Option β → List Node → β → Prop
  | filled {b : β} {fallback : Option β} : Settles read (some b) fallback [] b
  | absent {b : β} : Settles read none (some b) [] b
  | present {n : Node} {b : β} {fallback : Option β} :
      read n = .ok b → Settles read none fallback [n] b

theorem Settles.or_iff {read : Reader β} {slot fallback : Option β} {b : β} :
    Settles read slot fallback [] b ↔ slot.or fallback = some b := by
  constructor
  · intro h
    cases h with
    | filled => rfl
    | absent => rfl
  · intro h
    cases slot with
    | none =>
      obtain rfl : fallback = some b := h
      exact .absent
    | some b' =>
      obtain rfl := Option.some.inj h
      exact .filled

theorem Settles.cons_iff {read : Reader β} {slot fallback : Option β} {n : Node} {ns : List Node}
    {b : β} : Settles read slot fallback (n :: ns) b ↔
      slot = none ∧ ∃ b', read n = .ok b' ∧ Settles read (some b') fallback ns b := by
  constructor
  · intro h
    cases h with
    | present hread => exact ⟨rfl, b, hread, .filled⟩
  · rintro ⟨rfl, b', hread, h⟩
    cases h with
    | filled => exact .present hread

/-- At most one value is left for a slot. -/
theorem Settles.length_le {read : Reader β} {slot fallback : Option β} {ns : List Node} {b : β}
    (h : Settles read slot fallback ns b) : ns.length ≤ 1 := by
  cases h <;> simp

namespace Shape

/-- A member is declared, or it is skipped. -/
def Admits (extras : Extras) (shape : Shape α) (m : Quoted × Node) : Prop :=
  ∃ name, m.1.content = .ok name ∧
    (name ∈ shape.names ∨ extras = .skipped ∧ m.2.skip = .ok ())

/-- The slots of a record come to it with the values under their names among some members. -/
def Reads (ms : List (Quoted × Node)) : {α : Type} → (shape : Shape α) → shape.Slots → α → Prop
  | _, .done value, _, a => value = a
  | _, .member name read fallback rest, slots, a =>
    ∃ b f, Settles read slots.1 fallback (valuesUnder name ms) b ∧ rest.Reads ms slots.2 f ∧ f b = a

variable {shape : Shape α} {slots slots' : shape.Slots} {ms ms' : List (Quoted × Node)} {a : α}
  {q : Quoted} {n : Node} {name : String} {extras : Extras}

/-- What the slots come to depends on what stands under the declared names. -/
theorem Reads.congr (h : shape.Reads ms slots a)
    (hvalues : ∀ name ∈ shape.names, valuesUnder name ms' = valuesUnder name ms) :
    shape.Reads ms' slots a := by
  induction shape with
  | done value => exact h
  | member name read fallback rest ih =>
    obtain ⟨hvalues, hrest⟩ := List.forall_mem_cons.1 hvalues
    obtain ⟨b, f, hb, hf, rfl⟩ := h
    exact ⟨b, f, hvalues ▸ hb, ih hf hrest, rfl⟩

theorem reads_congr (hvalues : ∀ name ∈ shape.names, valuesUnder name ms' = valuesUnder name ms) :
    shape.Reads ms' slots a ↔ shape.Reads ms slots a :=
  ⟨fun h => h.congr fun name hname => (hvalues name hname).symm, fun h => h.congr hvalues⟩

/-- Under each declared name stands one value at most. -/
theorem Reads.length_le (h : shape.Reads ms slots a) :
    ∀ name ∈ shape.names, (valuesUnder name ms).length ≤ 1 := by
  induction shape with
  | done value => exact List.forall_mem_nil _
  | member name read fallback rest ih =>
    obtain ⟨b, f, hb, hf, rfl⟩ := h
    exact List.forall_mem_cons.2 ⟨hb.length_le, ih hf⟩

/-- The order of the members is no matter to what the slots come to. -/
theorem Reads.perm (h : shape.Reads ms slots a) (hperm : ms.Perm ms') :
    shape.Reads ms' slots a := by
  refine h.congr fun name hname => ?_
  have hvalues : (valuesUnder name ms).Perm (valuesUnder name ms') := valuesUnder_perm hperm
  have hlength := h.length_le name hname
  match hns : valuesUnder name ms, hlength with
  | [], _ =>
    rw [hns] at hvalues
    exact hvalues.symm.eq_nil
  | [n], _ =>
    rw [hns] at hvalues
    exact List.perm_singleton.1 hvalues.symm

/-! ### One member -/

theorem isFilled_eq_none_iff : shape.isFilled name slots = none ↔ name ∉ shape.names := by
  induction shape with
  | done value => simp [isFilled, names]
  | member own read fallback rest ih =>
    rw [isFilled, names, List.mem_cons, not_or]
    by_cases hown : own = name
    · simp [hown]
    · rw [if_neg hown, ih, and_iff_right (Ne.symm hown)]

theorem fill_eq_none_iff : shape.fill name n slots = none ↔ name ∉ shape.names := by
  induction shape with
  | done value => simp [fill, names]
  | member own read fallback rest ih =>
    rw [fill, names, List.mem_cons, not_or]
    by_cases hown : own = name
    · simp [hown]
    · rw [if_neg hown, Option.map_eq_none_iff, ih, and_iff_right (Ne.symm hown)]

/-- A member that is not declared fills no slot. -/
theorem take_of_undeclared (hname : name ∉ shape.names) :
    shape.take extras slots name n = .ok slots' ↔
      (extras = .skipped ∧ n.skip = .ok ()) ∧ slots = slots' := by
  unfold take screen
  rw [isFilled_eq_none_iff.2 hname]
  cases extras with
  | refused => exact ⟨fun h => (by cases h), fun h => (by cases h.1.1)⟩
  | skipped =>
    change (inside (.key name) (checked n.skip) >>= fun _ => pure slots) = _ ↔ _
    rw [bind_eq_ok_iff]
    simp only [inside_eq_ok_iff, checked_eq_ok_iff, true_and]
    exact ⟨fun ⟨_, hskip, h⟩ => ⟨hskip, Except.ok.inj h⟩,
      fun ⟨hskip, h⟩ => ⟨_, hskip, congrArg _ h⟩⟩

/-- A member that is declared fills its slot, which has to be empty. -/
theorem take_of_declared (hname : name ∈ shape.names) :
    shape.take extras slots name n = .ok slots' ↔
      shape.isFilled name slots = some false ∧ shape.fill name n slots = some (.ok slots') := by
  obtain ⟨r, hfill⟩ : ∃ r, shape.fill name n slots = some r :=
    Option.ne_none_iff_exists'.1 fun h => fill_eq_none_iff.1 h hname
  unfold take screen
  rw [hfill]
  cases hfilled : shape.isFilled name slots with
  | none => exact absurd hname (isFilled_eq_none_iff.1 hfilled)
  | some filled =>
    cases filled with
    | true => exact ⟨fun h => (by cases h), fun h => (by cases h.1)⟩
    | false =>
      change inside (.key name) r = _ ↔ _
      rw [inside_eq_ok_iff, and_iff_right rfl, Option.some.injEq]

/-- Once a slot is filled, the value that filled it is one of those under its name. -/
theorem reads_fill_iff (hnames : shape.names.Nodup) (hname : name ∈ shape.names)
    (hq : q.content = .ok name) :
    (∃ slots', (shape.isFilled name slots = some false ∧
      shape.fill name n slots = some (.ok slots')) ∧ shape.Reads ms slots' a) ↔
        shape.Reads ((q, n) :: ms) slots a := by
  induction shape with
  | done value => cases hname
  | member own read fallback rest ih =>
    obtain ⟨hown, hnames⟩ := List.nodup_cons.1 hnames
    by_cases h : own = name
    · subst h
      -- no other slot has this name
      have hrest : ∀ f, rest.Reads ((q, n) :: ms) slots.2 f ↔ rest.Reads ms slots.2 f := by
        refine fun f => reads_congr fun other hother =>
          valuesUnder_cons_of_ne (content_ne hq ?_) n ms
        rintro rfl
        exact hown hother
      simp only [isFilled, fill, if_true, Reads, valuesUnder_cons_of_eq hq, hrest, Settles.cons_iff,
        Option.some.injEq, Option.isSome_eq_false_iff, Option.isNone_iff_eq_none]
      constructor
      · rintro ⟨slots', ⟨hslot, hfill⟩, b, f, hb, hf, rfl⟩
        obtain ⟨b', hread, rfl⟩ := map_eq_ok_iff.1 hfill
        exact ⟨b, f, ⟨hslot, b', hread, hb⟩, hf, rfl⟩
      · rintro ⟨b, f, ⟨hslot, b', hread, hb⟩, hf, rfl⟩
        exact ⟨_, ⟨hslot, map_eq_ok_iff.2 ⟨b', hread, rfl⟩⟩, b, f, hb, hf, rfl⟩
    · have hname : name ∈ rest.names := (List.mem_cons.1 hname).resolve_left (Ne.symm h)
      have hother : q.content ≠ .ok own := content_ne hq (Ne.symm h)
      simp only [isFilled, fill, if_neg h, Reads, valuesUnder_cons_of_ne hother]
      constructor
      · rintro ⟨slots', ⟨hfilled, hfill⟩, b, f, hb, hf, rfl⟩
        obtain ⟨r, hr, hfill⟩ := Option.map_eq_some_iff.1 hfill
        obtain ⟨t, rfl, rfl⟩ := map_eq_ok_iff.1 hfill
        exact ⟨b, f, hb, (ih hnames hname).1 ⟨t, ⟨hfilled, hr⟩, hf⟩, rfl⟩
      · rintro ⟨b, f, hb, hf, rfl⟩
        obtain ⟨t, ⟨hfilled, hr⟩, hf⟩ := (ih hnames hname).2 hf
        refine ⟨(slots.1, t), ⟨hfilled, ?_⟩, b, f, hb, hf, rfl⟩
        rw [hr]
        rfl

/-- A member is taken in when it is admitted, and then counts with those after it. -/
theorem take_reads_iff (hnames : shape.names.Nodup) (hq : q.content = .ok name) :
    (∃ slots', shape.take extras slots name n = .ok slots' ∧ shape.Reads ms slots' a) ↔
      shape.Admits extras (q, n) ∧ shape.Reads ((q, n) :: ms) slots a := by
  have hadmits : shape.Admits extras (q, n) ↔
      name ∈ shape.names ∨ extras = .skipped ∧ n.skip = .ok () := by
    refine ⟨fun ⟨other, hother, h⟩ => ?_, fun h => ⟨name, hq, h⟩⟩
    rwa [← Except.ok.inj (hother.symm.trans hq)]
  rw [hadmits]
  by_cases hname : name ∈ shape.names
  · simp only [take_of_declared hname, reads_fill_iff hnames hname hq, hname, true_or, true_and]
  · have hcongr : shape.Reads ((q, n) :: ms) slots a ↔ shape.Reads ms slots a := by
      refine reads_congr fun other hother => valuesUnder_cons_of_ne (content_ne hq ?_) n ms
      rintro rfl
      exact hname hother
    simp only [take_of_undeclared hname, hname, false_or, hcongr, and_assoc, exists_and_left,
      exists_eq_left']

/-! ### All members -/

theorem finish_eq_ok_iff : shape.finish slots = .ok a ↔ shape.Reads [] slots a := by
  induction shape with
  | done value => exact ⟨Except.ok.inj, congrArg _⟩
  | member name read fallback rest ih =>
    have hsettles : ∀ b, Settles read slots.1 fallback (valuesUnder name []) b ↔
        slots.1.or fallback = some b := fun b => Settles.or_iff
    simp only [Reads, hsettles, finish]
    cases slots.1.or fallback with
    | none => exact ⟨fun h => (by cases h), fun ⟨_, _, h, _⟩ => (by cases h)⟩
    | some b =>
      simp only [map_eq_ok_iff, ih, Option.some.injEq]
      exact ⟨fun ⟨f, hf, h⟩ => ⟨b, f, rfl, hf, h⟩, fun ⟨_, f, h, hf, ha⟩ => ⟨f, hf, h ▸ ha⟩⟩

/-- **An object is read as a record when its members are admitted and settle the slots.**  The order
of the members is no matter. -/
theorem readMembers_eq_ok_iff (hnames : shape.names.Nodup) :
    shape.readMembers extras none slots ms = .ok a ↔
      (∀ m ∈ ms, shape.Admits extras m) ∧ shape.Reads ms slots a := by
  induction ms generalizing slots with
  | nil =>
    rw [and_iff_right (List.forall_mem_nil _)]
    exact finish_eq_ok_iff
  | cons m ms ih =>
    obtain ⟨q, n⟩ := m
    simp only [readMembers, bind_eq_ok_iff, readName_eq_ok_iff, ih, List.forall_mem_cons]
    constructor
    · rintro ⟨name, hq, slots', htake, hms, hreads⟩
      obtain ⟨hm, hreads⟩ := (take_reads_iff hnames hq).1 ⟨slots', htake, hreads⟩
      exact ⟨⟨hm, hms⟩, hreads⟩
    · rintro ⟨⟨hm, hms⟩, hreads⟩
      obtain ⟨name, hq, _⟩ := id hm
      obtain ⟨slots', htake, hreads⟩ := (take_reads_iff hnames hq).2 ⟨hm, hreads⟩
      exact ⟨name, hq, slots', htake, hms, hreads⟩

theorem readRecord_object_iff {title : String} {room : Nat} (hnames : shape.names.Nodup) :
    readRecord title extras room shape (.object ms none) = .ok a ↔
      room ≠ 0 ∧ (∀ m ∈ ms, shape.Admits extras m) ∧ shape.Reads ms shape.noSlots a :=
  enter_eq_ok_iff.trans (and_congr_right fun _ => readMembers_eq_ok_iff hnames)

/-- The values of the members in order of declaration are read as the same record. -/
theorem Reads.readPositions {whole : String} {ns : List (Quoted × Node)}
    (h : shape.Reads ms shape.noSlots a)
    (hnames : ns.map (fun m => m.1.content) = shape.names.map .ok)
    (hvalues : ∀ m ∈ ns, ∀ name, m.1.content = .ok name → valuesUnder name ms = [m.2]) (i : Nat) :
    shape.readPositions whole none i (ns.map Prod.snd) = .ok a := by
  induction shape generalizing ns i with
  | done value =>
    obtain rfl : ns = [] := List.map_eq_nil_iff.1 hnames
    exact congrArg _ h
  | member name read fallback rest ih =>
    obtain ⟨m, ns, rfl⟩ := List.exists_cons_of_ne_nil (l := ns) (by rintro rfl; cases hnames)
    obtain ⟨hname, hnames⟩ := List.cons.inj hnames
    obtain ⟨hvalue, hvalues⟩ := List.forall_mem_cons.1 hvalues
    obtain ⟨b, f, hb, hf, rfl⟩ := h
    rw [hvalue name hname] at hb
    cases hb with
    | present hread =>
      refine bind_eq_ok_iff.2 ⟨b, inside_eq_ok_iff.2 hread, ?_⟩
      exact map_eq_ok_iff.2 ⟨f, ih hf hnames hvalues (i + 1), rfl⟩

end Shape

end IdlLink.Json
