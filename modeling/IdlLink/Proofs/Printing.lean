/-
A printed type can be read back.

The text of a type is a word, and after it the types that it is made of, in angle brackets and with a
comma between two of them.  Nothing is escaped, so a name that held one of these three marks would be
taken for something else, and so would a definition that is called like a built-in type.  Neither
occurs where keys are free of marks and definitions stand under keys with a point (`Legible`):

* `word_append_inj` — where a word ends is told by the mark after it;
* `Head.eq_of_word`, `Ty.head_eq_of_word` — a word tells what kind of type it starts, and which
  definition it names;
* `Ty.text_append_inj` — text after a type does not blur it, as long as it starts with a mark; this is
  what the induction needs, as a key is followed by its comma and a value by its bracket;
* `text_eq_text_iff` — types print alike only if they are the same.
-/
import IdlLink.Proofs.Entities

namespace IdlLink

/-! ### Words -/

/-- The characters that stand between the words of a printed type. -/
def marks : List Char := ['<', ',', '>']

/-- A text without marks. -/
def IsWord (cs : List Char) : Prop := ∀ c ∈ cs, c ∉ marks

/-- A text that ends the word before it: it is over, or starts with a mark. -/
def EndsWord (cs : List Char) : Prop := ∀ c ∈ cs.head?, c ∈ marks

instance (cs : List Char) : Decidable (IsWord cs) := List.decidableBAll (fun c => c ∉ marks) cs

theorem comma_mem_marks : ',' ∈ marks := by decide

theorem close_mem_marks : '>' ∈ marks := by decide

theorem endsWord_nil : EndsWord [] := by
  intro c hc
  simp at hc

theorem endsWord_cons {c : Char} (hc : c ∈ marks) (cs : List Char) : EndsWord (c :: cs) := by
  intro c' hc'
  rw [List.head?_cons, Option.mem_some_iff] at hc'
  exact hc' ▸ hc

/-- No word goes on where another one ends. -/
theorem IsWord.not_endsWord {c : Char} {cs rest : List Char} (h : IsWord (c :: cs)) :
    ¬ EndsWord (c :: cs ++ rest) := by
  intro hends
  exact h c List.mem_cons_self (hends c rfl)

/-- A text starts with one word only that is followed by its end. -/
theorem word_append_inj {w w' rest rest' : List Char} (hw : IsWord w) (hw' : IsWord w')
    (hr : EndsWord rest) (hr' : EndsWord rest') (h : w ++ rest = w' ++ rest') :
    w = w' ∧ rest = rest' := by
  induction w generalizing w' with
  | nil =>
    cases w' with
    | nil => exact ⟨rfl, h⟩
    | cons c' cs' =>
      rw [List.nil_append] at h
      rw [h] at hr
      exact absurd hr hw'.not_endsWord
  | cons c cs ih =>
    cases w' with
    | nil =>
      rw [List.nil_append] at h
      rw [← h] at hr'
      exact absurd hr' hw.not_endsWord
    | cons c' cs' =>
      rw [List.cons_append, List.cons_append, List.cons.injEq] at h
      obtain ⟨rfl, h⟩ := h
      obtain ⟨rfl, hrest⟩ := ih (fun d hd => hw d (List.mem_cons_of_mem _ hd))
        (fun d hd => hw' d (List.mem_cons_of_mem _ hd)) h
      exact ⟨rfl, hrest⟩

/-! ### Tables whose names can be told from the rest of the text -/

/-- A table whose definitions can be told, by their names, from each other, from built-in types and
from the marks around them. -/
structure SymbolTable.Legible (table : SymbolTable) : Prop where
  unmarked : ∀ k ∈ table.keys, '<' ∉ k.toList ∧ '>' ∉ k.toList ∧ ',' ∉ k.toList
  name_of_definition : ∀ k e, table.get? k = some (.definition e) → e.name = k
  pointed : ∀ k e, table.get? k = some (.definition e) → '.' ∈ k.toList

/-- The symbols of a file lack marks only: they are qualified, and definitions of their own keys. -/
theorem legible_symbolsOf {s : Schema} {module : String}
    (h : ∀ k ∈ (symbolsOf s module).keys, '<' ∉ k.toList ∧ '>' ∉ k.toList ∧ ',' ∉ k.toList) :
    (symbolsOf s module).Legible where
  unmarked := h
  name_of_definition k e hk := by
    rcases mem_symbolEntries_cases (OrderedMap.mem_of_get?_ofList hk) with
      ⟨kind, he⟩ | ⟨_, _, _, _, he⟩
    · rw [Symbol.definition.inj he]
    · cases he
  pointed k e hk := by
    obtain ⟨name, rfl⟩ := exists_qualify_of_mem_symbolEntries (OrderedMap.mem_of_get?_ofList hk)
    rw [toList_qualify]
    exact List.mem_append_right _ List.mem_cons_self

variable {table : SymbolTable}

/-- A definition of a legible table is the one of its name, which is a word with a point. -/
theorem SymbolTable.Legible.entity (h : table.Legible) {e : Entity} (he : Sourced table [e]) :
    table.get? e.name = some (.definition e) ∧ IsWord e.name.toList ∧ '.' ∈ e.name.toList := by
  obtain ⟨k, hk⟩ := he e List.mem_cons_self
  obtain rfl := h.name_of_definition k e hk
  obtain ⟨hopen, hclose, hcomma⟩ := h.unmarked e.name (OrderedMap.mem_keys_of_get? hk)
  refine ⟨hk, ?_, h.pointed e.name e hk⟩
  intro c hc hmark
  simp only [marks, List.mem_cons, List.not_mem_nil, or_false] at hmark
  rcases hmark with rfl | rfl | rfl
  · exact hopen hc
  · exact hcomma hc
  · exact hclose hc

namespace Linked

/-! ### The first word of a type -/

/-- What a type is, apart from the types that it is made of. -/
inductive Head where
  | primitive (p : Primitive)
  | list
  | set
  | map
  | named (e : Entity)
  deriving DecidableEq

/-- The word that a printed type starts with. -/
def Head.word : Head → String
  | primitive p => p.name
  | list => "list"
  | set => "set"
  | map => "map"
  | named e => e.name

/-- The heads of types that need no definition. -/
def Head.builtin : List Head := [list, set, map] ++ Primitive.all.map primitive

theorem Head.word_of_builtin :
    ∀ a ∈ Head.builtin, IsWord a.word.toList ∧ '.' ∉ a.word.toList := by decide

theorem Head.eq_of_word :
    ∀ a ∈ Head.builtin, ∀ b ∈ Head.builtin, a.word = b.word → a = b := by decide

namespace Ty

variable {T U : Ty}

def head : Ty → Head
  | primitive p => .primitive p
  | list _ => .list
  | set _ => .set
  | map _ _ => .map
  | named e => .named e

/-- What is printed after the first word. -/
def tail : Ty → List Char
  | primitive _ => []
  | list t => '<' :: (t.text.toList ++ ['>'])
  | set t => '<' :: (t.text.toList ++ ['>'])
  | map k v => '<' :: (k.text.toList ++ ',' :: (v.text.toList ++ ['>']))
  | named _ => []

theorem toList_text (T : Ty) : T.text.toList = T.head.word.toList ++ T.tail := by
  cases T <;> simp [text, head, Head.word, tail]

theorem endsWord_tail_append (T : Ty) {rest : List Char} (h : EndsWord rest) :
    EndsWord (T.tail ++ rest) := by
  cases T with
  | primitive _ => exact h
  | named _ => exact h
  | _ => exact endsWord_cons (by simp [marks]) _

theorem head_builtin_or_named (T : Ty) : T.head ∈ Head.builtin ∨ ∃ e, T = .named e := by
  cases T with
  | primitive p =>
    left
    cases p <;> decide
  | named e => exact .inr ⟨e, rfl⟩
  | _ => exact .inl (by simp [head, Head.builtin])

/-- Every printed type starts with a word. -/
theorem isWord_head (h : table.Legible) (hT : Sourced table T.entities) :
    IsWord T.head.word.toList := by
  rcases T.head_builtin_or_named with hb | ⟨e, rfl⟩
  · exact (Head.word_of_builtin _ hb).1
  · exact (h.entity hT).2.1

/-- Only a definition starts with a word with a point. -/
theorem point_mem_head_iff (h : table.Legible) (hT : Sourced table T.entities) :
    '.' ∈ T.head.word.toList ↔ ∃ e, T = .named e := by
  constructor
  · intro hpoint
    rcases T.head_builtin_or_named with hb | hnamed
    · exact absurd hpoint (Head.word_of_builtin _ hb).2
    · exact hnamed
  · rintro ⟨e, rfl⟩
    exact (h.entity hT).2.2

/-- The first word tells everything but the types that a type is made of, the kind of a definition
included. -/
theorem head_eq_of_word (h : table.Legible) (hT : Sourced table T.entities)
    (hU : Sourced table U.entities) (hword : T.head.word = U.head.word) : T.head = U.head := by
  have hpoints : (∃ e, T = .named e) ↔ ∃ e, U = .named e := by
    rw [← point_mem_head_iff h hT, hword, point_mem_head_iff h hU]
  rcases T.head_builtin_or_named with hbT | ⟨e, rfl⟩
  · rcases U.head_builtin_or_named with hbU | hnamed
    · exact Head.eq_of_word _ hbT _ hbU hword
    · obtain ⟨e, rfl⟩ := hpoints.2 hnamed
      exact absurd (h.entity hT).2.2 (Head.word_of_builtin _ hbT).2
  · obtain ⟨e', rfl⟩ := hpoints.1 ⟨e, rfl⟩
    -- one key holds one definition, so the kinds are the same too
    have hname : e.name = e'.name := hword
    have hsame := (h.entity hT).1
    rw [hname, (h.entity hU).1] at hsame
    rw [Symbol.definition.inj (Option.some.inj hsame)]

/-! ### The whole text -/

/-- Two texts that are equal start with the same head, and go on alike. -/
theorem head_eq_of_text (h : table.Legible) {rest rest' : List Char}
    (hT : Sourced table T.entities) (hU : Sourced table U.entities) (hr : EndsWord rest)
    (hr' : EndsWord rest') (htext : T.text.toList ++ rest = U.text.toList ++ rest') :
    T.head = U.head ∧ T.tail ++ rest = U.tail ++ rest' := by
  rw [toList_text, toList_text, List.append_assoc, List.append_assoc] at htext
  obtain ⟨hword, htail⟩ := word_append_inj (isWord_head h hT) (isWord_head h hU)
    (T.endsWord_tail_append hr) (U.endsWord_tail_append hr') htext
  exact ⟨head_eq_of_word h hT hU (String.toList_inj.1 hword), htail⟩

/-- Types are the same as soon as their texts are, whatever marks and words come after each. -/
theorem text_append_inj (h : table.Legible) {rest rest' : List Char}
    (hT : Sourced table T.entities) (hU : Sourced table U.entities) (hr : EndsWord rest)
    (hr' : EndsWord rest') (htext : T.text.toList ++ rest = U.text.toList ++ rest') :
    T = U ∧ rest = rest' := by
  induction T generalizing U rest rest' with
  | primitive p =>
    obtain ⟨hhead, htail⟩ := head_eq_of_text h hT hU hr hr' htext
    cases U with
    | primitive q =>
      cases hhead
      exact ⟨rfl, htail⟩
    | _ => cases hhead
  | list t ih =>
    obtain ⟨hhead, htail⟩ := head_eq_of_text h hT hU hr hr' htext
    cases U with
    | list u =>
      have hu : Sourced table u.entities := hU
      have hinner : t.text.toList ++ '>' :: rest = u.text.toList ++ '>' :: rest' := by
        simpa [tail] using htail
      obtain ⟨rfl, hrest⟩ := ih hT hu (endsWord_cons close_mem_marks rest)
        (endsWord_cons close_mem_marks rest') hinner
      exact ⟨rfl, (List.cons.inj hrest).2⟩
    | _ => cases hhead
  | set t ih =>
    obtain ⟨hhead, htail⟩ := head_eq_of_text h hT hU hr hr' htext
    cases U with
    | set u =>
      have hu : Sourced table u.entities := hU
      have hinner : t.text.toList ++ '>' :: rest = u.text.toList ++ '>' :: rest' := by
        simpa [tail] using htail
      obtain ⟨rfl, hrest⟩ := ih hT hu (endsWord_cons close_mem_marks rest)
        (endsWord_cons close_mem_marks rest') hinner
      exact ⟨rfl, (List.cons.inj hrest).2⟩
    | _ => cases hhead
  | map k v ihk ihv =>
    obtain ⟨hhead, htail⟩ := head_eq_of_text h hT hU hr hr' htext
    obtain ⟨hTk, hTv⟩ := hT.of_append
    cases U with
    | map k' v' =>
      obtain ⟨hUk, hUv⟩ := hU.of_append
      -- the key is over at its comma, whatever commas it has inside its own brackets
      have hkey : k.text.toList ++ ',' :: (v.text.toList ++ '>' :: rest) =
          k'.text.toList ++ ',' :: (v'.text.toList ++ '>' :: rest') := by
        simpa [tail] using htail
      obtain ⟨rfl, hafter⟩ := ihk hTk hUk (endsWord_cons comma_mem_marks _)
        (endsWord_cons comma_mem_marks _) hkey
      obtain ⟨rfl, hrest⟩ := ihv hTv hUv (endsWord_cons close_mem_marks rest)
        (endsWord_cons close_mem_marks rest') (List.cons.inj hafter).2
      exact ⟨rfl, (List.cons.inj hrest).2⟩
    | _ => cases hhead
  | named e =>
    obtain ⟨hhead, htail⟩ := head_eq_of_text h hT hU hr hr' htext
    cases U with
    | named f =>
      cases hhead
      exact ⟨rfl, htail⟩
    | _ => cases hhead

end Ty

end Linked

open Linked (Ty)

/-- **The printed form of a type identifies it.**  Two types all of whose entities are definitions of
one legible table have the same text only if they are the same type, to the kinds of their entities. -/
theorem text_eq_text_iff (h : table.Legible) {T U : Ty} (hT : Sourced table T.entities)
    (hU : Sourced table U.entities) : T.text = U.text ↔ T = U := by
  constructor
  · intro htext
    have happend : T.text.toList ++ [] = U.text.toList ++ [] := by rw [htext]
    exact (Ty.text_append_inj h hT hU endsWord_nil endsWord_nil happend).1
  · rintro rfl
    rfl

/-- A file whose definitions are called like the words around them. -/
def confusing : Schema :=
  (Schema.empty.addRecord ⟨"list", .struct, []⟩).addEnum (.ofMembers "set" [("map", none)])

/-- A map whose keys are maps, between the definitions of that file. -/
def leftNested : Ty :=
  .map (.map (.named ⟨"map.list", .record .struct⟩) (.named ⟨"map.set", .enum⟩))
    (.named ⟨"map.set", .enum⟩)

/-- The same words, with maps as values. -/
def rightNested : Ty :=
  .map (.named ⟨"map.list", .record .struct⟩)
    (.map (.named ⟨"map.set", .enum⟩) (.named ⟨"map.set", .enum⟩))

/-- Definitions that are called like the words around them do not blur how maps are nested. -/
theorem leftNested_text_ne :
    (symbolsOf confusing "map").Legible ∧
      Sourced (symbolsOf confusing "map") leftNested.entities ∧
      Sourced (symbolsOf confusing "map") rightNested.entities ∧
      leftNested.text = "map<map<map.list,map.set>,map.set>" ∧
      leftNested.text ≠ rightNested.text := by
  have hlist : (symbolsOf confusing "map").get? "map.list" =
      some (.definition ⟨"map.list", .record .struct⟩) := by decide
  have hset : (symbolsOf confusing "map").get? "map.set" =
      some (.definition ⟨"map.set", .enum⟩) := by decide
  have hsourced : ∀ es ⊆ [⟨"map.list", .record .struct⟩, ⟨"map.set", .enum⟩],
      Sourced (symbolsOf confusing "map") es := by
    intro es hes e he
    rcases List.mem_cons.1 (hes he) with rfl | he
    · exact ⟨_, hlist⟩
    · rw [List.mem_singleton.1 he]
      exact ⟨_, hset⟩
  have hlegible : (symbolsOf confusing "map").Legible := legible_symbolsOf (by decide)
  have hleft := hsourced leftNested.entities (by decide)
  have hright := hsourced rightNested.entities (by decide)
  refine ⟨hlegible, hleft, hright, by decide, fun htext => ?_⟩
  exact absurd ((text_eq_text_iff hlegible hleft hright).1 htext) (by decide)

end IdlLink
