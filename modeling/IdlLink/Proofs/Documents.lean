/-
Reading the text of a document gives the document back.

Both ways of writing a document obey the grammar, so both texts are read as what they spell.  The
two differ in the space that they leave between tokens, and the lemmas about lists and objects are
for any such space.  Doubles are left out: what is written for one is not looked at here.

* `spells_string`, `spells_int` — what is written for a string and for an integer spells it;
* `spells_list`, `spells_object` — a list and an object are spelled when what stands in them is;
* `pretty_list_cons` — one value to a line, a list is its elements between two brackets;
* `spells_compact`, `spells_pretty` — so both texts spell the document;
* `ofString_compact`, `ofString_pretty` — and the first value of either is the document.
-/
import IdlLink.Proofs.Grammar

namespace IdlLink.Json

/-! ### What a text holds of a document -/

mutual

/-- No double stands anywhere in a document. -/
def Value.Exact : Value → Prop
  | .real _ => False
  | .list items => Value.ExactItems items
  | .object members => Value.ExactMembers members
  | _ => True

/-- No double stands in any of some documents. -/
def Value.ExactItems : List Value → Prop
  | [] => True
  | v :: rest => v.Exact ∧ Value.ExactItems rest

/-- No double stands in the value of any of some members. -/
def Value.ExactMembers : List (String × Value) → Prop
  | [] => True
  | (_, v) :: rest => v.Exact ∧ Value.ExactMembers rest

end

mutual

/-- A document as its text holds it. -/
def Value.node : Value → Node
  | .null => .word .null none
  | .bool true => .word .true none
  | .bool false => .word .false none
  | .int i => .numeral (.ok (.ofInt i))
  | .real x => .ofString (realText x)
  | .string s => .quoted (.of s)
  | .list items => .list (Value.itemNodes items) none
  | .object members => .object (Value.memberNodes members) none

/-- The elements of a list as its text holds them. -/
def Value.itemNodes : List Value → List Node
  | [] => []
  | v :: rest => v.node :: Value.itemNodes rest

/-- The members of an object as its text holds them. -/
def Value.memberNodes : List (String × Value) → List (Quoted × Node)
  | [] => []
  | (k, v) :: rest => (.of k, v.node) :: Value.memberNodes rest

end

/-! ### Strings and integers -/

theorem charPieces_of_plain {c : Char} (h : ¬ c.toNat < 32) :
    charPieces c = (String.utf8EncodeChar c).map .byte := by simp [charPieces, h]

/-- A written character spells its parts. -/
theorem spells_escapeChar (c : Char) {ps : List Piece} {cs : List Char} (h : SpellsPieces ps cs) :
    SpellsPieces (charPieces c ++ ps) (escapeChar c ++ cs) := by
  have hofNat : ∀ n, c.toNat = n → c = Char.ofNat n := fun n h => by rw [← h, Char.ofNat_toNat]
  have hescape : ∀ d b, (d, b) ∈ escapes → charPieces c = [.byte b] → escapeChar c = ['\\', d] →
      SpellsPieces (charPieces c ++ ps) (escapeChar c ++ cs) := by
    intro d b hd hpieces hchars
    rw [hpieces, hchars]
    exact .escape hd h
  by_cases hquote : c = '"'
  · subst hquote
    exact hescape '"' 0x22 (by decide) rfl rfl
  by_cases hslash : c = '\\'
  · subst hslash
    exact hescape '\\' 0x5C (by decide) rfl rfl
  by_cases hcontrol : c.toNat < 32
  swap
  · have hchars : escapeChar c = [c] := by
      have : c.toNat ≠ 8 ∧ c.toNat ≠ 9 ∧ c.toNat ≠ 10 ∧ c.toNat ≠ 12 ∧ c.toNat ≠ 13 := by omega
      simp [escapeChar, hquote, hslash, hcontrol, this]
    rw [charPieces_of_plain hcontrol, hchars]
    exact .plain hquote hslash hcontrol h
  by_cases hletter : c.toNat ∈ [8, 9, 10, 12, 13]
  · simp only [List.mem_cons, List.not_mem_nil, or_false] at hletter
    rcases hletter with h8 | h9 | h10 | h12 | h13
    · obtain rfl := hofNat 8 h8
      exact hescape 'b' 0x08 (by decide) rfl rfl
    · obtain rfl := hofNat 9 h9
      exact hescape 't' 0x09 (by decide) rfl rfl
    · obtain rfl := hofNat 10 h10
      exact hescape 'n' 0x0A (by decide) rfl rfl
    · obtain rfl := hofNat 12 h12
      exact hescape 'f' 0x0C (by decide) rfl rfl
    · obtain rfl := hofNat 13 h13
      exact hescape 'r' 0x0D (by decide) rfl rfl
  · -- the two digits of the code stand behind two zeros
    have hpieces : charPieces c =
        [.unit (((0 * 16 + 0) * 16 + c.toNat / 16) * 16 + c.toNat % 16)] := by
      have hcode : ((0 * 16 + 0) * 16 + c.toNat / 16) * 16 + c.toNat % 16 = c.toNat := by omega
      rw [hcode, charPieces, if_pos ⟨hcontrol, hletter⟩]
    have hchars : escapeChar c =
        ['\\', 'u', '0', '0', hexChar (c.toNat / 16), hexChar (c.toNat % 16)] := by
      simp only [List.mem_cons, List.not_mem_nil, or_false, not_or] at hletter
      simp [escapeChar, hquote, hslash, hletter, hcontrol]
    have hzero : SpellsHex 0 '0' := ⟨by decide, .inl rfl⟩
    rw [hpieces, hchars]
    exact .unit hzero hzero ⟨by omega, .inl rfl⟩ ⟨by omega, .inl rfl⟩ h

/-- A written string spells the string. -/
theorem spells_string (s : String) : SpellsString (.of s) (stringChars s) := by
  have hpieces : ∀ cs : List Char,
      SpellsPieces (cs.flatMap charPieces) (cs.flatMap escapeChar) := by
    intro cs
    induction cs with
    | nil => exact .nil
    | cons c cs ih => exact spells_escapeChar c ih
  exact .mk (hpieces s.toList)

/-- Only zero is written with a zero in front. -/
theorem digits_cases (n : Nat) : Number.digits n = [n] ∨
    ∃ d d' ds, Number.digits n = d :: d' :: ds ∧ d ≠ 0 := by
  induction n using Nat.strongRecOn with
  | ind n ih =>
    rw [Number.digits]
    split_ifs with hn
    · exact .inl rfl
    · right
      rcases ih (n / 10) (by omega) with h | ⟨d, d', ds, h, hd⟩
      · exact ⟨n / 10, n % 10, [], by rw [h]; rfl, by omega⟩
      · exact ⟨d, d', ds ++ [n % 10], by rw [h]; rfl, hd⟩

theorem spells_decimal (negative : Bool) (n : Nat) :
    SpellsMagnitude negative ⟨negative, Number.digits n, none, none⟩ (Number.decimalChars n) := by
  have hne : Number.digits n ≠ [] := by
    rcases digits_cases n with h | ⟨d, d', ds, h, _⟩ <;> simp [h]
  have hzero : (Number.digits n).head? = some 0 → Number.digits n = [0] := by
    intro h0
    rcases digits_cases n with h | ⟨d, d', ds, h, hd⟩
    · rw [h] at h0 ⊢
      rw [Option.some.inj h0]
    · rw [h] at h0
      exact absurd (Option.some.inj h0) hd
  have h : SpellsMagnitude negative _ (Number.decimalChars n ++ [] ++ []) :=
    .mk ⟨hne, Number.digits_lt_ten n, rfl⟩ hzero .none .none
  rwa [List.append_nil, List.append_nil] at h

theorem intChars_eq (i : Int) : intChars i =
    if i < 0 then '-' :: Number.decimalChars i.natAbs else Number.decimalChars i.natAbs := by
  rw [intChars, Number.decimalInt]
  split_ifs
  · simp [Number.decimal]
  · rw [Number.decimal, String.toList_ofList]

/-- A written integer spells the integer. -/
theorem spells_int (i : Int) : SpellsNumeral (.ofInt i) (intChars i) := by
  rw [intChars_eq, Numeral.ofInt]
  by_cases hi : i < 0
  · rw [if_pos hi, decide_eq_true hi]
    exact .negative (spells_decimal true _)
  · rw [if_neg hi, decide_eq_false hi]
    exact .positive (spells_decimal false _)

/-! ### Lists and objects with any space in them -/

section Layout

variable {text : Value → List Char} {before gap after : List Char}

theorem spells_elements (hbefore : Blank before) (hafter : Blank after) {v : Value}
    {vs : List Value} (hv : SpellsValue v.node (text v))
    (hvs : ∀ w ∈ vs, SpellsValue w.node (text w)) :
    SpellsElements (Value.itemNodes (v :: vs))
      (before ++ text v ++ (vs.flatMap fun w => ',' :: before ++ text w) ++ after) := by
  induction vs generalizing v with
  | nil =>
    rw [List.flatMap_nil, List.append_nil]
    exact .last (.mk hbefore hv hafter)
  | cons w vs ih =>
    obtain ⟨hw, hvs⟩ := List.forall_mem_cons.1 hvs
    have h : SpellsElements (Value.itemNodes (v :: w :: vs)) _ :=
      .cons (.mk hbefore hv Blank.nil) (ih hw hvs)
    simpa using h

/-- Elements with the same space in front of each of them, and any space after the last one. -/
theorem spells_list (hbefore : Blank before) (hafter : Blank after) {v : Value}
    {vs : List Value} (h : ∀ w ∈ v :: vs, SpellsValue w.node (text w)) :
    SpellsValue (Value.list (v :: vs)).node
      ('[' :: before ++ text v ++ (vs.flatMap fun w => ',' :: before ++ text w) ++ after ++
        [']']) := by
  obtain ⟨hv, hvs⟩ := List.forall_mem_cons.1 h
  exact .list (spells_elements hbefore hafter hv hvs)

/-- A member with space in front of its name and of its value. -/
def memberText (text : Value → List Char) (before gap : List Char) (m : String × Value) :
    List Char :=
  before ++ stringChars m.1 ++ ':' :: gap ++ text m.2

theorem spells_member (hbefore : Blank before) (hgap : Blank gap) (hafter : Blank after)
    {m : String × Value} (h : SpellsValue m.2.node (text m.2)) :
    SpellsMember (.of m.1, m.2.node) (memberText text before gap m ++ after) := by
  have hmember := SpellsMember.mk hbefore (spells_string m.1) Blank.nil (.mk hgap h hafter)
  simpa [memberText] using hmember

theorem spells_members (hbefore : Blank before) (hgap : Blank gap) (hafter : Blank after)
    {m : String × Value} {ms : List (String × Value)} (hm : SpellsValue m.2.node (text m.2))
    (hms : ∀ m ∈ ms, SpellsValue m.2.node (text m.2)) :
    SpellsMembers (Value.memberNodes (m :: ms))
      (memberText text before gap m ++ (ms.flatMap fun m => ',' :: memberText text before gap m) ++
        after) := by
  induction ms generalizing m with
  | nil =>
    rw [List.flatMap_nil, List.append_nil]
    exact .last (spells_member hbefore hgap hafter hm)
  | cons w ms ih =>
    obtain ⟨hw, hms⟩ := List.forall_mem_cons.1 hms
    have h : SpellsMembers (Value.memberNodes (m :: w :: ms)) _ :=
      .cons (spells_member hbefore hgap Blank.nil hm) (ih hw hms)
    simpa using h

/-- Members with the same space in them, and any space after the last one. -/
theorem spells_object (hbefore : Blank before) (hgap : Blank gap) (hafter : Blank after)
    {m : String × Value} {ms : List (String × Value)}
    (h : ∀ w ∈ m :: ms, SpellsValue w.2.node (text w.2)) :
    SpellsValue (Value.object (m :: ms)).node
      ('{' :: memberText text before gap m ++
        (ms.flatMap fun m => ',' :: memberText text before gap m) ++ after ++ ['}']) := by
  obtain ⟨hm, hms⟩ := List.forall_mem_cons.1 h
  exact .object (spells_members hbefore hgap hafter hm hms)

end Layout

/-! ### Both texts spell the document -/

theorem compactItems_eq (vs : List Value) :
    Value.compactItems vs = (vs.flatMap fun w => ',' :: w.compactChars) ++ [']'] := by
  induction vs with
  | nil => rfl
  | cons v vs ih => rw [Value.compactItems, ih]; simp

theorem compactMembers_eq (ms : List (String × Value)) : Value.compactMembers ms =
    (ms.flatMap fun m => ',' :: memberText Value.compactChars [] [] m) ++ ['}'] := by
  induction ms with
  | nil => rfl
  | cons m ms ih => rw [Value.compactMembers, ih]; simp [memberText]

mutual

/-- A document without any space spells the document. -/
theorem spells_compactChars : ∀ {v : Value}, v.Exact → SpellsValue v.node v.compactChars
  | .null, _ | .bool true, _ | .bool false, _ => .word
  | .int i, _ => .numeral (spells_int i)
  | .string s, _ => .string (spells_string s)
  | .list [], _ => .emptyList Blank.nil
  | .list (v :: vs), hv => by
    have h := spells_list Blank.nil Blank.nil (spells_compactItems hv)
    rw [Value.compactChars, compactItems_eq]
    simpa using h
  | .object [], _ => .emptyObject Blank.nil
  | .object ((k, v) :: ms), hm => by
    have hexact : Value.ExactMembers ((k, v) :: ms) := hm
    have h := spells_object Blank.nil Blank.nil Blank.nil (spells_compactMembers hexact)
    rw [Value.compactChars, compactMembers_eq]
    simpa [memberText] using h

theorem spells_compactItems : ∀ {vs : List Value}, Value.ExactItems vs →
    ∀ w ∈ vs, SpellsValue w.node w.compactChars
  | [], _ => List.forall_mem_nil _
  | _ :: _, hv => List.forall_mem_cons.2 ⟨spells_compactChars hv.1, spells_compactItems hv.2⟩

theorem spells_compactMembers : ∀ {ms : List (String × Value)}, Value.ExactMembers ms →
    ∀ m ∈ ms, SpellsValue m.2.node m.2.compactChars
  | [], _ => List.forall_mem_nil _
  | _ :: _, hm => List.forall_mem_cons.2 ⟨spells_compactChars hm.1, spells_compactMembers hm.2⟩

end

/-- The start of a line is space. -/
theorem blank_newLine (level : Nat) : Blank (newLine level) := by
  intro c hc
  rcases List.mem_cons.1 hc with rfl | hc
  · decide
  · rw [List.eq_of_mem_replicate hc]
    decide

theorem blank_space : Blank [' '] := by
  intro c hc
  rw [List.mem_singleton.1 hc]
  decide

theorem prettyItems_eq (level : Nat) (vs : List Value) : Value.prettyItems level vs =
    (vs.flatMap fun w => ',' :: newLine (level + 1) ++ w.prettyChars (level + 1)) ++
      newLine level ++ [']'] := by
  induction vs with
  | nil => rfl
  | cons v vs ih => rw [Value.prettyItems, ih]; simp

theorem prettyMembers_eq (level : Nat) (ms : List (String × Value)) :
    Value.prettyMembers level ms =
      (ms.flatMap fun m => ',' :: memberText (Value.prettyChars (level + 1))
        (newLine (level + 1)) [' '] m) ++ newLine level ++ ['}'] := by
  induction ms with
  | nil => rfl
  | cons m ms ih => rw [Value.prettyMembers, ih]; simp [memberText]

mutual

/-- So does a document with one value to a line. -/
theorem spells_prettyChars : ∀ {v : Value}, v.Exact → ∀ level : Nat,
    SpellsValue v.node (v.prettyChars level)
  | .null, _, _ | .bool true, _, _ | .bool false, _, _ => .word
  | .int i, _, _ => .numeral (spells_int i)
  | .string s, _, _ => .string (spells_string s)
  | .list [], _, _ => .emptyList Blank.nil
  | .list (v :: vs), hv, level => by
    have h := spells_list (blank_newLine (level + 1)) (blank_newLine level)
      (spells_prettyItems hv (level + 1))
    rw [Value.prettyChars, prettyItems_eq]
    simpa using h
  | .object [], _, _ => .emptyObject Blank.nil
  | .object ((k, v) :: ms), hm, level => by
    have hexact : Value.ExactMembers ((k, v) :: ms) := hm
    have h := spells_object (blank_newLine (level + 1)) blank_space (blank_newLine level)
      (spells_prettyMembers hexact (level + 1))
    rw [Value.prettyChars, prettyMembers_eq]
    simpa [memberText] using h

theorem spells_prettyItems : ∀ {vs : List Value}, Value.ExactItems vs → ∀ level : Nat,
    ∀ w ∈ vs, SpellsValue w.node (w.prettyChars level)
  | [], _, _ => List.forall_mem_nil _
  | _ :: _, hv, level =>
    List.forall_mem_cons.2 ⟨spells_prettyChars hv.1 level, spells_prettyItems hv.2 level⟩

theorem spells_prettyMembers : ∀ {ms : List (String × Value)}, Value.ExactMembers ms →
    ∀ level : Nat, ∀ m ∈ ms, SpellsValue m.2.node (m.2.prettyChars level)
  | [], _, _ => List.forall_mem_nil _
  | _ :: _, hm, level =>
    List.forall_mem_cons.2 ⟨spells_prettyChars hm.1 level, spells_prettyMembers hm.2 level⟩

end

/-- An element and what stands after it in a list at the top. -/
theorem ofList_prettyItems (v : Value) (vs : List Value) :
    String.ofList (v.prettyChars 1 ++ Value.prettyItems 0 vs) =
      String.intercalate ",\n  " ((v :: vs).map fun w => String.ofList (w.prettyChars 1)) ++ "\n]" := by
  induction vs generalizing v with
  | nil =>
    rw [List.map_singleton, String.intercalate_singleton, String.ofList_append]
    rfl
  | cons w vs ih =>
    have hseparator : String.ofList (',' :: newLine 1) = ",\n  " := rfl
    rw [Value.prettyItems, List.append_assoc, String.ofList_append, String.ofList_append, ih,
      hseparator, List.map_cons, List.map_cons, List.map_cons, String.intercalate_cons_cons,
      String.append_assoc, String.append_assoc]

/-- With one value to a line, the elements of a list stand between its brackets. -/
theorem pretty_list_cons (v : Value) (vs : List Value) : (Value.list (v :: vs)).pretty =
    "[\n  " ++ String.intercalate ",\n  " ((v :: vs).map fun w => String.ofList (w.prettyChars 1)) ++
      "\n]" := by
  have hopening : String.ofList ('[' :: newLine 1) = "[\n  " := rfl
  rw [Value.pretty, Value.prettyChars, List.append_assoc, String.ofList_append, hopening,
    ofList_prettyItems, String.append_assoc]

/-- A value alone makes a text. -/
theorem spells_of_value {n : Node} {cs : List Char} (h : SpellsValue n cs) :
    Spells n (String.ofList cs) := by
  have helement := SpellsElement.mk Blank.nil h Blank.nil
  rw [List.nil_append, List.append_nil] at helement
  rwa [Spells, String.toList_ofList]

theorem spells_compact {v : Value} (hv : v.Exact) : Spells v.node v.compact :=
  spells_of_value (spells_compactChars hv)

theorem spells_pretty {v : Value} (hv : v.Exact) : Spells v.node v.pretty :=
  spells_of_value (spells_prettyChars hv 0)

/-- The first value of a document's text is the document. -/
theorem ofString_compact {v : Value} (hv : v.Exact) : Node.ofString v.compact = v.node :=
  ofString_of_spells (spells_compact hv)

/-- So it is when the text has one value to a line. -/
theorem ofString_pretty {v : Value} (hv : v.Exact) : Node.ofString v.pretty = v.node :=
  ofString_of_spells (spells_pretty hv)

end IdlLink.Json
