/-
The grammar of documents.

`Spells` is the grammar of JSON as a relation between what a text holds and the text itself, with
any space between tokens, any spelling of a number and any escapes in a string.  It says nothing
about how a text is read; that reading follows it is what is proved here.  Each lemma is about a
spelled part with any bytes after it, and whatever is open around it:

* `scan_pieces`, `scanNumeral_spelled` — a string and a number are scanned as what they spell;
* `run_value`, `run_elements`, `run_members` — what a value spells is read where a value is due;
* `skip_value` — and skipped over where it does not matter;
* `ofString_of_spells` — so a text that spells a document is read as that document.
-/
import IdlLink.Proofs.Lexing

namespace IdlLink.Json

open Text

/-! ### Tokens of several characters -/

/-- Space between tokens. -/
def Blank (cs : List Char) : Prop := ∀ c ∈ cs, c ∈ [' ', '\n', '\r', '\t']

/-- The spelling of a word. -/
def Word.chars : Word → List Char
  | .null => ['n', 'u', 'l', 'l']
  | .true => ['t', 'r', 'u', 'e']
  | .false => ['f', 'a', 'l', 's', 'e']

/-- At least one decimal digit. -/
def SpellsDigits (ds : List Nat) (cs : List Char) : Prop :=
  ds ≠ [] ∧ (∀ d ∈ ds, d < 10) ∧ cs = ds.map Number.digitChar

/-- A point with digits, or nothing. -/
inductive SpellsFraction : Option (List Nat) → List Char → Prop
  | none : SpellsFraction none []
  | some {ds cs} : SpellsDigits ds cs → SpellsFraction (some ds) ('.' :: cs)

/-- The sign of an exponent, which may be left out when it is positive. -/
inductive SpellsSign : Bool → List Char → Prop
  | none : SpellsSign false []
  | plus : SpellsSign false ['+']
  | minus : SpellsSign true ['-']

/-- An exponent, or nothing. -/
inductive SpellsExponent : Option (Bool × List Nat) → List Char → Prop
  | none : SpellsExponent none []
  | some {e down sign ds cs} : e ∈ ['e', 'E'] → SpellsSign down sign → SpellsDigits ds cs →
      SpellsExponent (some (down, ds)) (e :: sign ++ cs)

/-- A number without its sign; a zero in front stands alone. -/
inductive SpellsMagnitude (negative : Bool) : Numeral → List Char → Prop
  | mk {whole fraction exponent ws fs es} : SpellsDigits whole ws →
      (whole.head? = some 0 → whole = [0]) → SpellsFraction fraction fs →
      SpellsExponent exponent es →
        SpellsMagnitude negative ⟨negative, whole, fraction, exponent⟩ (ws ++ fs ++ es)

/-- A number. -/
inductive SpellsNumeral : Numeral → List Char → Prop
  | positive {n cs} : SpellsMagnitude false n cs → SpellsNumeral n cs
  | negative {n cs} : SpellsMagnitude true n cs → SpellsNumeral n ('-' :: cs)

/-- The letters that a backslash gives another meaning, with the bytes that they then stand for. -/
def escapes : List (Char × UInt8) :=
  [('"', 0x22), ('\\', 0x5C), ('/', 0x2F), ('b', 0x08), ('f', 0x0C), ('n', 0x0A), ('r', 0x0D),
    ('t', 0x09)]

/-- A digit in base sixteen, small or capital. -/
def SpellsHex (d : Nat) (c : Char) : Prop := d < 16 ∧ (c = hexChar d ∨ c = (hexChar d).toUpper)

/-- The inside of a string. -/
inductive SpellsPieces : List Piece → List Char → Prop
  | nil : SpellsPieces [] []
  | plain {c ps cs} : c ≠ '"' → c ≠ '\\' → ¬ c.toNat < 32 → SpellsPieces ps cs →
      SpellsPieces ((String.utf8EncodeChar c).map .byte ++ ps) (c :: cs)
  | escape {c b ps cs} : (c, b) ∈ escapes → SpellsPieces ps cs →
      SpellsPieces (.byte b :: ps) ('\\' :: c :: cs)
  | unit {h i j k a b c d ps cs} : SpellsHex h a → SpellsHex i b → SpellsHex j c →
      SpellsHex k d → SpellsPieces ps cs →
        SpellsPieces (.unit (((h * 16 + i) * 16 + j) * 16 + k) :: ps)
          ('\\' :: 'u' :: a :: b :: c :: d :: cs)

/-- A string between its quotes. -/
inductive SpellsString : Quoted → List Char → Prop
  | mk {ps cs} : SpellsPieces ps cs → SpellsString ⟨ps, none⟩ ('"' :: cs ++ ['"'])

/-! ### Values -/

mutual

/-- A value. -/
inductive SpellsValue : Node → List Char → Prop
  | word {w} : SpellsValue (.word w none) w.chars
  | numeral {n cs} : SpellsNumeral n cs → SpellsValue (.numeral (.ok n)) cs
  | string {q cs} : SpellsString q cs → SpellsValue (.quoted q) cs
  | emptyList {ws} : Blank ws → SpellsValue (.list [] none) ('[' :: ws ++ [']'])
  | list {ns cs} : SpellsElements ns cs → SpellsValue (.list ns none) ('[' :: cs ++ [']'])
  | emptyObject {ws} : Blank ws → SpellsValue (.object [] none) ('{' :: ws ++ ['}'])
  | object {ms cs} : SpellsMembers ms cs → SpellsValue (.object ms none) ('{' :: cs ++ ['}'])

/-- A value with space around it. -/
inductive SpellsElement : Node → List Char → Prop
  | mk {before n cs after} : Blank before → SpellsValue n cs → Blank after →
      SpellsElement n (before ++ cs ++ after)

/-- The elements of a list that has some, with commas between them. -/
inductive SpellsElements : List Node → List Char → Prop
  | last {n cs} : SpellsElement n cs → SpellsElements [n] cs
  | cons {n cs ns ds} : SpellsElement n cs → SpellsElements ns ds →
      SpellsElements (n :: ns) (cs ++ ',' :: ds)

/-- A member of an object, with space around it. -/
inductive SpellsMember : Quoted × Node → List Char → Prop
  | mk {before q name after n cs} : Blank before → SpellsString q name → Blank after →
      SpellsElement n cs → SpellsMember (q, n) (before ++ name ++ after ++ ':' :: cs)

/-- The members of an object that has some, with commas between them. -/
inductive SpellsMembers : List (Quoted × Node) → List Char → Prop
  | last {m cs} : SpellsMember m cs → SpellsMembers [m] cs
  | cons {m cs ms ds} : SpellsMember m cs → SpellsMembers ms ds →
      SpellsMembers (m :: ms) (cs ++ ',' :: ds)

end

/-- A text is a well-formed document, and a node is what it holds. -/
def Spells (n : Node) (text : String) : Prop := SpellsElement n text.toList

/-! ### Space -/

/-- A character of one byte is that byte. -/
theorem encode_byte {c : Char} {b : UInt8} (hc : String.utf8EncodeChar c = [b]) (cs : List Char)
    (rest : List UInt8) : encode (c :: cs) ++ rest = b :: (encode cs ++ rest) := by
  rw [encode_cons, hc, List.append_assoc, List.singleton_append]

theorem Blank.nil : Blank [] := List.forall_mem_nil _

theorem Blank.byte {c : Char} (h : c ∈ [' ', '\n', '\r', '\t']) :
    ∃ b, String.utf8EncodeChar c = [b] ∧ isBlank b = true ∧
      isDigit b = false ∧ b ≠ 0x2E ∧ b ≠ 0x65 ∧ b ≠ 0x45 := by
  simp only [List.mem_cons, List.not_mem_nil, or_false] at h
  rcases h with rfl | rfl | rfl | rfl
  all_goals exact ⟨_, rfl, by decide⟩

theorem lex_blanks {cs : List Char} (h : Blank cs) (rest : List UInt8) :
    lex (encode cs ++ rest) = lex rest := by
  induction cs with
  | nil => rfl
  | cons c cs ih =>
    obtain ⟨hc, hcs⟩ := List.forall_mem_cons.1 h
    obtain ⟨b, hb, hblank, _⟩ := Blank.byte hc
    rw [encode_byte hb, lex_blank hblank, ih hcs]

theorem endsNumber_nil : EndsNumber [] := by
  intro b hb
  cases hb

theorem endsNumber_cons {b : UInt8} (rest : List UInt8)
    (hb : isDigit b = false ∧ b ≠ 0x2E ∧ b ≠ 0x65 ∧ b ≠ 0x45) : EndsNumber (b :: rest) := by
  intro c hc
  cases hc
  exact hb

/-- So does the end of a list or object, and a comma. -/
theorem endsNumber_mark (c : Char) (hc : c ∈ [',', ']', '}']) (cs : List Char)
    (rest : List UInt8) : EndsNumber (encode (c :: cs) ++ rest) := by
  simp only [List.mem_cons, List.not_mem_nil, or_false] at hc
  rcases hc with rfl | rfl | rfl
  all_goals exact endsNumber_cons _ (by decide)

/-- Space ends a number. -/
theorem endsNumber_blanks {cs : List Char} (h : Blank cs) {rest : List UInt8}
    (hrest : EndsNumber rest) : EndsNumber (encode cs ++ rest) := by
  cases cs with
  | nil => exact hrest
  | cons c cs =>
    obtain ⟨b, hb, _, hends⟩ := Blank.byte (h c List.mem_cons_self)
    rw [encode_byte hb]
    exact endsNumber_cons _ hends

/-! ### Numbers -/

theorem scanSomeDigits_spelled {ds : List Nat} {cs : List Char} (h : SpellsDigits ds cs)
    {rest : List UInt8} (hrest : NoDigit rest) :
    scanSomeDigits (encode cs ++ rest) = .ok (ds, rest) := by
  obtain ⟨hne, hds, rfl⟩ := h
  simp only [scanSomeDigits, scanDigits_encode hds hrest]
  rw [if_neg (by simpa using hne)]

theorem scanWhole_spelled {ds : List Nat} {cs : List Char} (h : SpellsDigits ds cs)
    (hzero : ds.head? = some 0 → ds = [0]) {rest : List UInt8} (hrest : NoDigit rest) :
    scanWhole (encode cs ++ rest) = .ok (ds, rest) := by
  rw [scanWhole, scanSomeDigits_spelled h hrest]
  cases ds with
  | nil => rfl
  | cons d ds =>
    cases d with
    | succ d => rfl
    | zero =>
      obtain rfl : ds = [] := (List.cons.inj (hzero rfl)).2
      rfl

theorem scanFraction_spelled {fraction : Option (List Nat)} {cs : List Char}
    (h : SpellsFraction fraction cs) {rest : List UInt8} (hdigit : NoDigit rest)
    (hpoint : ∀ b ∈ rest.head?, b ≠ 0x2E) :
    scanFraction (encode cs ++ rest) = .ok (fraction, rest) := by
  cases h with
  | none =>
    change scanFraction rest = _
    rw [scanFraction]
    rintro rest rfl
    exact hpoint _ rfl rfl
  | @some ds cs h =>
    change scanFraction (0x2E :: (encode cs ++ rest)) = _
    rw [scanFraction, scanSomeDigits_spelled h hdigit]
    rfl

/-- A sign is taken off, or there is none in front of the digits. -/
theorem scanSign_spelled {down : Bool} {sign : List Char} (h : SpellsSign down sign) {ds : List Nat}
    {cs : List Char} (hds : SpellsDigits ds cs) (rest : List UInt8) :
    scanSign (encode sign ++ (encode cs ++ rest)) = (down, encode cs ++ rest) := by
  cases h with
  | plus => rfl
  | minus => rfl
  | none =>
    obtain ⟨hne, hdigits, rfl⟩ := hds
    obtain ⟨d, ds, rfl⟩ := List.exists_cons_of_ne_nil hne
    have hd : d < 10 := hdigits d List.mem_cons_self
    have hunsigned : ∀ d < 10, UInt8.ofNat (48 + d) ≠ 0x2B ∧ UInt8.ofNat (48 + d) ≠ 0x2D := by
      decide
    rw [List.map_cons, encode_byte (digitChar_byte d hd).1]
    change scanSign (_ :: _) = _
    rw [scanSign, if_neg (hunsigned d hd).1, if_neg (hunsigned d hd).2]

theorem scanExponent_spelled {exponent : Option (Bool × List Nat)} {cs : List Char}
    (h : SpellsExponent exponent cs) {rest : List UInt8} (hrest : EndsNumber rest) :
    scanExponent (encode cs ++ rest) = .ok (exponent, rest) := by
  cases h with
  | none =>
    change scanExponent rest = _
    cases rest with
    | nil => rfl
    | cons b rest =>
      obtain ⟨_, _, hlower, hupper⟩ := hrest b rfl
      simp [scanExponent, hlower, hupper]
  | @some e down sign ds cs he hsign h =>
    have hscan : ∀ b, b = 0x65 ∨ b = 0x45 →
        scanExponent (b :: (encode sign ++ (encode cs ++ rest))) = .ok (some (down, ds), rest) := by
      intro b hb
      have hb' : (decide (b = 0x65) || decide (b = 0x45)) = true := by simpa using hb
      simp only [scanExponent, hb', if_true, scanSign_spelled hsign h,
        scanSomeDigits_spelled h hrest.noDigit]
      rfl
    rw [encode_append, encode_cons, List.append_assoc, List.append_assoc]
    simp only [List.mem_cons, List.not_mem_nil, or_false] at he
    rcases he with rfl | rfl
    · exact hscan _ (.inl rfl)
    · exact hscan _ (.inr rfl)

/-- What comes after the point goes on with neither the digits nor the point. -/
theorem head_exponent {exponent : Option (Bool × List Nat)} {cs : List Char}
    (h : SpellsExponent exponent cs) {rest : List UInt8} (hrest : EndsNumber rest) :
    ∀ b ∈ (encode cs ++ rest).head?, isDigit b = false ∧ b ≠ 0x2E := by
  cases h with
  | none => exact fun b hb => ⟨(hrest b hb).1, (hrest b hb).2.1⟩
  | @some e down sign ds cs he hsign h =>
    simp only [List.mem_cons, List.not_mem_nil, or_false] at he
    rintro b hb
    rcases he with rfl | rfl <;> cases hb <;> decide

theorem noDigit_fraction {fraction : Option (List Nat)} {cs : List Char}
    (h : SpellsFraction fraction cs) {rest : List UInt8} (hrest : NoDigit rest) :
    NoDigit (encode cs ++ rest) := by
  cases h with
  | none => exact hrest
  | some _ => exact NoDigit.cons rfl _

theorem scanNumeral_spelled {negative : Bool} {n : Numeral} {cs : List Char}
    (h : SpellsMagnitude negative n cs) {rest : List UInt8} (hrest : EndsNumber rest) :
    scanNumeral negative (encode cs ++ rest) = .ok (n, rest) := by
  obtain ⟨hwhole, hzero, hfraction, hexponent⟩ := h
  have hhead := head_exponent hexponent hrest
  have hdigit : NoDigit _ := fun b hb => (hhead b hb).1
  have hpoint := fun b hb => (hhead b hb).2
  rw [encode_append, encode_append, List.append_assoc, List.append_assoc, scanNumeral,
    scanWhole_spelled hwhole hzero (noDigit_fraction hfraction hdigit)]
  simp only [bind, Except.bind, scanFraction_spelled hfraction hdigit hpoint,
    scanExponent_spelled hexponent hrest]
  rfl

/-! ### Strings -/

theorem scan_escape {c : Char} {b : UInt8} (h : (c, b) ∈ escapes) :
    ∃ e, String.utf8EncodeChar c = [e] ∧ ∀ rest,
      Quoted.scan (0x5C :: e :: rest) = Quoted.after (.byte b) (Quoted.scan rest) := by
  simp only [escapes, List.mem_cons, List.not_mem_nil, or_false, Prod.mk.injEq] at h
  rcases h with ⟨rfl, rfl⟩ | ⟨rfl, rfl⟩ | ⟨rfl, rfl⟩ | ⟨rfl, rfl⟩ | ⟨rfl, rfl⟩ | ⟨rfl, rfl⟩ |
    ⟨rfl, rfl⟩ | ⟨rfl, rfl⟩
  all_goals exact ⟨_, rfl, fun _ => rfl⟩

theorem hexChar_byte : ∀ d < 16,
    String.utf8EncodeChar (hexChar d) = [UInt8.ofNat (hexChar d).toNat] ∧
      hexValue (UInt8.ofNat (hexChar d).toNat) = some d := by decide

theorem toUpper_hexChar_byte : ∀ d < 16,
    String.utf8EncodeChar (hexChar d).toUpper = [UInt8.ofNat (hexChar d).toUpper.toNat] ∧
      hexValue (UInt8.ofNat (hexChar d).toUpper.toNat) = some d := by decide

theorem SpellsHex.byte {d : Nat} {c : Char} (h : SpellsHex d c) :
    ∃ b, String.utf8EncodeChar c = [b] ∧ hexValue b = some d := by
  obtain ⟨hd, rfl | rfl⟩ := h
  · exact ⟨_, hexChar_byte d hd⟩
  · exact ⟨_, toUpper_hexChar_byte d hd⟩

/-- A string is scanned up to its closing quote. -/
theorem scan_pieces {ps : List Piece} {cs : List Char} (h : SpellsPieces ps cs)
    (rest : List UInt8) : Quoted.scan (encode cs ++ 0x22 :: rest) = (⟨ps, none⟩, rest) := by
  have hslash : String.utf8EncodeChar '\\' = [0x5C] := rfl
  induction h with
  | nil => rfl
  | plain hquote hescape hcontrol _ ih =>
    rw [encode_cons, List.append_assoc, scan_plain (isPlain_utf8EncodeChar hquote hescape hcontrol),
      ih]
    rfl
  | escape hc _ ih =>
    obtain ⟨e, he, hscan⟩ := scan_escape hc
    rw [encode_byte hslash, encode_byte he, hscan, ih]
    rfl
  | unit ha hb hc hd _ ih =>
    obtain ⟨a, hachar, ha⟩ := ha.byte
    obtain ⟨b, hbchar, hb⟩ := hb.byte
    obtain ⟨c, hcchar, hc⟩ := hc.byte
    obtain ⟨d, hdchar, hd⟩ := hd.byte
    have hu : String.utf8EncodeChar 'u' = [0x75] := rfl
    rw [encode_byte hslash, encode_byte hu, encode_byte hachar, encode_byte hbchar,
      encode_byte hcchar, encode_byte hdchar, Quoted.scan, codeUnit, ha, hb, hc, hd]
    change Quoted.after _ (Quoted.scan _) = _
    rw [ih]
    rfl

/-! ### Tokens -/

theorem lex_punctuation {c : Char} {b : UInt8} {t : Token} (hc : String.utf8EncodeChar c = [b])
    (hb : isBlank b = false) (h : punctuation b = some t) (cs : List Char) (rest : List UInt8) :
    lex (encode (c :: cs) ++ rest) = t :: lex (encode cs ++ rest) := by
  rw [encode_byte hc, lex_cons hb, Token.scan, h]

theorem lex_word (w : Word) (rest : List UInt8) :
    lex (encode w.chars ++ rest) = .word w none :: lex rest := by
  cases w <;> exact lex_cons rfl _

theorem lex_quoted {q : Quoted} {cs : List Char} (h : SpellsString q cs) (rest : List UInt8) :
    lex (encode cs ++ rest) = .quoted q :: lex rest := by
  obtain ⟨h⟩ := h
  rename_i ps cs
  have hquote : String.utf8EncodeChar '"' = [0x22] := rfl
  have hscan : Token.scan 0x22 (encode cs ++ 0x22 :: rest) = (.quoted ⟨ps, none⟩, rest) := by
    change quotedToken (Quoted.scan _) = _
    rw [scan_pieces h]
    rfl
  rw [List.cons_append, encode_byte hquote, encode_append, List.append_assoc, encode_byte hquote,
    lex_cons rfl]
  change (Token.scan 0x22 (encode cs ++ 0x22 :: rest)).1 ::
    lex (Token.scan 0x22 (encode cs ++ 0x22 :: rest)).2 = _
  rw [hscan]

theorem lex_numeral {n : Numeral} {cs : List Char} (h : SpellsNumeral n cs) {rest : List UInt8}
    (hrest : EndsNumber rest) : lex (encode cs ++ rest) = .numeral (.ok n) :: lex rest := by
  cases h with
  | negative h =>
    have hminus : String.utf8EncodeChar '-' = [0x2D] := rfl
    rename_i cs
    have hscan : Token.scan 0x2D (encode cs ++ rest) = (.numeral (.ok n), rest) := by
      change numeralToken (scanNumeral true _) = _
      rw [scanNumeral_spelled h hrest]
      rfl
    rw [encode_byte hminus, lex_cons rfl, hscan]
  | positive h =>
    have hscan := scanNumeral_spelled h hrest
    -- the first byte is a digit, and tells that it is a number
    obtain ⟨⟨hne, hdigits, rfl⟩, _, _, _⟩ := h
    obtain ⟨d, ds, rfl⟩ := List.exists_cons_of_ne_nil hne
    have hd : d < 10 := hdigits d List.mem_cons_self
    rw [List.map_cons, List.cons_append, List.cons_append,
      encode_byte (digitChar_byte d hd).1] at hscan ⊢
    rw [lex_digit hd, hscan]
    rfl

/-! ### Values where they are due -/

/-- What is read when reading goes on after some progress. -/
def Progress.run (rest : List Token) : Progress → Node
  | .more s => Json.run s rest
  | .done n => n

theorem run_cons (s : State) (t : Token) (rest : List Token) :
    run s (t :: rest) = (s.step t).run rest := by
  rw [run]
  cases s.step t <;> rfl

/-- A value may begin, with some lists and objects open around it.  Where a list may be closed as
well, that is not the beginning of a value. -/
def State.Due (s : State) (stack : List Frame) : Prop :=
  ∀ t, t ≠ .closeList → s.step t = State.begin stack t

/-- A member of an object may begin, with some members done. -/
def State.DueMember (s : State) (done : List (Quoted × Node)) (stack : List Frame) : Prop :=
  ∀ q, s.step (.quoted q) = State.name done stack q

theorem due_value (stack : List Frame) : (State.value stack).Due stack := fun _ _ => rfl

theorem due_firstItem (stack : List Frame) : (State.firstItem stack).Due (.list [] :: stack) := by
  intro t ht
  rw [State.step]
  exact ht

theorem due_nextItem (done : List Node) (stack : List Frame) :
    (State.nextItem done stack).Due (.list done :: stack) := by
  intro t ht
  rw [State.step]
  exact ht

theorem dueMember_firstKey (stack : List Frame) : (State.firstKey stack).DueMember [] stack :=
  fun _ => rfl

theorem dueMember_nextKey (done : List (Quoted × Node)) (stack : List Frame) :
    (State.nextKey done stack).DueMember done stack := fun _ => rfl

theorem State.Due.run {s : State} {stack : List Frame} (h : s.Due stack) {t : Token}
    (ht : t ≠ .closeList) (rest : List Token) :
    run s (t :: rest) = (State.begin stack t).run rest := by
  rw [run_cons, h t ht]

theorem SpellsString.fault {q : Quoted} {cs : List Char} (h : SpellsString q cs) :
    q.fault = none := by
  cases h
  rfl

theorem State.Due.run_openList {s : State} {stack : List Frame} (h : s.Due stack)
    (rest : List Token) : Json.run s (.openList :: rest) = Json.run (.firstItem stack) rest :=
  h.run (by nofun) rest

theorem State.Due.run_openObject {s : State} {stack : List Frame} (h : s.Due stack)
    (rest : List Token) : Json.run s (.openObject :: rest) = Json.run (.firstKey stack) rest :=
  h.run (by nofun) rest

theorem lex_closing {c : Char} {b : UInt8} {t : Token} (hc : String.utf8EncodeChar c = [b])
    (hb : isBlank b = false) (h : punctuation b = some t) (rest : List UInt8) :
    lex (encode [c] ++ rest) = t :: lex rest :=
  lex_punctuation hc hb h [] rest

mutual

/-- A value is read where one is due. -/
theorem run_value {n : Node} {cs : List Char} (h : SpellsValue n cs) {s : State}
    {stack : List Frame} (hs : s.Due stack) {rest : List UInt8} (hrest : EndsNumber rest) :
    run s (lex (encode cs ++ rest)) = (resume n stack).run (lex rest) := by
  match h with
  | .word =>
    rw [lex_word]
    exact hs.run (by nofun) _
  | .numeral h =>
    rw [lex_numeral h hrest]
    exact hs.run (by nofun) _
  | @SpellsValue.string q _ h =>
    have hbegin : State.begin stack (.quoted q) = resume (.quoted q) stack := by
      rw [State.begin, h.fault]
      rfl
    rw [lex_quoted h, ← hbegin]
    exact hs.run (by nofun) _
  | .emptyList h =>
    rw [List.cons_append, lex_punctuation rfl rfl rfl, hs.run_openList, encode_append,
      List.append_assoc, lex_blanks h, lex_closing rfl rfl rfl]
    exact run_cons ..
  | .list h =>
    rw [List.cons_append, lex_punctuation rfl rfl rfl, hs.run_openList, encode_append,
      List.append_assoc]
    exact run_elements h (due_firstItem stack) rest
  | .emptyObject h =>
    rw [List.cons_append, lex_punctuation rfl rfl rfl, hs.run_openObject, encode_append,
      List.append_assoc, lex_blanks h, lex_closing rfl rfl rfl]
    exact run_cons ..
  | .object h =>
    rw [List.cons_append, lex_punctuation rfl rfl rfl, hs.run_openObject, encode_append,
      List.append_assoc]
    exact run_members h (dueMember_firstKey stack) rest

theorem run_element {n : Node} {cs : List Char} (h : SpellsElement n cs) {s : State}
    {stack : List Frame} (hs : s.Due stack) {rest : List UInt8} (hrest : EndsNumber rest) :
    run s (lex (encode cs ++ rest)) = (resume n stack).run (lex rest) := by
  match h with
  | .mk hbefore h hafter =>
    rw [encode_append, encode_append, List.append_assoc, List.append_assoc, lex_blanks hbefore,
      run_value h hs (endsNumber_blanks hafter hrest), lex_blanks hafter]

/-- The elements that are left of a list are read up to its end. -/
theorem run_elements {ns : List Node} {cs : List Char} (h : SpellsElements ns cs) {s : State}
    {done : List Node} {stack : List Frame} (hs : s.Due (.list done :: stack))
    (rest : List UInt8) :
    run s (lex (encode cs ++ (encode [']'] ++ rest))) =
      (resume (.list (done.reverse ++ ns) none) stack).run (lex rest) := by
  match h with
  | @SpellsElements.last n _ h =>
    rw [run_element h hs (endsNumber_mark ']' (by decide) _ _), lex_closing rfl rfl rfl, resume,
      ← List.reverse_cons]
    exact run_cons ..
  | @SpellsElements.cons n _ ns _ h h' =>
    have hdone : done.reverse ++ n :: ns = (n :: done).reverse ++ ns := by simp
    rw [encode_append, List.append_assoc, run_element h hs (endsNumber_mark ',' (by decide) _ _),
      lex_punctuation rfl rfl rfl, resume, hdone, ← run_elements h' (due_nextItem _ _),
      Progress.run, run_cons]
    rfl

theorem run_member {m : Quoted × Node} {cs : List Char} (h : SpellsMember m cs) {s : State}
    {done : List (Quoted × Node)} {stack : List Frame} (hs : s.DueMember done stack)
    {rest : List UInt8} (hrest : EndsNumber rest) :
    run s (lex (encode cs ++ rest)) = run (.afterMember (m :: done) stack) (lex rest) := by
  match h with
  | @SpellsMember.mk _ q _ _ n _ hbefore hq hafter h =>
    have hname : State.name done stack q = .more (.colon done q stack) := by
      rw [State.name, hq.fault]
      rfl
    simp only [encode_append, List.append_assoc]
    rw [lex_blanks hbefore, lex_quoted hq, run_cons, hs, hname, lex_blanks hafter,
      lex_punctuation rfl rfl rfl, Progress.run, run_cons]
    exact run_element h (due_value _) hrest

/-- The members that are left of an object are read up to its end. -/
theorem run_members {ms : List (Quoted × Node)} {cs : List Char} (h : SpellsMembers ms cs)
    {s : State} {done : List (Quoted × Node)} {stack : List Frame} (hs : s.DueMember done stack)
    (rest : List UInt8) :
    run s (lex (encode cs ++ (encode ['}'] ++ rest))) =
      (resume (.object (done.reverse ++ ms) none) stack).run (lex rest) := by
  match h with
  | .last h =>
    rw [run_member h hs (endsNumber_mark '}' (by decide) _ _), lex_closing rfl rfl rfl,
      ← List.reverse_cons]
    exact run_cons ..
  | @SpellsMembers.cons m _ ms _ h h' =>
    have hdone : done.reverse ++ m :: ms = (m :: done).reverse ++ ms := by simp
    rw [encode_append, List.append_assoc, run_member h hs (endsNumber_mark ',' (by decide) _ _),
      lex_punctuation rfl rfl rfl, hdone,
      ← run_members h' (dueMember_nextKey _ _)]
    exact run_cons ..

end

/-! ### Skipping a value -/

mutual

/-- What is well-formed is skipped over. -/
theorem skip_value {n : Node} {cs : List Char} (h : SpellsValue n cs) : n.skip = .ok () := by
  match h with
  | .word | .numeral _ | .emptyList _ | .emptyObject _ => rfl
  | @SpellsValue.string q _ h =>
    rw [Node.skip, Quoted.skipping, h.fault]
  | .list h => exact skip_elements h
  | .object h => exact skip_members h

theorem skip_element {n : Node} {cs : List Char} (h : SpellsElement n cs) : n.skip = .ok () := by
  match h with
  | .mk _ h _ => exact skip_value h

theorem skip_elements {ns : List Node} {cs : List Char} (h : SpellsElements ns cs) :
    Node.skipItems none ns = .ok () := by
  match h with
  | .last h =>
    rw [Node.skipItems, skip_element h]
    rfl
  | .cons h h' =>
    rw [Node.skipItems, skip_element h]
    exact skip_elements h'

theorem skip_members {ms : List (Quoted × Node)} {cs : List Char} (h : SpellsMembers ms cs) :
    Node.skipMembers none ms = .ok () := by
  match h with
  | .last (.mk _ hq _ h) =>
    rw [Node.skipMembers, Quoted.skipping, hq.fault, skip_element h]
    rfl
  | .cons (.mk _ hq _ h) h' =>
    rw [Node.skipMembers, Quoted.skipping, hq.fault, skip_element h]
    exact skip_members h'

end

/-! ### Whole texts -/

/-- A text that spells a document is read as that document. -/
theorem ofString_of_spells {n : Node} {text : String} (h : Spells n text) :
    Node.ofString text = n := by
  have hrun := run_element h (due_value []) endsNumber_nil
  rw [List.append_nil] at hrun
  rw [Node.ofString, Node.ofBytes, toBytes_eq, hrun]
  rfl

end IdlLink.Json
