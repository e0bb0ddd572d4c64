/-
The tokens of a text, from its characters.

Tokens are made of bytes, and texts of characters.  Each lemma about scanning is about some
characters with any bytes after them, so that texts can be put one after the other:

* `toBytes_eq`, `ofBytes?_encode` — a text is the bytes of its characters, and these spell it;
* `scan_plain`, `scanDigits_encode` — plain characters and digits are scanned as what they are;
* `content_of` — the pieces of a string have the string as their content;
* `value_ofInt` — the digits of an integer stand for it.
-/
import IdlLink.Json.Node
import IdlLink.Json.Value
import Mathlib.Tactic.IntervalCases
import Mathlib.Tactic.SplitIfs

namespace IdlLink

/-! ### Characters as bytes -/

namespace Text

/-- Characters in UTF-8. -/
def encode (cs : List Char) : List UInt8 := cs.flatMap String.utf8EncodeChar

@[simp]
theorem encode_cons (c : Char) (cs : List Char) :
    encode (c :: cs) = String.utf8EncodeChar c ++ encode cs := List.flatMap_cons

@[simp]
theorem encode_append (cs ds : List Char) : encode (cs ++ ds) = encode cs ++ encode ds :=
  List.flatMap_append

theorem loop_toList_eq (a : ByteArray) (i : Nat) (done : List UInt8) :
    ByteArray.toList.loop a i done = done.reverse ++ a.data.toList.drop i := by
  fun_induction ByteArray.toList.loop a i done with
  | case1 i done hi ih =>
    have hi' : i < a.data.toList.length := hi
    have hget : a.get! i = a.data.toList[i] := getElem!_pos a.data i hi
    rw [ih, List.reverse_cons, List.append_assoc, List.singleton_append, hget,
      List.drop_eq_getElem_cons hi']
  | case2 i done hi =>
    rw [List.drop_of_length_le (Nat.not_lt.1 hi), List.append_nil]

/-- A text in UTF-8 is its characters in UTF-8. -/
theorem toBytes_eq (s : String) : toBytes s = encode s.toList := by
  have h : s.toUTF8 = (encode s.toList).toByteArray := String.utf8Encode_toList.symm
  rw [toBytes, ByteArray.toList, loop_toList_eq, h, List.toList_data_toByteArray]
  rfl

/-- The bytes of some characters spell those characters. -/
theorem ofBytes?_encode (cs : List Char) : ofBytes? (encode cs) = some (String.ofList cs) := by
  have h : (encode cs).toByteArray.utf8Decode? = some cs.toArray := List.utf8Decode?_utf8Encode
  rw [ofBytes?, h]
  rfl

end Text

namespace Json

open Text

/-! ### Strings -/

/-- Put some parts in front of a string that was scanned further on. -/
def Quoted.afterAll (ps : List Piece) (r : Quoted × List UInt8) : Quoted × List UInt8 :=
  (⟨ps ++ r.1.pieces, r.1.fault⟩, r.2)

/-- A byte that stands for itself inside a string. -/
def IsPlain (b : UInt8) : Prop := b ≠ 0x22 ∧ b ≠ 0x5C ∧ ¬ b < 0x20

theorem scan_plain {bs : List UInt8} (h : ∀ b ∈ bs, IsPlain b) (rest : List UInt8) :
    Quoted.scan (bs ++ rest) = Quoted.afterAll (bs.map .byte) (Quoted.scan rest) := by
  induction bs with
  | nil => rfl
  | cons b bs ih =>
    obtain ⟨⟨hquote, hescape, hcontrol⟩, hbs⟩ := List.forall_mem_cons.1 h
    have hscan : Quoted.scan (b :: (bs ++ rest)) =
        Quoted.after (.byte b) (Quoted.scan (bs ++ rest)) := by
      rw [Quoted.scan]
      · exact if_neg hcontrol
      all_goals simp_all
    rw [List.cons_append, hscan, ih hbs]
    rfl

theorem isPlain_ofNat {n : Nat} (hn : n < 256) (hquote : n ≠ 34) (hescape : n ≠ 92)
    (hcontrol : 32 ≤ n) : IsPlain (UInt8.ofNat n) := by
  have hn' : (UInt8.ofNat n).toNat = n := UInt8.toNat_ofNat_of_lt' hn
  refine ⟨fun h => hquote ?_, fun h => hescape ?_, fun h => ?_⟩
  · rw [← hn', h]
    rfl
  · rw [← hn', h]
    rfl
  · rw [UInt8.lt_iff_toNat_lt, hn'] at h
    exact absurd hcontrol (Nat.not_le.2 h)

/-- A character that is not escaped is made of bytes that stand for themselves. -/
theorem isPlain_utf8EncodeChar {c : Char} (hquote : c ≠ '"') (hescape : c ≠ '\\')
    (hcontrol : ¬ c.toNat < 32) : ∀ b ∈ String.utf8EncodeChar c, IsPlain b := by
  have hquote' : c.val.toNat ≠ 34 := fun h => hquote (Char.ext (UInt32.toNat_inj.1 h))
  have hescape' : c.val.toNat ≠ 92 := fun h => hescape (Char.ext (UInt32.toNat_inj.1 h))
  have hcontrol' : 32 ≤ c.val.toNat := Nat.not_lt.1 hcontrol
  rw [String.utf8EncodeChar]
  generalize c.val.toNat = n at *
  -- beyond ASCII every byte has its top bit set
  have htop : ∀ m, 128 ≤ m → m < 256 → IsPlain (UInt8.ofNat m) :=
    fun m hm hm' => isPlain_ofNat hm' (by omega) (by omega) (by omega)
  split_ifs <;>
    simp only [List.mem_cons, List.not_mem_nil, or_false, forall_eq_or_imp, forall_eq]
  · exact isPlain_ofNat (by omega) hquote' hescape' hcontrol'
  · exact ⟨htop _ (by omega) (by omega), htop _ (by omega) (by omega)⟩
  · exact ⟨htop _ (by omega) (by omega), htop _ (by omega) (by omega), htop _ (by omega) (by omega)⟩
  · exact ⟨htop _ (by omega) (by omega), htop _ (by omega) (by omega), htop _ (by omega) (by omega),
      htop _ (by omega) (by omega)⟩

/-- The parts that the scanner makes of a written character: a control character without an escape
of its own is a code unit. -/
def charPieces (c : Char) : List Piece :=
  if c.toNat < 32 ∧ c.toNat ∉ [8, 9, 10, 12, 13] then [.unit c.toNat]
  else (String.utf8EncodeChar c).map .byte

/-- A string as the scanner finds it. -/
def Quoted.of (s : String) : Quoted := ⟨s.toList.flatMap charPieces, none⟩

/-! ### The content of a string -/

theorem bytes_byte (fault : Option QuoteFault) (bs : List UInt8) (ps : List Piece) :
    Quoted.bytes fault (bs.map .byte ++ ps) = (bs ++ ·) <$> Quoted.bytes fault ps := by
  induction bs with
  | nil => exact (id_map _).symm
  | cons b bs ih =>
    rw [List.map_cons, List.cons_append, Quoted.bytes, ih]
    exact Functor.map_map ..

theorem bytes_unit {u : Nat} (hu : u < 0xD800) (fault : Option QuoteFault) (ps : List Piece) :
    Quoted.bytes fault (.unit u :: ps) = (codePointBytes u ++ ·) <$> Quoted.bytes fault ps := by
  have hlow : isLowSurrogate u = false := by simp [isLowSurrogate]; omega
  have hhigh : isHighSurrogate u = false := by simp [isHighSurrogate]; omega
  conv_lhs => rw [Quoted.bytes.eq_def]
  -- what comes next matters to the first half of a pair only
  rcases ps with _ | ⟨_ | _, _⟩ <;> simp [hlow, hhigh]

theorem bytes_charPieces (c : Char) (fault : Option QuoteFault) (ps : List Piece) :
    Quoted.bytes fault (charPieces c ++ ps) =
      (String.utf8EncodeChar c ++ ·) <$> Quoted.bytes fault ps := by
  rw [charPieces]
  split_ifs with hcontrol
  · rw [List.singleton_append, bytes_unit (by omega), codePointBytes, Char.ofNat_toNat]
  · exact bytes_byte fault _ ps

/-- A written string has the string as its content. -/
theorem content_of (s : String) : (Quoted.of s).content = .ok s := by
  have hbytes : ∀ cs : List Char, Quoted.bytes none (cs.flatMap charPieces) = .ok (encode cs) := by
    intro cs
    induction cs with
    | nil => rfl
    | cons c cs ih =>
      rw [List.flatMap_cons, bytes_charPieces, ih]
      rfl
  rw [Quoted.content, Quoted.of, hbytes]
  change textOfBytes (encode s.toList) = _
  rw [textOfBytes, ofBytes?_encode, String.ofList_toList]

/-! ### Integers -/

/-- No byte at the front of a text goes on with a number. -/
def EndsNumber (rest : List UInt8) : Prop :=
  ∀ b ∈ rest.head?, isDigit b = false ∧ b ≠ 0x2E ∧ b ≠ 0x65 ∧ b ≠ 0x45

/-- No digit stands at the front of a text. -/
def NoDigit (rest : List UInt8) : Prop := ∀ b ∈ rest.head?, isDigit b = false

theorem NoDigit.cons {b : UInt8} (hb : isDigit b = false) (rest : List UInt8) :
    NoDigit (b :: rest) := by
  intro c hc
  cases hc
  exact hb

theorem EndsNumber.noDigit {rest : List UInt8} (h : EndsNumber rest) : NoDigit rest :=
  fun b hb => (h b hb).1

/-- The spelling of an integer. -/
def Numeral.ofInt (i : Int) : Numeral := ⟨decide (i < 0), Number.digits i.natAbs, none, none⟩

theorem digitChar_byte : ∀ d < 10,
    String.utf8EncodeChar (Number.digitChar d) = [UInt8.ofNat (48 + d)] ∧
      isDigit (UInt8.ofNat (48 + d)) = true ∧ (UInt8.ofNat (48 + d)).toNat - 48 = d := by decide

theorem scanDigits_of_noDigit {rest : List UInt8} (h : NoDigit rest) :
    scanDigits rest = ([], rest) := by
  cases rest with
  | nil => rfl
  | cons b rest => simp [scanDigits, h b rfl]

theorem scanDigits_encode {ds : List Nat} (hds : ∀ d ∈ ds, d < 10) {rest : List UInt8}
    (h : NoDigit rest) :
    scanDigits (encode (ds.map Number.digitChar) ++ rest) = (ds, rest) := by
  induction ds with
  | nil => exact scanDigits_of_noDigit h
  | cons d ds ih =>
    obtain ⟨hd, hds⟩ := List.forall_mem_cons.1 hds
    obtain ⟨hbyte, hdigit, hvalue⟩ := digitChar_byte d hd
    rw [List.map_cons, encode_cons, hbyte, List.append_assoc, List.singleton_append, scanDigits,
      if_pos hdigit, ih hds, hvalue]

theorem absorb_eq {start : Nat} {ds : List Nat} (h : Number.ofDigitsFrom start ds ≤ maxUnsigned) :
    absorb start ds = (Number.ofDigitsFrom start ds, []) := by
  have hle : ∀ (ds : List Nat) (start : Nat), start ≤ Number.ofDigitsFrom start ds := by
    intro ds
    induction ds with
    | nil => exact Nat.le_refl
    | cons d ds ih => exact fun start => Nat.le_trans (by omega) (ih (start * 10 + d))
  induction ds generalizing start with
  | nil => rfl
  | cons d ds ih =>
    have hstart : start * 10 + d ≤ maxUnsigned := Nat.le_trans (hle ds _) h
    rw [absorb, if_pos hstart]
    exact ih h

/-- The spelling of an integer stands for it, if 64 bits hold it. -/
theorem value_ofInt {i : Int} (hmin : -2 ^ 63 ≤ i) (hmax : i < 2 ^ 64) :
    (Numeral.ofInt i).value = some (.integer i) := by
  have hdigits : Number.ofDigitsFrom 0 (Number.digits i.natAbs) = i.natAbs :=
    Number.ofDigits_digits i.natAbs
  have habsorb : absorb 0 (Number.digits i.natAbs) = (i.natAbs, []) := by
    rw [absorb_eq, hdigits]
    rw [hdigits]
    change i.natAbs ≤ 2 ^ 64 - 1
    omega
  have hwhole : wholeValue (decide (i < 0)) i.natAbs = .integer i := by
    by_cases hi : i < 0
    · have hrange : (decide (1 ≤ i.natAbs) && decide (i.natAbs ≤ Nat.pow 2 63)) = true := by
        simp
        omega
      simp only [wholeValue, hi, decide_true, Bool.not_true, Bool.false_eq_true, if_false, hrange,
        if_true, Number.integer.injEq]
      omega
    · simp only [wholeValue, hi, decide_false, Bool.not_false, if_true, Number.integer.injEq]
      omega
  simp only [Numeral.value, Numeral.ofInt, habsorb, hwhole]
  rfl

/-! ### Tokens -/

theorem lex_cons {b : UInt8} (hb : isBlank b = false) (rest : List UInt8) :
    lex (b :: rest) = (Token.scan b rest).1 :: lex (Token.scan b rest).2 := by
  rw [lex, if_neg (by rw [hb]; exact Bool.false_ne_true)]

theorem lex_blank {b : UInt8} (hb : isBlank b = true) (rest : List UInt8) :
    lex (b :: rest) = lex rest := by
  rw [lex, if_pos hb]

/-- At a digit a number begins. -/
theorem lex_digit {d : Nat} (hd : d < 10) (rest : List UInt8) :
    lex (UInt8.ofNat (48 + d) :: rest) =
      (numeralToken (scanNumeral false (UInt8.ofNat (48 + d) :: rest))).1 ::
        lex (numeralToken (scanNumeral false (UInt8.ofNat (48 + d) :: rest))).2 := by
  have hscan : isBlank (UInt8.ofNat (48 + d)) = false ∧ Token.scan (UInt8.ofNat (48 + d)) rest =
      numeralToken (scanNumeral false (UInt8.ofNat (48 + d) :: rest)) := by
    interval_cases d <;> exact ⟨rfl, rfl⟩
  rw [lex_cons hscan.1, hscan.2]

end Json

end IdlLink
