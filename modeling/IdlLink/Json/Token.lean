/-
The tokens of a document, from its bytes.

`lex` cuts a text into tokens up to the first one that breaks off; that one is the last token and
carries what is wrong with it. It ends because every token shortens the text (`Token.scan_length`).
-/
import IdlLink.Json.Numeral
import IdlLink.Json.Quoted

namespace IdlLink.Json

/-! ### Words and numbers -/

/-- The three words that are values. -/
inductive Word where
  | null
  | true
  | false
  deriving DecidableEq, Repr

/-- Where a word breaks off: the text ends, or another character stands in its spelling. -/
inductive WordFault where
  | ended
  | misspelled
  deriving DecidableEq, Repr

/-- The error that a word's fault stands for. -/
def WordFault.error : WordFault → SyntaxError
  | .ended => .endInValue
  | .misspelled => .expectedWord

/-- Match the bytes that are still missing from a word. -/
def scanWord : List UInt8 → List UInt8 → Option WordFault × List UInt8
  | [], rest => (none, rest)
  | _ :: _, [] => (some .ended, [])
  | e :: es, b :: rest => if b = e then scanWord es rest else (some .misspelled, [])

/-- Where a number breaks off: a digit is missing at the end of the text, or elsewhere. -/
inductive NumeralFault where
  | ended
  | malformed
  deriving DecidableEq, Repr

/-- The error of a number that is wanted for its value. -/
def NumeralFault.error : NumeralFault → SyntaxError
  | .ended => .endInValue
  | .malformed => .invalidNumber

/-- Whether a byte is a decimal digit. -/
def isDigit (b : UInt8) : Bool := 0x30 ≤ b && b ≤ 0x39

/-- The digits at the front of a text, and the text after them. -/
def scanDigits : List UInt8 → List Nat × List UInt8
  | [] => ([], [])
  | b :: rest =>
    if isDigit b then
      let r := scanDigits rest
      ((b.toNat - 48) :: r.1, r.2)
    else ([], b :: rest)

/-- The fault of a text at which a digit is missing. -/
def digitMissing : List UInt8 → NumeralFault
  | [] => .ended
  | _ :: _ => .malformed

/-- Scan at least one digit. -/
def scanSomeDigits (bs : List UInt8) : Except NumeralFault (List Nat × List UInt8) :=
  let r := scanDigits bs
  if r.1.isEmpty then .error (digitMissing bs) else .ok r

/-- Scan the digits in front of the point; a zero stands alone. -/
def scanWhole (bs : List UInt8) : Except NumeralFault (List Nat × List UInt8) := do
  let r ← scanSomeDigits bs
  match r.1 with
  | 0 :: _ :: _ => .error .malformed
  | _ => .ok r

/-- Scan a point with digits, if there is one. -/
def scanFraction : List UInt8 → Except NumeralFault (Option (List Nat) × List UInt8)
  | 0x2E :: rest => do
    let r ← scanSomeDigits rest
    return (some r.1, r.2)
  | bs => .ok (none, bs)

/-- The sign of an exponent: whether it is negative, and the text after it. -/
def scanSign : List UInt8 → Bool × List UInt8
  | [] => (false, [])
  | b :: rest => if b = 0x2B then (false, rest) else if b = 0x2D then (true, rest) else (false, b :: rest)

/-- Scan an exponent, if there is one. -/
def scanExponent : List UInt8 → Except NumeralFault (Option (Bool × List Nat) × List UInt8)
  | [] => .ok (none, [])
  | b :: rest =>
    if b = 0x65 || b = 0x45 then do
      let s := scanSign rest
      let r ← scanSomeDigits s.2
      return (some (s.1, r.1), r.2)
    else .ok (none, b :: rest)

/-- Scan a number whose sign has been read. -/
def scanNumeral (negative : Bool) (bs : List UInt8) :
    Except NumeralFault (Numeral × List UInt8) := do
  let w ← scanWhole bs
  let f ← scanFraction w.2
  let e ← scanExponent f.2
  return (⟨negative, w.1, f.1, e.1⟩, e.2)

/-! ### Tokens -/

/-- A token of a document. -/
inductive Token where
  | openList
  | closeList
  | openObject
  | closeObject
  | comma
  | colon
  | word (w : Word) (fault : Option WordFault)
  | numeral (n : Except NumeralFault Numeral)
  | quoted (q : Quoted)
  /-- A character that starts no token. -/
  | stray

/-- Whether a byte may stand between tokens. -/
def isBlank (b : UInt8) : Bool := b == 0x20 || b == 0x0A || b == 0x0D || b == 0x09

/-- The token of a scanned number. -/
def numeralToken : Except NumeralFault (Numeral × List UInt8) → Token × List UInt8
  | .ok r => (.numeral (.ok r.1), r.2)
  | .error f => (.numeral (.error f), [])

/-- The token of a scanned word. -/
def wordToken (w : Word) (r : Option WordFault × List UInt8) : Token × List UInt8 :=
  (.word w r.1, r.2)

/-- The token of a scanned string. -/
def quotedToken (r : Quoted × List UInt8) : Token × List UInt8 := (.quoted r.1, r.2)

/-- The token that a byte is by itself. -/
def punctuation (b : UInt8) : Option Token :=
  if b = 0x5B then some .openList
  else if b = 0x5D then some .closeList
  else if b = 0x7B then some .openObject
  else if b = 0x7D then some .closeObject
  else if b = 0x2C then some .comma
  else if b = 0x3A then some .colon
  else none

/-- The token of several bytes that starts with a byte, and the text after it. -/
def Token.scanLong (b : UInt8) (rest : List UInt8) : Token × List UInt8 :=
  if b = 0x22 then quotedToken (Quoted.scan rest)
  else if b = 0x6E then wordToken .null (scanWord [0x75, 0x6C, 0x6C] rest)
  else if b = 0x74 then wordToken .true (scanWord [0x72, 0x75, 0x65] rest)
  else if b = 0x66 then wordToken .false (scanWord [0x61, 0x6C, 0x73, 0x65] rest)
  else if b = 0x2D then numeralToken (scanNumeral true rest)
  else if isDigit b then numeralToken (scanNumeral false (b :: rest))
  else (.stray, [])

/-- The token that starts with a byte, and the text after it. -/
def Token.scan (b : UInt8) (rest : List UInt8) : Token × List UInt8 :=
  match punctuation b with
  | some t => (t, rest)
  | none => Token.scanLong b rest

/-! ### Every token shortens the text -/

theorem scanWord_length (es bs : List UInt8) : (scanWord es bs).2.length ≤ bs.length := by
  fun_induction scanWord es bs <;> simp_all; omega

theorem scanDigits_length (bs : List UInt8) :
    (scanDigits bs).2.length + (scanDigits bs).1.length = bs.length := by
  induction bs with
  | nil => simp [scanDigits]
  | cons b rest ih =>
    by_cases h : isDigit b
    · simp only [scanDigits, if_pos h, List.length_cons]
      omega
    · simp [scanDigits, h]

theorem scanSomeDigits_length {bs : List UInt8} {r : List Nat × List UInt8}
    (h : scanSomeDigits bs = .ok r) : r.2.length < bs.length := by
  have hl := scanDigits_length bs
  simp only [scanSomeDigits] at h
  split at h
  · exact absurd h (by simp)
  · rename_i he
    have h' := Except.ok.inj h
    subst h'
    -- at least one digit was taken, so at least one byte is gone
    have : 0 < (scanDigits bs).1.length := by
      rcases hd : (scanDigits bs).1 with _ | ⟨d, ds⟩
      · simp [hd] at he
      · simp
    omega

theorem scanWhole_length {bs : List UInt8} {r : List Nat × List UInt8}
    (h : scanWhole bs = .ok r) : r.2.length < bs.length := by
  simp only [scanWhole] at h
  cases hs : scanSomeDigits bs with
  | error e => rw [hs] at h; exact absurd h (by simp [bind, Except.bind])
  | ok r' =>
    rw [hs] at h
    simp only [bind, Except.bind] at h
    split at h
    · exact absurd h (by simp)
    · exact Except.ok.inj h ▸ scanSomeDigits_length hs

theorem scanFraction_length {bs : List UInt8} {r : Option (List Nat) × List UInt8}
    (h : scanFraction bs = .ok r) : r.2.length ≤ bs.length := by
  unfold scanFraction at h
  split at h
  · rename_i rest
    cases hs : scanSomeDigits rest with
    | error e => rw [hs] at h; exact absurd h (by simp [bind, Except.bind])
    | ok r' =>
      rw [hs] at h
      have hl := scanSomeDigits_length hs
      have h' := Except.ok.inj h
      subst h'
      simp only [List.length_cons]
      omega
  · have h' := Except.ok.inj h
    subst h'
    exact Nat.le_refl _

theorem scanSign_length (bs : List UInt8) : (scanSign bs).2.length ≤ bs.length := by
  unfold scanSign
  split
  · simp
  · split
    · simp
    · split <;> simp

theorem scanExponent_length {bs : List UInt8} {r : Option (Bool × List Nat) × List UInt8}
    (h : scanExponent bs = .ok r) : r.2.length ≤ bs.length := by
  unfold scanExponent at h
  split at h
  · have h' := Except.ok.inj h
    subst h'
    simp
  · rename_i b rest
    split at h
    · cases hs : scanSomeDigits (scanSign rest).2 with
      | error e => simp only [hs] at h; exact absurd h (by simp [bind, Except.bind])
      | ok r' =>
        simp only [hs] at h
        have hl := scanSomeDigits_length hs
        have hg := scanSign_length rest
        have h' := Except.ok.inj h
        subst h'
        simp only [List.length_cons]
        omega
    · have h' := Except.ok.inj h
      subst h'
      exact Nat.le_refl _

theorem scanNumeral_length {negative : Bool} {bs : List UInt8} {r : Numeral × List UInt8}
    (h : scanNumeral negative bs = .ok r) : r.2.length < bs.length := by
  simp only [scanNumeral] at h
  cases hw : scanWhole bs with
  | error e => rw [hw] at h; exact absurd h (by simp [bind, Except.bind])
  | ok w =>
    rw [hw] at h
    simp only [bind, Except.bind] at h
    cases hf : scanFraction w.2 with
    | error e => rw [hf] at h; exact absurd h (by simp)
    | ok f =>
      rw [hf] at h
      simp only at h
      cases he : scanExponent f.2 with
      | error e => rw [he] at h; exact absurd h (by simp)
      | ok e =>
        rw [he] at h
        -- the whole part takes a byte, fraction and exponent give none back
        have h1 := scanWhole_length hw
        have h2 := scanFraction_length hf
        have h3 := scanExponent_length he
        have h' := Except.ok.inj h
        subst h'
        show e.2.length < bs.length
        omega

theorem numeralToken_length {n : Nat} {r : Except NumeralFault (Numeral × List UInt8)}
    (h : ∀ p, r = .ok p → p.2.length ≤ n) : (numeralToken r).2.length ≤ n := by
  cases r with
  | error e => exact Nat.zero_le n
  | ok p => exact h p rfl

theorem Token.scanLong_length (b : UInt8) (rest : List UInt8) :
    (Token.scanLong b rest).2.length ≤ rest.length := by
  unfold Token.scanLong
  split
  · exact Quoted.scan_length rest
  split
  · exact scanWord_length _ rest
  split
  · exact scanWord_length _ rest
  split
  · exact scanWord_length _ rest
  split
  · exact numeralToken_length fun p hp => Nat.le_of_lt (scanNumeral_length hp)
  split
  · refine numeralToken_length fun p hp => ?_
    have := scanNumeral_length hp
    rw [List.length_cons] at this
    omega
  · exact Nat.zero_le _

theorem Token.scan_length (b : UInt8) (rest : List UInt8) :
    (Token.scan b rest).2.length ≤ rest.length := by
  unfold Token.scan
  split
  · exact Nat.le_refl _
  · exact Token.scanLong_length b rest

/-- The tokens of a text, up to the first one that breaks off. -/
def lex : List UInt8 → List Token
  | [] => []
  | b :: rest =>
    if isBlank b then lex rest
    else
      let r := Token.scan b rest
      r.1 :: lex r.2
termination_by bs => bs.length
decreasing_by
  · simp
  · have := Token.scan_length b rest
    simp only [List.length_cons]
    omega

end IdlLink.Json
