/-
More text after a document.

A token ends by itself or by what follows it.  What comes later is no matter: a scanner that leaves
something over leaves just as much more over when the text goes on.  Only a number can be longer in a
longer text, and only where the text ends with it.

* `Quoted.scan_append`, `scanNumeral_append`, `Token.scan_append` — the scanners, in a longer text;
* `Node.Broken` — a node that could not be skipped over, because its text breaks off somewhere;
* `State.broken_of_step`, `State.ended_broken` — a token that breaks off leaves such a node, and so
  does the end of a text;
* `run_append` — so a text whose first value is complete and no number may go on in any way.
-/
import IdlLink.Proofs.Grammar
import IdlLink.Proofs.Outcome

namespace IdlLink.Json

variable {bs rest more : List UInt8}

/-! ### Words and strings -/

theorem scanWord_append {es : List UInt8} (h : scanWord es bs = (none, rest))
    (more : List UInt8) : scanWord es (bs ++ more) = (none, rest ++ more) := by
  fun_induction scanWord es bs with
  | case1 bs =>
    cases h
    rfl
  | case2 => cases h
  | case3 e es bs ih =>
    rw [List.cons_append, scanWord, if_pos rfl]
    exact ih h
  | case4 => cases h

/-- A letter that a backslash gives another meaning is not the one of a code unit. -/
theorem Quoted.scan_escaped {e b : UInt8} (h : escapedByte e = some b) (rest : List UInt8) :
    Quoted.scan (0x5C :: e :: rest) = Quoted.after (.byte b) (Quoted.scan rest) := by
  have hunit : e ≠ 0x75 := by
    rintro rfl
    cases h
  rw [Quoted.scan]
  · rw [h]
  · rintro _ _ _ _ _ rfl
    exact absurd rfl hunit
  · exact hunit

theorem Quoted.scan_append (h : (Quoted.scan bs).1.fault = none) (more : List UInt8) :
    Quoted.scan (bs ++ more) = ((Quoted.scan bs).1, (Quoted.scan bs).2 ++ more) := by
  fun_induction Quoted.scan bs with
  | case1 => cases h
  | case2 rest => rfl
  | case3 a b c d rest code hcode ih =>
    simp only [List.cons_append, Quoted.scan, hcode, ih h]
    rfl
  | case4 => cases h
  | case5 => cases h
  | case6 => cases h
  | case7 e rest _ _ b hb ih =>
    rw [List.cons_append, List.cons_append, scan_escaped hb, ih h]
    rfl
  | case8 => cases h
  | case9 => cases h
  | case10 b rest hquote _ _ hlast hescape hcontrol ih =>
    -- a backslash would be the last byte, or one of those above
    have hslash : b ≠ 0x5C := by
      intro hb
      cases rest with
      | nil => exact hlast hb rfl
      | cons e rest => exact hescape e rest hb rfl
    have hplain : ∀ c ∈ [b], IsPlain c := by
      intro c hc
      rw [List.mem_singleton.1 hc]
      exact ⟨hquote, hslash, hcontrol⟩
    have hscan := scan_plain hplain (rest ++ more)
    rw [ih h] at hscan
    exact hscan

/-! ### Numbers -/

/-- Digits end where something else stands, and only the end of the text may move. -/
theorem scanDigits_append {ds : List Nat} (h : scanDigits bs = (ds, rest)) (hrest : rest ≠ [])
    (more : List UInt8) : scanDigits (bs ++ more) = (ds, rest ++ more) := by
  induction bs generalizing ds with
  | nil =>
    cases h
    exact absurd rfl hrest
  | cons b bs ih =>
    rw [List.cons_append, scanDigits]
    rw [scanDigits] at h
    by_cases hb : isDigit b
    · rw [if_pos hb] at h ⊢
      obtain ⟨hds, hbs⟩ := Prod.mk.inj h
      rw [ih (Prod.ext rfl hbs)]
      rw [← hds]
    · rw [if_neg hb] at h ⊢
      cases h
      rfl

theorem scanSomeDigits_eq_ok_iff {r : List Nat × List UInt8} :
    scanSomeDigits bs = .ok r ↔ scanDigits bs = r ∧ r.1.isEmpty = false := by
  simp only [scanSomeDigits]
  by_cases hempty : (scanDigits bs).1.isEmpty
  · rw [if_pos hempty]
    refine ⟨fun h => (by cases h), ?_⟩
    rintro ⟨rfl, h⟩
    exact absurd hempty (by simp [h])
  · rw [if_neg hempty]
    refine ⟨fun h => ?_, fun h => congrArg _ h.1⟩
    obtain rfl := Except.ok.inj h
    exact ⟨rfl, Bool.eq_false_iff.2 hempty⟩

theorem scanSomeDigits_append {ds : List Nat} (h : scanSomeDigits bs = .ok (ds, rest))
    (hrest : rest ≠ []) (more : List UInt8) :
    scanSomeDigits (bs ++ more) = .ok (ds, rest ++ more) := by
  obtain ⟨hscan, hempty⟩ := scanSomeDigits_eq_ok_iff.1 h
  exact scanSomeDigits_eq_ok_iff.2 ⟨scanDigits_append hscan hrest more, hempty⟩

theorem scanWhole_append {ds : List Nat} (h : scanWhole bs = .ok (ds, rest)) (hrest : rest ≠ [])
    (more : List UInt8) : scanWhole (bs ++ more) = .ok (ds, rest ++ more) := by
  obtain ⟨r, hr, h⟩ := bind_eq_ok_iff.1 h
  have hsame : r = (ds, rest) := by
    split at h
    · cases h
    · exact Except.ok.inj h
  subst hsame
  refine bind_eq_ok_iff.2 ⟨_, scanSomeDigits_append hr hrest more, ?_⟩
  -- whether a zero stands alone is a matter of the digits
  split at h
  · cases h
  · rfl

theorem scanFraction_append {fraction : Option (List Nat)}
    (h : scanFraction bs = .ok (fraction, rest)) (hrest : rest ≠ []) (more : List UInt8) :
    scanFraction (bs ++ more) = .ok (fraction, rest ++ more) := by
  unfold scanFraction at h
  split at h
  · rename_i bs
    obtain ⟨r, hr, h⟩ := bind_eq_ok_iff.1 h
    cases h
    exact bind_eq_ok_iff.2 ⟨_, scanSomeDigits_append hr hrest more, rfl⟩
  · rename_i hpoint
    cases h
    obtain ⟨b, bs, rfl⟩ := List.exists_cons_of_ne_nil hrest
    rw [List.cons_append, scanFraction]
    rintro _ ⟨⟩
    exact hpoint bs rfl

theorem scanSign_append (hbs : bs ≠ []) (more : List UInt8) :
    scanSign (bs ++ more) = ((scanSign bs).1, (scanSign bs).2 ++ more) := by
  obtain ⟨b, bs, rfl⟩ := List.exists_cons_of_ne_nil hbs
  rw [List.cons_append, scanSign, scanSign]
  by_cases hplus : b = 0x2B
  · rw [if_pos hplus, if_pos hplus]
  · rw [if_neg hplus, if_neg hplus]
    by_cases hminus : b = 0x2D
    · rw [if_pos hminus, if_pos hminus]
    · rw [if_neg hminus, if_neg hminus]
      rfl

theorem scanExponent_append {exponent : Option (Bool × List Nat)}
    (h : scanExponent bs = .ok (exponent, rest)) (hrest : rest ≠ []) (more : List UInt8) :
    scanExponent (bs ++ more) = .ok (exponent, rest ++ more) := by
  cases bs with
  | nil =>
    cases h
    exact absurd rfl hrest
  | cons b bs =>
    rw [List.cons_append, scanExponent]
    rw [scanExponent] at h
    by_cases hb : (decide (b = 0x65) || decide (b = 0x45)) = true
    · rw [if_pos hb] at h ⊢
      obtain ⟨r, hr, h⟩ := bind_eq_ok_iff.1 h
      cases h
      -- digits come after the sign, so the text does not end in front of it
      have hbs : bs ≠ [] := by
        rintro rfl
        cases hr
      simp only [scanSign_append hbs]
      exact bind_eq_ok_iff.2 ⟨_, scanSomeDigits_append hr hrest more, rfl⟩
    · rw [if_neg hb] at h ⊢
      cases h
      rfl

theorem ne_nil_of_length_le {α : Type} {xs ys : List α} (h : xs.length ≤ ys.length)
    (hxs : xs ≠ []) : ys ≠ [] := by
  rintro rfl
  exact hxs (List.length_eq_zero_iff.1 (Nat.le_zero.1 h))

theorem scanNumeral_append {negative : Bool} {n : Numeral}
    (h : scanNumeral negative bs = .ok (n, rest)) (hrest : rest ≠ []) (more : List UInt8) :
    scanNumeral negative (bs ++ more) = .ok (n, rest ++ more) := by
  obtain ⟨w, hw, h⟩ := bind_eq_ok_iff.1 h
  obtain ⟨f, hf, h⟩ := bind_eq_ok_iff.1 h
  obtain ⟨e, he, h⟩ := bind_eq_ok_iff.1 h
  cases h
  -- what is left over at the end was there all the way
  have hfrest : f.2 ≠ [] := ne_nil_of_length_le (scanExponent_length he) hrest
  have hwrest : w.2 ≠ [] := ne_nil_of_length_le (scanFraction_length hf) hfrest
  exact bind_eq_ok_iff.2 ⟨_, scanWhole_append hw hwrest more,
    bind_eq_ok_iff.2 ⟨_, scanFraction_append hf hfrest more,
      bind_eq_ok_iff.2 ⟨_, scanExponent_append he hrest more, rfl⟩⟩⟩

/-! ### Tokens -/

/-- A token that does not break off. -/
def Token.Whole : Token → Prop
  | .word _ fault => fault = none
  | .numeral n => ∃ m, n = .ok m
  | .quoted q => q.fault = none
  | .stray => False
  | _ => True

theorem wordToken_append {w : Word} {es : List UInt8}
    (h : (wordToken w (scanWord es bs)).1.Whole) (more : List UInt8) :
    wordToken w (scanWord es (bs ++ more)) =
      ((wordToken w (scanWord es bs)).1, (wordToken w (scanWord es bs)).2 ++ more) := by
  have hscan : scanWord es bs = (none, (scanWord es bs).2) := Prod.ext h rfl
  rw [scanWord_append hscan more, hscan]
  rfl

theorem numeralToken_append {negative : Bool}
    (h : (numeralToken (scanNumeral negative bs)).1.Whole)
    (hrest : (numeralToken (scanNumeral negative bs)).2 ≠ []) (more : List UInt8) :
    numeralToken (scanNumeral negative (bs ++ more)) =
      ((numeralToken (scanNumeral negative bs)).1,
        (numeralToken (scanNumeral negative bs)).2 ++ more) := by
  cases hscan : scanNumeral negative bs with
  | error f =>
    rw [hscan] at h
    obtain ⟨_, h⟩ := h
    cases h
  | ok r =>
    rw [hscan] at hrest
    rw [scanNumeral_append (n := r.1) hscan hrest more]
    rfl

theorem exists_numeralToken_eq (r : Except NumeralFault (Numeral × List UInt8)) :
    ∃ n, (numeralToken r).1 = .numeral n := by
  cases r with
  | error f => exact ⟨_, rfl⟩
  | ok r => exact ⟨_, rfl⟩

theorem Token.scanLong_append {b : UInt8} (h : (Token.scanLong b bs).1.Whole)
    (hnumeral : (∃ n, (Token.scanLong b bs).1 = .numeral n) → (Token.scanLong b bs).2 ≠ [])
    (more : List UInt8) :
    Token.scanLong b (bs ++ more) = ((Token.scanLong b bs).1, (Token.scanLong b bs).2 ++ more) := by
  unfold Token.scanLong at h hnumeral ⊢
  split_ifs at h hnumeral ⊢
  · rw [Quoted.scan_append h more]
    rfl
  · exact wordToken_append h more
  · exact wordToken_append h more
  · exact wordToken_append h more
  · exact numeralToken_append h (hnumeral (exists_numeralToken_eq _)) more
  · exact numeralToken_append h (hnumeral (exists_numeralToken_eq _)) more
  · exact h.elim

/-- **A token is the same in a longer text**, unless it breaks off, or is a number and ends the text
there. -/
theorem Token.scan_append {b : UInt8} (h : (Token.scan b bs).1.Whole)
    (hnumeral : (∃ n, (Token.scan b bs).1 = .numeral n) → (Token.scan b bs).2 ≠ [])
    (more : List UInt8) :
    Token.scan b (bs ++ more) = ((Token.scan b bs).1, (Token.scan b bs).2 ++ more) := by
  unfold Token.scan at h hnumeral ⊢
  cases hb : punctuation b with
  | some t => rfl
  | none =>
    rw [hb] at h hnumeral
    exact Token.scanLong_append h hnumeral more

/-! ### Nodes that break off -/

/-- A node that cannot be skipped over: its text breaks off, or is no document. -/
def Node.Broken (n : Node) : Prop := n.skip ≠ .ok ()

theorem skipItems_eq_ok_iff {stop : Option ListFault} {ns : List Node} :
    Node.skipItems stop ns = .ok () ↔ (∀ n ∈ ns, n.skip = .ok ()) ∧ stop = none := by
  induction ns with
  | nil =>
    cases stop with
    | none => exact ⟨fun _ => ⟨List.forall_mem_nil _, rfl⟩, fun _ => rfl⟩
    | some f => exact ⟨fun h => (by cases h), fun h => (by cases h.2)⟩
  | cons n ns ih =>
    rw [Node.skipItems, List.forall_mem_cons, and_assoc, ← ih, bind_eq_ok_iff]
    exact ⟨fun ⟨_, hn, hns⟩ => ⟨hn, hns⟩, fun ⟨hn, hns⟩ => ⟨(), hn, hns⟩⟩

theorem skipMembers_eq_ok_iff {stop : Option ObjectFault} {ms : List (Quoted × Node)} :
    Node.skipMembers stop ms = .ok () ↔
      (∀ m ∈ ms, m.1.skipping = .ok () ∧ m.2.skip = .ok ()) ∧ stop = none := by
  induction ms with
  | nil =>
    cases stop with
    | none => exact ⟨fun _ => ⟨List.forall_mem_nil _, rfl⟩, fun _ => rfl⟩
    | some f => exact ⟨fun h => (by cases h), fun h => (by cases h.2)⟩
  | cons m ms ih =>
    simp only [Node.skipMembers, List.forall_mem_cons, and_assoc, ← ih, bind_eq_ok_iff]
    exact ⟨fun ⟨_, hq, _, hn, hms⟩ => ⟨hq, hn, hms⟩, fun ⟨hq, hn, hms⟩ => ⟨(), hq, (), hn, hms⟩⟩

namespace Node.Broken

variable {n : Node}

theorem list_of_stop (ns : List Node) (f : ListFault) : (Node.list ns (some f)).Broken := by
  intro h
  cases (skipItems_eq_ok_iff.1 h).2

theorem object_of_stop (ms : List (Quoted × Node)) (f : ObjectFault) :
    (Node.object ms (some f)).Broken := by
  intro h
  cases (skipMembers_eq_ok_iff.1 h).2

/-- A document is broken where a node of it is. -/
theorem abandon (h : n.Broken) (stack : List Frame) : (abandon n stack).Broken := by
  induction stack generalizing n with
  | nil => exact h
  | cons frame stack ih =>
    cases frame with
    | list done =>
      refine ih fun hskip => h ?_
      exact (skipItems_eq_ok_iff.1 hskip).1 n (List.mem_append_right _ List.mem_cons_self)
    | object done key =>
      refine ih fun hskip => h ?_
      exact ((skipMembers_eq_ok_iff.1 hskip).1 (key, n)
        (List.mem_append_right _ List.mem_cons_self)).2

theorem cutList (done : List Node) (f : ListFault) (stack : List Frame) :
    (cutList done f stack).Broken :=
  (list_of_stop _ f).abandon stack

theorem cutObject (done : List (Quoted × Node)) (f : ObjectFault) (stack : List Frame) :
    (cutObject done f stack).Broken :=
  (object_of_stop _ f).abandon stack

end Node.Broken

/-- Something is due as long as the first value of the text is not known. -/
theorem State.ended_broken (s : State) : s.ended.Broken := by
  have hmissing : Node.missing.Broken := by
    intro h
    cases h
  cases s with
  | value stack => exact hmissing.abandon stack
  | firstItem stack => exact .cutList _ _ stack
  | nextItem done stack => exact .cutList _ _ stack
  | afterItem done stack => exact .cutList _ _ stack
  | firstKey stack => exact .cutObject _ _ stack
  | nextKey done stack => exact .cutObject _ _ stack
  | colon done key stack => exact .cutObject _ _ stack
  | afterMember done stack => exact .cutObject _ _ stack

theorem Quoted.broken {q : Quoted} (h : q.fault ≠ none) : (Node.quoted q).Broken := by
  intro hskip
  rw [Node.skip, Quoted.skipping] at hskip
  cases hfault : q.fault with
  | none => exact h hfault
  | some f =>
    rw [hfault] at hskip
    cases hskip

/-- A token that breaks off is a value that breaks off. -/
theorem State.broken_of_begin {t : Token} (ht : ¬ t.Whole) (stack : List Frame) :
    ∃ n, State.begin stack t = .done n ∧ n.Broken := by
  match t with
  | .openList | .closeList | .openObject | .closeObject | .comma | .colon =>
    exact absurd trivial ht
  | .word _ none => exact absurd rfl ht
  | .numeral (.ok n) => exact absurd ⟨n, rfl⟩ ht
  | .word w (some f) => exact ⟨_, rfl, Node.Broken.abandon (fun h => by cases h) stack⟩
  | .numeral (.error f) => exact ⟨_, rfl, Node.Broken.abandon (fun h => by cases h) stack⟩
  | .stray => exact ⟨_, rfl, Node.Broken.abandon (fun h => by cases h) stack⟩
  | .quoted q =>
    have hfault : ¬ q.fault.isNone = true := fun h => ht (Option.isNone_iff_eq_none.1 h)
    exact ⟨_, if_neg hfault, (Quoted.broken ht).abandon stack⟩

/-- A name that breaks off is one of an object that breaks off. -/
theorem State.broken_of_name {q : Quoted} (hq : q.fault ≠ none) (done : List (Quoted × Node))
    (stack : List Frame) : ∃ n, State.name done stack q = .done n ∧ n.Broken := by
  have hfault : ¬ q.fault.isNone = true := fun h => hq (Option.isNone_iff_eq_none.1 h)
  exact ⟨_, if_neg hfault, .cutObject _ _ stack⟩

/-- **A token that breaks off is where reading ends**, with a node that is broken. -/
theorem State.broken_of_step {t : Token} (ht : ¬ t.Whole) (s : State) :
    ∃ n, s.step t = .done n ∧ n.Broken := by
  have hne : ∀ {u : Token}, u.Whole → t ≠ u := by
    rintro u hu rfl
    exact ht hu
  cases s with
  | value stack => exact broken_of_begin ht stack
  | firstItem stack =>
    rw [due_firstItem stack t (hne trivial)]
    exact broken_of_begin ht _
  | nextItem done stack =>
    rw [due_nextItem done stack t (hne trivial)]
    exact broken_of_begin ht _
  | afterItem done stack =>
    refine ⟨_, ?_, .cutList done .noComma stack⟩
    rw [State.step]
    · exact hne trivial
    · exact hne trivial
  | firstKey stack =>
    cases t with
    | quoted q => exact broken_of_name ht _ stack
    | closeObject => exact absurd trivial ht
    | _ => exact ⟨_, rfl, .cutObject _ _ stack⟩
  | nextKey done stack =>
    cases t with
    | quoted q => exact broken_of_name ht _ stack
    | closeObject => exact absurd trivial ht
    | _ => exact ⟨_, rfl, .cutObject _ _ stack⟩
  | colon done key stack =>
    refine ⟨_, ?_, .cutObject done (.colon key false) stack⟩
    rw [State.step]
    exact hne trivial
  | afterMember done stack =>
    refine ⟨_, ?_, .cutObject done .noComma stack⟩
    rw [State.step]
    · exact hne trivial
    · exact hne trivial

/-! ### Reading on -/

/-- A number that ends a text is the whole document, or something is still due after it. -/
theorem State.run_last_numeral (s : State) (n : Numeral) :
    run s [.numeral (.ok n)] = .numeral (.ok n) ∨ (run s [.numeral (.ok n)]).Broken := by
  have hbegin : ∀ stack, (State.begin stack (.numeral (.ok n))).run [] = .numeral (.ok n) ∨
      ((State.begin stack (.numeral (.ok n))).run []).Broken := by
    intro stack
    match stack with
    | [] => exact .inl rfl
    | .list done :: stack =>
      exact .inr (State.ended_broken (.afterItem (.numeral (.ok n) :: done) stack))
    | .object done key :: stack =>
      exact .inr (State.ended_broken (.afterMember ((key, .numeral (.ok n)) :: done) stack))
  rw [run_cons]
  cases s with
  | value stack => exact hbegin stack
  | firstItem stack => exact hbegin (.list [] :: stack)
  | nextItem done stack => exact hbegin (.list done :: stack)
  | afterItem done stack => exact .inr (.cutList _ _ stack)
  | firstKey stack => exact .inr (.cutObject _ _ stack)
  | nextKey done stack => exact .inr (.cutObject _ _ stack)
  | colon done key stack => exact .inr (.cutObject _ _ stack)
  | afterMember done stack => exact .inr (.cutObject _ _ stack)

/-- **What comes after a complete value is not looked at**, unless the value is a number. -/
theorem run_append {s : State} (h : (run s (lex bs)).skip = .ok ())
    (hnumeral : ∀ n, run s (lex bs) ≠ .numeral n) (more : List UInt8) :
    run s (lex (bs ++ more)) = run s (lex bs) := by
  induction bs using lex.induct generalizing s with
  | case1 =>
    rw [lex] at h
    exact absurd h (State.ended_broken s)
  | case2 b bs hb ih =>
    rw [lex_blank hb] at h hnumeral ⊢
    rw [List.cons_append, lex_blank hb]
    exact ih h hnumeral
  | case3 b bs hb r =>
    rename_i ih
    have hlex : lex (b :: bs) = r.1 :: lex r.2 := lex_cons (Bool.eq_false_iff.2 hb) bs
    rw [hlex] at h hnumeral ⊢
    have hwhole : r.1.Whole := by
      by_contra hbroken
      obtain ⟨n, hn, hnbroken⟩ := State.broken_of_step hbroken s
      rw [run_cons, hn] at h
      exact hnbroken h
    have hnext : (∃ n, r.1 = .numeral n) → r.2 ≠ [] := by
      rintro ⟨n, hn⟩ hend
      rw [hn] at hwhole
      obtain ⟨n, rfl⟩ := hwhole
      rw [hn, hend, lex] at h hnumeral
      rcases State.run_last_numeral s n with hlast | hbroken
      · exact hnumeral _ hlast
      · exact hbroken h
    have hlonger : lex (b :: bs ++ more) = r.1 :: lex (r.2 ++ more) := by
      rw [List.cons_append, lex_cons (Bool.eq_false_iff.2 hb), Token.scan_append hwhole hnext]
    rw [hlonger, run_cons, run_cons]
    rw [run_cons] at h hnumeral
    -- the token is read alike, and after it the rest of the text
    cases hstep : s.step r.1 with
    | done n => rfl
    | more s' =>
      rw [hstep] at h hnumeral
      exact ih h hnumeral

end IdlLink.Json
