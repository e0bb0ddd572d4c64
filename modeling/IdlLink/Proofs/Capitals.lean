/-
Names in capitals stay as they are.

A name is put in capitals by raising the first character of each piece between its underscores.  One
character may be raised to several, so a raised name could start with a character that has a capital
of its own.  The character data has no such case:

* `upper_apart` — what stands in a capital form is mapped no further, and is no underscore;
* `upperChar_of_mem_upperChar` — so a capital is its own capital;
* `settled_camelizeChars` — a name in capitals has no underscore, and its first character is raised;
* `camelize_append` — names joined with an underscore are put in capitals one by one;
* `camelize_settles` — so a name in capitals can be raised again without a change to its spelling,
  as the name of a file's constants is.
-/
import IdlLink.Proofs.Colliding

namespace IdlLink

open Workspace

namespace Text

/-! ### Lists of code points as numbers -/

/-- The number whose binary digits are ones at the places that a list names. -/
def bitsAt : List Nat → Nat
  | [] => 0
  | n :: ns => 1 <<< n ||| bitsAt ns

theorem testBit_bitsAt {ns : List Nat} {n : Nat} : (bitsAt ns).testBit n = true ↔ n ∈ ns := by
  induction ns with
  | nil => simp [bitsAt]
  | cons m ns ih =>
    rw [bitsAt, Nat.one_shiftLeft, Nat.testBit_or, Bool.or_eq_true, ih, Nat.testBit_two_pow,
      decide_eq_true_eq, List.mem_cons, eq_comm]

/-- Lists have no member in common when their numbers have no digit in common.  This compares two
long lists at once instead of pair by pair. -/
theorem disjoint_of_bitsAt {ms ns : List Nat} (h : bitsAt ms &&& bitsAt ns = 0) :
    ms.Disjoint ns := by
  intro n hms hns
  have hbit : (bitsAt ms &&& bitsAt ns).testBit n = true := by
    rw [Nat.testBit_and, testBit_bitsAt.2 hms, testBit_bitsAt.2 hns, Bool.and_self]
  rw [h, Nat.zero_testBit] at hbit
  exact Bool.false_ne_true hbit

/-! ### What a table maps, and to what -/

/-- The code points that a run covers. -/
def CaseRun.codes (r : CaseRun) : List Nat :=
  (List.range ((r.last - r.first) / r.step + 1)).map fun k => r.first + r.step * k

theorem CaseRun.mem_codes {r : CaseRun} {code : Nat} (h : r.covers code = true) :
    code ∈ r.codes := by
  simp only [covers, Bool.and_eq_true, decide_eq_true_eq, beq_iff_eq] at h
  obtain ⟨⟨hfirst, hlast⟩, hstep⟩ := h
  refine List.mem_map.2 ⟨(code - r.first) / r.step, List.mem_range.2 ?_, ?_⟩
  · exact Nat.lt_succ_of_le (Nat.div_le_div_right (Nat.sub_le_sub_right hlast r.first))
  · rw [Nat.mul_div_cancel' (Nat.dvd_of_mod_eq_zero hstep), Nat.add_sub_cancel' hfirst]

section

variable (runs : List CaseRun) (expansions : List (Nat × List Nat))

/-- The code points that a table maps. -/
def mappedCodes : List Nat :=
  runs.flatMap CaseRun.codes ++ expansions.map Prod.fst

/-- The characters in the mapped forms of a table. -/
def images : List Char :=
  runs.flatMap (fun r => r.codes.map fun code => Char.ofNat (r.image code)) ++
    expansions.flatMap fun e => e.2.map Char.ofNat

variable {runs expansions}

theorem mapWith_of_not_mem {c : Char} (h : c.toNat ∉ mappedCodes runs expansions) :
    mapWith runs expansions c = [c] := by
  rw [mappedCodes, List.mem_append, not_or] at h
  have hexpanded : (expansions.find? fun e => e.1 == c.toNat) = none := by
    refine List.find?_eq_none.2 fun e he heq => h.2 ?_
    exact List.mem_map.2 ⟨e, he, eq_of_beq heq⟩
  have hrun : (runs.find? fun r => r.covers c.toNat) = none := by
    refine List.find?_eq_none.2 fun r hr hcovers => h.1 ?_
    exact List.mem_flatMap.2 ⟨r, hr, CaseRun.mem_codes hcovers⟩
  simp only [mapWith, hexpanded, hrun]

/-- A character is left alone, or its mapped form is one that the table holds. -/
theorem mapWith_cases (c : Char) :
    mapWith runs expansions c = [c] ∨ mapWith runs expansions c ⊆ images runs expansions := by
  unfold mapWith
  split
  case h_1 e he =>
    refine .inr fun d hd => List.mem_append_right _ ?_
    exact List.mem_flatMap.2 ⟨e, List.mem_of_find?_eq_some he, hd⟩
  case h_2 =>
    split
    case h_1 r hr =>
      refine .inr fun d hd => List.mem_append_left _ ?_
      rw [List.mem_singleton.1 hd]
      have hcovers := List.find?_some hr
      have hcode := CaseRun.mem_codes hcovers
      exact List.mem_flatMap.2 ⟨r, List.mem_of_find?_eq_some hr, List.mem_map_of_mem hcode⟩
    case h_2 => exact .inl rfl

theorem mapWith_ne_nil (h : ∀ e ∈ expansions, e.2 ≠ []) (c : Char) :
    mapWith runs expansions c ≠ [] := by
  unfold mapWith
  split
  case h_1 e he => simpa using h e (List.mem_of_find?_eq_some he)
  case h_2 => split <;> exact List.cons_ne_nil _ _

end

/-! ### Capitals -/

/-- No character of a capital form has a capital form of its own, and none is an underscore. -/
theorem upper_apart : ('_'.toNat :: mappedCodes upperRuns upperExpansions).Disjoint
    ((images upperRuns upperExpansions).map Char.toNat) :=
  disjoint_of_bitsAt (by decide +kernel)

/-- A capital is its own capital. -/
theorem upperChar_of_mem_upperChar {c d : Char} (h : d ∈ upperChar c) : upperChar d = [d] := by
  rcases mapWith_cases c with hself | himages
  · have hd : d = c := by
      rw [upperChar, hself] at h
      exact List.mem_singleton.1 h
    rw [hd]
    exact hself
  · refine mapWith_of_not_mem fun hmapped => upper_apart (List.mem_cons_of_mem _ hmapped) ?_
    exact List.mem_map_of_mem (himages h)

theorem eq_underscore_of_mem_upperChar {c : Char} (h : '_' ∈ upperChar c) : c = '_' := by
  rcases mapWith_cases c with hself | himages
  · rw [upperChar, hself] at h
    exact (List.mem_singleton.1 h).symm
  · exact (upper_apart List.mem_cons_self (List.mem_map_of_mem (himages h))).elim

theorem upperChar_ne_nil (c : Char) : upperChar c ≠ [] :=
  mapWith_ne_nil (by decide +kernel) c

/-! ### Names in capitals -/

/-- A text without underscores whose first character is raised. -/
structure Settled (cs : List Char) : Prop where
  raised : initialCaseChars cs = cs
  plain : '_' ∉ cs

theorem initialCaseChars_append {cs : List Char} (h : cs ≠ []) (rest : List Char) :
    initialCaseChars (cs ++ rest) = initialCaseChars cs ++ rest := by
  cases cs with
  | nil => exact absurd rfl h
  | cons c cs => rw [List.cons_append, initialCaseChars, initialCaseChars, List.append_assoc]

theorem Settled.append {cs ds : List Char} (hcs : Settled cs) (hds : Settled ds) :
    Settled (cs ++ ds) := by
  by_cases hnil : cs = []
  · rwa [hnil, List.nil_append]
  · refine ⟨?_, fun h => (List.mem_append.1 h).elim hcs.plain hds.plain⟩
    rw [initialCaseChars_append hnil, hcs.raised]

theorem settled_flatMap {f : List Char → List Char} {pieces : List (List Char)}
    (h : ∀ piece ∈ pieces, Settled (f piece)) : Settled (pieces.flatMap f) := by
  induction pieces with
  | nil => exact ⟨rfl, List.not_mem_nil⟩
  | cons piece pieces ih =>
    obtain ⟨hpiece, hpieces⟩ := List.forall_mem_cons.1 h
    rw [List.flatMap_cons]
    exact hpiece.append (ih hpieces)

/-- A text that is raised once is raised for good. -/
theorem settled_initialCaseChars {cs : List Char} (h : '_' ∉ cs) :
    Settled (initialCaseChars cs) := by
  cases cs with
  | nil => exact ⟨rfl, h⟩
  | cons c rest =>
    obtain ⟨hc, hrest⟩ := not_or.1 fun hmem => h (List.mem_cons.2 hmem)
    constructor
    · -- the text now starts with a character of a capital form, which is its own capital
      obtain ⟨d, ds, hform⟩ := List.exists_cons_of_ne_nil (upperChar_ne_nil c)
      have hd : upperChar d = [d] := upperChar_of_mem_upperChar (hform ▸ List.mem_cons_self)
      rw [initialCaseChars, hform, List.cons_append, initialCaseChars, hd, List.singleton_append]
    · intro hmem
      rcases List.mem_append.1 hmem with hmem | hmem
      · exact hc (eq_underscore_of_mem_upperChar hmem).symm
      · exact hrest hmem

theorem settled_camelizeChars (cs : List Char) : Settled (camelizeChars cs) :=
  settled_flatMap fun _ hpiece => settled_initialCaseChars (not_mem_of_mem_splitOn hpiece)

theorem Settled.camelizeChars_eq {cs : List Char} (h : Settled cs) : camelizeChars cs = cs := by
  rw [camelizeChars, List.splitOn_eq_singleton h.plain, List.flatMap_singleton, h.raised]

theorem camelizeChars_append (cs ds : List Char) :
    camelizeChars (cs ++ '_' :: ds) = camelizeChars cs ++ camelizeChars ds := by
  rw [camelizeChars, List.splitOn_append_cons_self, List.flatMap_append]
  rfl

/-- Names joined with an underscore are put in capitals one by one. -/
theorem camelize_append (s t : String) :
    camelize (s ++ "_" ++ t) = camelize s ++ camelize t := by
  have hjoin : (s ++ "_" ++ t).toList = s.toList ++ '_' :: t.toList := by
    rw [String.toList_append, String.toList_append, List.append_assoc]
    rfl
  rw [camelize, hjoin, camelizeChars_append, String.ofList_append]
  rfl

theorem toList_camelize (s : String) : (camelize s).toList = camelizeChars s.toList :=
  String.toList_ofList

theorem initialCase_camelize (s : String) : initialCase (camelize s) = camelize s := by
  rw [initialCase, toList_camelize, (settled_camelizeChars s.toList).raised, camelize]

theorem camelize_camelize (s : String) : camelize (camelize s) = camelize s := by
  rw [camelize, toList_camelize, (settled_camelizeChars s.toList).camelizeChars_eq, camelize]

theorem initialCase_append {s : String} (h : s.toList ≠ []) (t : String) :
    initialCase (s ++ t) = initialCase s ++ t := by
  rw [initialCase, String.toList_append, initialCaseChars_append h, String.ofList_append,
    String.ofList_toList, initialCase]

end Text

/-! ### The place of a file's constants -/

theorem qualify_qualify (first rest name : String) :
    qualify (qualify first rest) name = qualify first (qualify rest name) := by
  simp only [qualify, String.append_assoc]

/-- Raising a qualified name leaves what stands behind its qualifier alone. -/
theorem initialCase_qualify (module name : String) :
    Text.initialCase (qualify module name) = Text.initialCase (module ++ ".") ++ name := by
  refine Text.initialCase_append (fun h => ?_) name
  rw [String.toList_append] at h
  exact absurd (List.append_eq_nil_iff.1 h).2 (by decide)

/-- The wanted name is kept when no type has it in another spelling. -/
theorem getD_collidingName {schema : Schema} {wanted : String}
    (h : ∀ n ∈ schema.typeNames, Text.lower n = Text.lower wanted → n = wanted) :
    (schema.collidingName wanted).getD wanted = wanted := by
  cases hfound : schema.collidingName wanted with
  | none => rfl
  | some n =>
    have hlower : Text.lower n = Text.lower wanted := by simpa using List.find?_some hfound
    exact h n (List.mem_of_find?_eq_some hfound) hlower

/-- **Capitals are reached in one step.**  Names joined with an underscore are put in capitals one
by one.  A name in capitals has no underscore and stays as it is, whether it is raised or put in
capitals again.  So the constants of a file, unless a type has the name in another spelling, go to a
place in the very spelling of the file's name in capitals.  Where that name has a point, the cut
falls at the first one, and what stands behind it goes in front of the same spelling. -/
theorem camelize_settles (s t : String) :
    Text.camelize (s ++ "_" ++ t) = Text.camelize s ++ Text.camelize t ∧
    '_' ∉ (Text.camelize s).toList ∧
    Text.initialCase (Text.camelize s) = Text.camelize s ∧
    Text.camelize (Text.camelize s) = Text.camelize s ∧
    ∀ (w : Workspace) (schema : Schema), w.schemas.get? s = some schema →
      (∀ n ∈ schema.typeNames, Text.lower n = Text.lower (Text.camelize s) → n = Text.camelize s) →
      w.constantsName s = .ok (qualify s (Text.camelize s)) ∧
        ('.' ∉ s.toList →
          w.constantsModule s = .ok ⟨w.namespaceSegments s ++ [Text.camelize s]⟩) ∧
        ∀ first rest, s = qualify first rest → '.' ∉ first.toList →
          w.constantsModule s = .ok
            ⟨w.namespaceSegments first ++ [Text.initialCase (rest ++ ".") ++ Text.camelize s]⟩ := by
  refine ⟨Text.camelize_append s t, ?_, Text.initialCase_camelize s, Text.camelize_camelize s,
    fun w schema hs hspelling => ?_⟩
  · rw [Text.toList_camelize]
    exact (Text.settled_camelizeChars s.toList).plain
  · have hname : w.constantsName s = .ok (qualify s (Text.camelize s)) := by
      rw [constantsName_eq hs, getD_collidingName hspelling]
    have hmodule := constantsModule_of_name hname
    refine ⟨hname, fun hpoint => ?_, fun first rest hcut hfirst => ?_⟩
    · rw [hmodule, destination_qualify hpoint, Text.initialCase_camelize]
    · have hqualified : qualify s (Text.camelize s) =
          qualify first (qualify rest (Text.camelize s)) := by
        rw [← qualify_qualify, ← hcut]
      rw [hmodule, hqualified, destination_qualify hfirst, initialCase_qualify]

/-- A type with the name of the file in capitals, and one that differs from it by a ligature too. -/
def ligatureSchema : Schema :=
  { Schema.empty with
    namespaces := .ofList [("rs", ⟨"rs", "acme"⟩)]
    enums := .ofList [("FIeldǄep", ⟨"FIeldǄep", []⟩)]
    structs := .ofList [("ﬁeldǆep", ⟨"ﬁeldǆep", .struct, []⟩)] }

def ligatures (file : SourcePath) : Workspace :=
  ((new .standard).register file ligatureSchema).refresh

/-- A ligature is raised to two letters and a digraph to one, and neither is raised again.  Under a
name with a point, what stands behind the point goes in front of the same spelling. -/
theorem ligatures_settled :
    let w := ligatures ⟨"ﬁeld_ǆep.thrift"⟩
    let pointed := ligatures ⟨"ﬁeld.ǆep.thrift"⟩
    Text.camelize "ﬁeld_ǆep__ß_" = "FIeldǄep" ++ "SS" ∧
      Text.initialCase "FIeldǄep" = "FIeldǄep" ∧ Text.camelize "FIeldǄep" = "FIeldǄep" ∧
      w.schemas.get? "ﬁeld_ǆep" = some ligatureSchema ∧
      (∀ n ∈ ligatureSchema.typeNames, Text.lower n = Text.lower "FIeldǄep" → n = "FIeldǄep") ∧
      '.' ∉ "ﬁeld_ǆep".toList ∧
      w.constantsModule "ﬁeld_ǆep" = .ok ⟨["Acme", "FIeldǄep"]⟩ ∧
      pointed.schemas.get? "ﬁeld.ǆep" = some ligatureSchema ∧
      (∀ n ∈ ligatureSchema.typeNames, Text.lower n = Text.lower "FIeld.ǆep" → n = "FIeld.ǆep") ∧
      "ﬁeld.ǆep" = qualify "ﬁeld" "ǆep" ∧ '.' ∉ "ﬁeld".toList ∧
      pointed.constantsModule "ﬁeld.ǆep" = .ok ⟨["Ǆep.FIeld.ǆep"]⟩ := by
  have hname : Text.camelize "ﬁeld_ǆep" = "FIeldǄep" := by decide +kernel
  have hsharp : Text.camelize "_ß_" = "SS" := by decide +kernel
  have hpointedName : Text.camelize "ﬁeld.ǆep" = "FIeld.ǆep" := by decide +kernel
  have hspelling : ∀ n ∈ ligatureSchema.typeNames,
      Text.lower n = Text.lower "FIeldǄep" → n = "FIeldǄep" := by decide +kernel
  have hpointedSpelling : ∀ n ∈ ligatureSchema.typeNames,
      Text.lower n = Text.lower "FIeld.ǆep" → n = "FIeld.ǆep" := by decide +kernel
  obtain ⟨hjoin, _, hraised, htwice, hplace⟩ := camelize_settles "ﬁeld_ǆep" "_ß_"
  obtain ⟨_, _, _, _, hpointedPlace⟩ := camelize_settles "ﬁeld.ǆep" "_ß_"
  rw [hname] at hraised htwice hplace
  rw [hname, hsharp] at hjoin
  rw [hpointedName] at hpointedPlace
  obtain ⟨_, hmodule, _⟩ := hplace (ligatures ⟨"ﬁeld_ǆep.thrift"⟩) ligatureSchema rfl hspelling
  obtain ⟨_, _, hpointed⟩ :=
    hpointedPlace (ligatures ⟨"ﬁeld.ǆep.thrift"⟩) ligatureSchema rfl hpointedSpelling
  refine ⟨hjoin, hraised, htwice, rfl, hspelling, by decide, ?_, rfl, hpointedSpelling, rfl,
    by decide, ?_⟩
  · rw [hmodule (by decide)]
    decide +kernel
  · rw [hpointed "ﬁeld" "ǆep" rfl (by decide)]
    decide +kernel

end IdlLink
