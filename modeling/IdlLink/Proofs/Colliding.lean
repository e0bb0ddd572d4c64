/-
The place of a file's constants beside the places of its types.

The constants of a file go to a module of their own, which is named after the file unless a type of
the file has that name in some spelling.  The names are compared before their first character is
raised, the places after it.  For names in ASCII the difference does not matter, since raising a
character does not change its lower case:

* `Text.lower_initialCase` — raising the first character keeps the lower case of a name;
* `constantsName_of_first` — the first type that has the name of the file up to case is used;
* `constantsModule_apart_or_shared` — so the constants share the place of a type, or their place
  differs from that of every type by more than case.
-/
import IdlLink.Proofs.Destinations

namespace IdlLink

open Workspace

/-! ### Case of names in ASCII -/

namespace Text

/-- Every character of a text is in ASCII. -/
def IsAscii (s : String) : Prop := ∀ c ∈ s.toList, c.toNat < 128

instance (s : String) : Decidable (IsAscii s) :=
  List.decidableBAll (fun c : Char => c.toNat < 128) s.toList

/-- The mapping that a single run describes. -/
def CaseRun.map (r : CaseRun) (c : Char) : List Char :=
  if r.covers c.toNat then [Char.ofNat (r.image c.toNat)] else [c]

/-- In a table whose other runs start beyond ASCII, only the first run speaks about ASCII. -/
theorem mapWith_of_ascii {run : CaseRun} {runs : List CaseRun} {expansions : List (Nat × List Nat)}
    (hruns : ∀ r ∈ runs, 128 ≤ r.first) (hexpansions : ∀ e ∈ expansions, 128 ≤ e.1) {c : Char}
    (hc : c.toNat < 128) : mapWith (run :: runs) expansions c = run.map c := by
  have hexpanded : (expansions.find? fun e => e.1 == c.toNat) = none := by
    refine List.find?_eq_none.2 fun e he => ?_
    have hfirst := hexpansions e he
    simp only [beq_iff_eq]
    omega
  have hrun : (runs.find? fun r => r.covers c.toNat) = none := by
    refine List.find?_eq_none.2 fun r hr => ?_
    have hfirst := hruns r hr
    simp only [CaseRun.covers, Bool.and_eq_true, decide_eq_true_eq]
    omega
  by_cases hcovers : run.covers c.toNat = true
  · simp only [mapWith, hexpanded, List.find?_cons_of_pos, hcovers, CaseRun.map, if_true]
  · simp only [mapWith, hexpanded, List.find?_cons, hcovers, hrun, CaseRun.map, if_neg,
      Bool.false_eq_true, not_false_eq_true]

/-- The small letters in ASCII with their capitals. -/
def raisedLetters : CaseRun := ⟨0x61, 0x7a, 1, -32⟩

/-- The capital letters in ASCII with their small forms. -/
def loweredLetters : CaseRun := ⟨0x41, 0x5a, 1, 32⟩

theorem upperChar_of_ascii {c : Char} (hc : c.toNat < 128) : upperChar c = raisedLetters.map c := by
  have hruns : ∀ r ∈ upperRuns.tail, 128 ≤ r.first := by decide +kernel
  exact mapWith_of_ascii hruns (by decide +kernel) hc

theorem lowerChar_of_ascii {c : Char} (hc : c.toNat < 128) :
    lowerChar c = loweredLetters.map c := by
  have hruns : ∀ r ∈ lowerRuns.tail, 128 ≤ r.first := by decide +kernel
  exact mapWith_of_ascii hruns (by decide +kernel) hc

theorem map_letters : ∀ n < 128, (Char.ofNat n).toUpper.toNat < 128 ∧
    raisedLetters.map (Char.ofNat n) = [(Char.ofNat n).toUpper] ∧
      loweredLetters.map (Char.ofNat n).toUpper = loweredLetters.map (Char.ofNat n) := by
  decide +kernel

/-- The raised form of a character in ASCII is one of them, with the same lower case. -/
theorem toUpper_of_ascii {c : Char} (hc : c.toNat < 128) :
    c.toUpper.toNat < 128 ∧ upperChar c = [c.toUpper] ∧ lowerChar c.toUpper = lowerChar c := by
  obtain ⟨hraised, hupper, hlower⟩ := map_letters c.toNat hc
  rw [Char.ofNat_toNat] at hraised hupper hlower
  refine ⟨hraised, ?_, ?_⟩
  · rw [upperChar_of_ascii hc, hupper]
  · rw [lowerChar_of_ascii hraised, hlower, lowerChar_of_ascii hc]

/-- Without a sigma, no character asks what stands around it. -/
theorem lowerFrom_of_ascii {cs : List Char} (h : ∀ c ∈ cs, c.toNat < 128) (before : List Char) :
    lowerFrom before cs = cs.flatMap lowerChar := by
  induction cs generalizing before with
  | nil => rfl
  | cons c rest ih =>
    obtain ⟨hc, hrest⟩ := List.forall_mem_cons.1 h
    have hsigma : c ≠ capitalSigma := by
      rintro rfl
      exact absurd hc (by decide)
    rw [lowerFrom, if_neg hsigma, ih hrest, List.flatMap_cons]

theorem initialCaseChars_of_ascii {cs : List Char} (h : ∀ c ∈ cs, c.toNat < 128) :
    (∀ c ∈ initialCaseChars cs, c.toNat < 128) ∧
      (initialCaseChars cs).flatMap lowerChar = cs.flatMap lowerChar := by
  cases cs with
  | nil => exact ⟨h, rfl⟩
  | cons c rest =>
    obtain ⟨hc, hrest⟩ := List.forall_mem_cons.1 h
    obtain ⟨hraised, hupper, hlower⟩ := toUpper_of_ascii hc
    rw [initialCaseChars, hupper, List.singleton_append, List.flatMap_cons, List.flatMap_cons,
      hlower]
    exact ⟨List.forall_mem_cons.2 ⟨hraised, hrest⟩, rfl⟩

/-- Raising the first character of a name does not change its lower case. -/
theorem lower_initialCase {s : String} (h : IsAscii s) : lower (initialCase s) = lower s := by
  obtain ⟨hraised, hlower⟩ := initialCaseChars_of_ascii h
  rw [lower, lower, initialCase, String.toList_ofList, lowerFrom_of_ascii hraised,
    lowerFrom_of_ascii h, hlower]

theorem isAscii_camelize {s : String} (h : IsAscii s) : IsAscii (camelize s) := by
  intro c hc
  rw [camelize, String.toList_ofList, camelizeChars, List.mem_flatMap] at hc
  obtain ⟨piece, hpiece, hc⟩ := hc
  have hascii : ∀ d ∈ piece, d.toNat < 128 := fun d hd =>
    h d (mem_and_ne_of_mem_splitOn hpiece hd).1
  exact (initialCaseChars_of_ascii hascii).1 c hc

end Text

/-! ### Places up to case -/

/-- Two destinations are told apart by the case of letters at most. -/
def Destination.SameUpToCase (d d' : Destination) : Prop :=
  d.segments.map Text.lower = d'.segments.map Text.lower

variable {w : Workspace} {m : String} {schema : Schema}

/-- Names in ASCII go to places of one namespace that are the same up to case only when the names
are. -/
theorem lower_eq_of_sameUpToCase {path : List String} {n n' : String} (hn : Text.IsAscii n)
    (hn' : Text.IsAscii n')
    (h : Destination.SameUpToCase ⟨path ++ [Text.initialCase n]⟩ ⟨path ++ [Text.initialCase n']⟩) :
    Text.lower n = Text.lower n' := by
  rw [Destination.SameUpToCase, List.map_append, List.map_append, List.append_cancel_left_eq,
    List.map_singleton, List.map_singleton, List.singleton_inj] at h
  rwa [Text.lower_initialCase hn, Text.lower_initialCase hn'] at h

/-! ### The name of the constants -/

theorem collidingName_of_first {before after : List String} {wanted n : String}
    (htypes : schema.typeNames = before ++ n :: after) (hn : Text.lower n = Text.lower wanted)
    (hbefore : ∀ x ∈ before, Text.lower x ≠ Text.lower wanted) :
    schema.collidingName wanted = some n := by
  rw [Schema.collidingName, htypes, List.find?_append, List.find?_eq_none.2, Option.none_or,
    List.find?_cons_of_pos]
  · simpa using hn
  · intro x hx
    simpa using hbefore x hx

theorem constantsName_eq (hs : w.schemas.get? m = some schema) : w.constantsName m =
    .ok (qualify m ((schema.collidingName (Text.camelize m)).getD (Text.camelize m))) := by
  rw [constantsName, hs]

/-- The first type that has the name of the file up to case gives the constants their name. -/
theorem constantsName_of_colliding (hs : w.schemas.get? m = some schema) {n : String}
    (h : schema.collidingName (Text.camelize m) = some n) :
    w.constantsName m = .ok (qualify m n) := by
  rw [constantsName_eq hs, h, Option.getD_some]

theorem constantsModule_of_name {key : String} (h : w.constantsName m = .ok key) :
    w.constantsModule m = w.destination key := by
  rw [constantsModule, h]
  rfl

/-- **The constants of a file never nearly repeat a type.**  In a module without points in its name,
where that name and those of the types are in ASCII, the constants have a place.  It is the place of
a type of the file, or differs from all of these by more than case.  Of several types that have the
name of the file up to case, the first among enums, exceptions, structs, services and unions is
used. -/
theorem constantsModule_apart_or_shared (hs : w.schemas.get? m = some schema)
    (hm : '.' ∉ m.toList) (hascii : Text.IsAscii m)
    (htypes : ∀ n ∈ schema.typeNames, Text.IsAscii n) :
    (∃ p, w.constantsModule m = .ok p ∧
      ((∃ n ∈ schema.typeNames, w.destination (qualify m n) = .ok p) ∨
        ∀ n ∈ schema.typeNames, ∃ d, w.destination (qualify m n) = .ok d ∧ ¬ d.SameUpToCase p)) ∧
    ∀ before n after,
      schema.enums.keys ++ schema.exceptions.keys ++ schema.structs.keys ++ schema.services.keys ++
        schema.unions.keys = before ++ n :: after →
      Text.lower n = Text.lower (Text.camelize m) →
      (∀ x ∈ before, Text.lower x ≠ Text.lower (Text.camelize m)) →
      w.constantsName m = .ok (qualify m n) ∧
        w.constantsModule m = w.destination (qualify m n) := by
  constructor
  · cases hcolliding : schema.collidingName (Text.camelize m) with
    | some n =>
      have hplace := destination_qualify hm w n
      refine ⟨_, ?_, .inl ⟨n, List.mem_of_find?_eq_some hcolliding, hplace⟩⟩
      rw [constantsModule_of_name (constantsName_of_colliding hs hcolliding), hplace]
    | none =>
      refine ⟨⟨w.namespaceSegments m ++ [Text.initialCase (Text.camelize m)]⟩, ?_,
        .inr fun n hn => ⟨_, destination_qualify hm w n, fun hsame => ?_⟩⟩
      · rw [constantsModule_of_name (constantsName_eq hs), hcolliding, Option.getD_none,
          destination_qualify hm]
      · -- a type at the same place up to case would have been found
        have hlower := lower_eq_of_sameUpToCase (htypes n hn) (Text.isAscii_camelize hascii) hsame
        exact List.find?_eq_none.1 hcolliding n hn (decide_eq_true hlower)
  · intro before n after hnames hn hbefore
    have hname := constantsName_of_colliding hs (collidingName_of_first hnames hn hbefore)
    exact ⟨hname, constantsModule_of_name hname⟩

/-- Types that all have the name of their file, and one that has not. -/
def shoutingSchema : Schema :=
  { Schema.empty with
    namespaces := .ofList [("rs", ⟨"rs", "acme"⟩)]
    enums := .ofList [("Level", ⟨"Level", []⟩)]
    exceptions := .ofList [("MYSVC", ⟨"MYSVC", .exception, []⟩)]
    structs := .ofList [("mySvc", ⟨"mySvc", .struct, []⟩)]
    services := .ofList [("MySvc", ⟨"MySvc", none, ∅⟩)] }

def shouting : Workspace := ((new .standard).register ⟨"my_svc.thrift"⟩ shoutingSchema).refresh

/-- The exception comes first among the three types of that name, and the constants share its
place. -/
theorem shouting_shares_exception :
    shouting.schemas.get? "my_svc" = some shoutingSchema ∧ '.' ∉ "my_svc".toList ∧
      Text.IsAscii "my_svc" ∧ (∀ n ∈ shoutingSchema.typeNames, Text.IsAscii n) ∧
      (∃ p, shouting.constantsModule "my_svc" = .ok p ∧
        ((∃ n ∈ shoutingSchema.typeNames, shouting.destination (qualify "my_svc" n) = .ok p) ∨
          ∀ n ∈ shoutingSchema.typeNames, ∃ d,
            shouting.destination (qualify "my_svc" n) = .ok d ∧ ¬ d.SameUpToCase p)) ∧
      shouting.constantsName "my_svc" = .ok "my_svc.MYSVC" ∧
      shouting.constantsModule "my_svc" = .ok ⟨["Acme", "MYSVC"]⟩ := by
  obtain ⟨hplace, hfirst⟩ := constantsModule_apart_or_shared (w := shouting) (m := "my_svc") rfl
    (by decide) (by decide) (by decide)
  obtain ⟨hname, hshared⟩ := hfirst ["Level"] "MYSVC" ["mySvc", "MySvc"] rfl (by decide) (by decide)
  exact ⟨rfl, by decide, by decide, by decide, hplace, hname, hshared.trans (by decide)⟩

end IdlLink
