/-
What the check of a workspace reports.

Every reference of every file is resolved in the scope of the file's module, and many may fail for
one reason: a name that nothing declares, or a loop of typedefs that is entered at different places
and on different ways.  The report gives each reason once:

* `mem_references_iff` — the references that are walked, category by category;
* `exists_loop_of_failure` — a cycle that a reference fails with is a way in and a loop of typedefs;
* `canonical_eq_iff_reportedAs` — it is reported as the loop from its least name, whatever the way in
  and wherever it was entered, and any other failure is reported as it is;
* `check_reports_once` — so the report has no error twice, no loop in two spellings, and no error
  that is not some reference's.
-/
import IdlLink.Proofs.Cycles
import IdlLink.Proofs.Failing

open scoped List

namespace IdlLink

open Workspace

variable {table : SymbolTable} {m : Option String} {w : Workspace}

/-! ### The references that are walked -/

/-- What a file refers to: its typedefs, the types and defaults of fields, the types and values of
constants, and what its services extend, return, take and throw. -/
inductive Schema.Refers (s : Schema) : Reference → Prop
  | typedef {t} : t ∈ s.typedefs.values → s.Refers (.type t)
  | fieldType {r f} : r ∈ s.structs.values ++ s.unions.values ++ s.exceptions.values →
      f ∈ r.fields → s.Refers (.type f.type)
  | fieldDefault {r f c} : r ∈ s.structs.values ++ s.unions.values ++ s.exceptions.values →
      f ∈ r.fields → f.default = some c → s.Refers (.value c)
  | constantType {c} : c ∈ s.constants.values → s.Refers (.type c.type)
  | constantValue {c} : c ∈ s.constants.values → s.Refers (.value c.value)
  | base {v n} : v ∈ s.services.values → v.base = some n → s.Refers (.base n)
  | result {v f t} : v ∈ s.services.values → f ∈ v.functions.values → f.result = some t →
      s.Refers (.type t)
  | parameterType {v f p} : v ∈ s.services.values → f ∈ v.functions.values →
      p ∈ f.params ++ f.exceptions → s.Refers (.type p.type)
  | parameterDefault {v f p c} : v ∈ s.services.values → f ∈ v.functions.values →
      p ∈ f.params ++ f.exceptions → p.default = some c → s.Refers (.value c)

theorem Field.mem_references_iff {f : Field} {r : Reference} :
    r ∈ f.references ↔ r = .type f.type ∨ ∃ c, f.default = some c ∧ r = .value c := by
  cases hdefault : f.default with
  | none => simp [Field.references, hdefault]
  | some c => simp [Field.references, hdefault]

theorem Service.mem_references_iff {v : Service} {r : Reference} :
    r ∈ v.references ↔ (∃ n, v.base = some n ∧ r = .base n) ∨ ∃ f ∈ v.functions.values,
      (∃ t, f.result = some t ∧ r = .type t) ∨
        ∃ p ∈ f.params ++ f.exceptions, r ∈ p.references := by
  simp only [Service.references, Function.references, List.mem_append, List.mem_flatMap,
    Option.mem_toList, Option.map_eq_some_iff, @eq_comm _ _ r]

theorem mem_references_iff {s : Schema} {r : Reference} : r ∈ s.references ↔ s.Refers r := by
  constructor
  · intro h
    rw [Schema.references, List.mem_append, List.mem_append, List.mem_append, List.mem_map] at h
    rcases h with ((⟨t, ht, rfl⟩ | hrecord) | hconstant) | hservice
    · exact .typedef ht
    · obtain ⟨record, hmem, hrefs⟩ := List.mem_flatMap.1 hrecord
      obtain ⟨f, hf, hr⟩ := List.mem_flatMap.1 hrefs
      rcases Field.mem_references_iff.1 hr with rfl | ⟨c, hc, rfl⟩
      · exact .fieldType hmem hf
      · exact .fieldDefault hmem hf hc
    · obtain ⟨c, hc, hr⟩ := List.mem_flatMap.1 hconstant
      rcases List.mem_pair.1 hr with rfl | rfl
      · exact .constantType hc
      · exact .constantValue hc
    · obtain ⟨v, hv, hrefs⟩ := List.mem_flatMap.1 hservice
      rcases Service.mem_references_iff.1 hrefs with
        ⟨n, hn, rfl⟩ | ⟨f, hf, ⟨t, ht, rfl⟩ | ⟨p, hp, hr⟩⟩
      · exact .base hv hn
      · exact .result hv hf ht
      · rcases Field.mem_references_iff.1 hr with rfl | ⟨c, hc, rfl⟩
        · exact .parameterType hv hf hp
        · exact .parameterDefault hv hf hp hc
  · have hfield : ∀ {record : Record} {f : Field} {r},
        record ∈ s.structs.values ++ s.unions.values ++ s.exceptions.values → f ∈ record.fields →
          r ∈ f.references → r ∈ s.references := by
      intro record f r hrecord hf hr
      have hmem : r ∈ (s.structs.values ++ s.unions.values ++ s.exceptions.values).flatMap
          (fun record => record.fields.flatMap Field.references) :=
        List.mem_flatMap.2 ⟨record, hrecord, List.mem_flatMap.2 ⟨f, hf, hr⟩⟩
      exact List.mem_append_left _ (List.mem_append_left _ (List.mem_append_right _ hmem))
    have hconstant : ∀ {c : Constant} {r}, c ∈ s.constants.values → r ∈ c.references →
        r ∈ s.references := by
      intro c r hc hr
      have hmem := List.mem_flatMap.2 ⟨c, hc, hr⟩
      exact List.mem_append_left _ (List.mem_append_right _ hmem)
    have hservice : ∀ {v : Service} {r}, v ∈ s.services.values → r ∈ v.references →
        r ∈ s.references := by
      intro v r hv hr
      exact List.mem_append_right _ (List.mem_flatMap.2 ⟨v, hv, hr⟩)
    intro h
    cases h with
    | typedef ht =>
      have hmem := List.mem_map_of_mem (f := Reference.type) ht
      exact List.mem_append_left _ (List.mem_append_left _ (List.mem_append_left _ hmem))
    | fieldType hrecord hf => exact hfield hrecord hf (Field.mem_references_iff.2 (.inl rfl))
    | fieldDefault hrecord hf hc =>
      exact hfield hrecord hf (Field.mem_references_iff.2 (.inr ⟨_, hc, rfl⟩))
    | constantType hc => exact hconstant hc (List.mem_pair.2 (.inl rfl))
    | constantValue hc => exact hconstant hc (List.mem_pair.2 (.inr rfl))
    | base hv hn => exact hservice hv (Service.mem_references_iff.2 (.inl ⟨_, hn, rfl⟩))
    | result hv hf ht =>
      exact hservice hv (Service.mem_references_iff.2 (.inr ⟨_, hf, .inl ⟨_, ht, rfl⟩⟩))
    | @parameterType v f p hv hf hp =>
      have hr : .type p.type ∈ p.references := Field.mem_references_iff.2 (.inl rfl)
      exact hservice hv (Service.mem_references_iff.2 (.inr ⟨_, hf, .inr ⟨_, hp, hr⟩⟩))
    | @parameterDefault v f p c hv hf hp hc =>
      have hr : .value c ∈ p.references := Field.mem_references_iff.2 (.inr ⟨c, hc, rfl⟩)
      exact hservice hv (Service.mem_references_iff.2 (.inr ⟨_, hf, .inr ⟨_, hp, hr⟩⟩))

theorem mem_failures_iff {e : ResolveError} : e ∈ w.failures ↔
    ∃ m s, w.schemas.get? m = some s ∧ ∃ r, s.Refers r ∧
      (Scope.of w.symbols (some m)).failure? r = some e := by
  simp only [failures, List.mem_flatMap, List.mem_filterMap, mem_references_iff]
  constructor
  · rintro ⟨⟨m, s⟩, hs, hr⟩
    exact ⟨m, s, OrderedMap.get?_eq_some_iff.2 hs, hr⟩
  · rintro ⟨m, s, hs, hr⟩
    exact ⟨(m, s), OrderedMap.get?_eq_some_iff.1 hs, hr⟩

/-! ### Failures that are cycles -/

theorem Scope.errorOf_eq_some_iff {α : Type} {x : Except ResolveError α} {e : ResolveError} :
    failure?.errorOf x = some e ↔ x = .error e := by
  cases x with
  | error e' => exact ⟨fun h => congrArg _ (Option.some_inj.1 h), fun h => by cases h; rfl⟩
  | ok a => exact ⟨fun h => (by cases h), fun h => (by cases h)⟩

/-- A reference fails with a cycle by its type, or by the name of a service. -/
theorem cyclic_of_failure {s : Scope} {r : Reference} {raw : List String}
    (h : s.failure? r = some (.cyclic raw)) : ∃ t, s.resolveType t = .error (.cyclic raw) := by
  cases r with
  | type t => exact ⟨t, Scope.errorOf_eq_some_iff.1 h⟩
  | value c =>
    obtain ⟨n, hn⟩ := Scope.unresolved_of_resolveValue c (Scope.errorOf_eq_some_iff.1 h)
    cases hn
  | base n =>
    have hservice : s.resolveService n = .error (.cyclic raw) := Scope.errorOf_eq_some_iff.1 h
    rw [Scope.resolveService, bind_eq_error_iff] at hservice
    rcases hservice with hname | ⟨T, _, hrest⟩
    · exact ⟨.named n, hname⟩
    · -- what the name stands for may be no service, but that is no cycle
      split at hrest
      · split at hrest
        · cases hrest
        · cases hrest
      · cases hrest

theorem dropLast_append_closeLoop {loop : List String} (lead : List String) (hne : loop ≠ []) :
    (lead ++ closeLoop loop).dropLast = lead ++ loop := by
  obtain ⟨first, rest, rfl⟩ := List.exists_cons_of_ne_nil hne
  rw [closeLoop_cons, ← List.append_assoc, List.dropLast_concat]

/-- **A cycle that a reference fails with is a way in and a loop of typedefs**, none of which comes
twice before the loop closes. -/
theorem exists_loop_of_failure {r : Reference} {raw : List String}
    (h : (Scope.of table m).failure? r = some (.cyclic raw)) :
    ∃ lead loop, raw = lead ++ closeLoop loop ∧ loop ≠ [] ∧ (lead ++ loop).Nodup ∧
      (closeLoop loop).IsChain (Leads table) := by
  obtain ⟨t, ht⟩ := cyclic_of_failure h
  obtain ⟨ks, m', u, hway, hnodup, hstops⟩ := blocked_of_resolveTypeIn ht
  cases hstops with
  | @cyclic back hback hmem =>
    -- nothing was entered before, so the way comes back to a typedef of its own
    obtain ⟨lead, rest, rfl⟩ := List.append_of_mem hmem
    have hraw : [] ++ (lead ++ back :: rest) ++ [back] = lead ++ closeLoop (back :: rest) := by
      rw [List.nil_append, closeLoop_cons, List.append_assoc]
    have hlinked : (lead ++ closeLoop (back :: rest)).IsChain (Leads table) :=
      hraw ▸ hway.linked hback
    exact ⟨lead, back :: rest, hraw, List.cons_ne_nil _ _, hnodup List.nodup_nil,
      (List.isChain_append.1 hlinked).2.1⟩

/-! ### How a failure is reported -/

/-- A cycle is reported without the way in and from its least name, and anything else as it is. -/
inductive ReportedAs : ResolveError → ResolveError → Prop
  | cycle {lead loop rotated} : loop ≠ [] → loop ~r rotated → LeastFirst rotated →
      ReportedAs (.cyclic (lead ++ closeLoop loop)) (.cyclic (closeLoop rotated))
  | other {e} : (∀ chain, e ≠ .cyclic chain) → ReportedAs e e

theorem canonical_eq_iff_reportedAs {r : Reference} {raw e : ResolveError}
    (h : (Scope.of table m).failure? r = some raw) : raw.canonical = e ↔ ReportedAs raw e := by
  constructor
  · rintro rfl
    cases raw with
    | cyclic chain =>
      obtain ⟨lead, loop, rfl, hne, hnodup, _⟩ := exists_loop_of_failure h
      have hdisjoint := List.disjoint_of_nodup_append hnodup
      rw [ResolveError.canonical, canonicalChain_append_closeLoop hne hdisjoint]
      exact .cycle hne (rotateToLeast_isRotated loop) (leastFirst_rotateToLeast loop)
    | unresolved n m => exact .other fun _ hc => by cases hc
    | unknownModule n => exact .other fun _ hc => by cases hc
    | unqualified n => exact .other fun _ hc => by cases hc
  · intro hreported
    cases hreported with
    | @cycle lead loop rotated hne hrotated hleast =>
      -- there is one way only to cut the chain into a way in and a loop
      obtain ⟨lead', loop', hraw, hne', hnodup, _⟩ := exists_loop_of_failure h
      have hcut : lead ++ loop = lead' ++ loop' := by
        rw [← dropLast_append_closeLoop lead hne, hraw, dropLast_append_closeLoop lead' hne']
      rw [← hcut] at hnodup
      have hsame : rotateToLeast loop = rotated := by
        have hturned := (rotateToLeast_isRotated loop).symm
        have hloop : loop.Nodup := (List.nodup_append.1 hnodup).2.1
        exact eq_of_isRotated (hturned.trans hrotated) (hturned.nodup_iff.2 hloop)
          (leastFirst_rotateToLeast loop) hleast
      have hdisjoint := List.disjoint_of_nodup_append hnodup
      rw [ResolveError.canonical, canonicalChain_append_closeLoop hne hdisjoint, hsame]
    | other hother =>
      cases raw with
      | cyclic chain => exact absurd rfl (hother chain)
      | unresolved n m => rfl
      | unknownModule n => rfl
      | unqualified n => rfl

theorem mem_check_iff {e : ResolveError} : e ∈ w.check ↔
    ∃ m s, w.schemas.get? m = some s ∧ ∃ r, s.Refers r ∧ ∃ raw,
      (Scope.of w.symbols (some m)).failure? r = some raw ∧ ReportedAs raw e := by
  rw [check, mem_distinct, List.mem_map]
  constructor
  · rintro ⟨raw, hraw, he⟩
    obtain ⟨m, s, hs, r, hr, hfails⟩ := mem_failures_iff.1 hraw
    exact ⟨m, s, hs, r, hr, raw, hfails, (canonical_eq_iff_reportedAs hfails).1 he⟩
  · rintro ⟨m, s, hs, r, hr, raw, hfails, he⟩
    exact ⟨raw, mem_failures_iff.2 ⟨m, s, hs, r, hr, hfails⟩,
      (canonical_eq_iff_reportedAs hfails).2 he⟩

/-- A cycle that is reported is a loop of typedefs from its least name. -/
theorem loop_of_mem_check {chain : List String} (h : .cyclic chain ∈ w.check) :
    ∃ loop, chain = closeLoop loop ∧ loop ≠ [] ∧ loop.Nodup ∧ LeastFirst loop ∧
      (closeLoop loop).IsChain (Leads w.symbols) := by
  obtain ⟨m, s, _, r, _, raw, hfails, hreported⟩ := mem_check_iff.1 h
  obtain ⟨found, hfound⟩ : ∃ found, raw = .cyclic found := by
    cases hreported with
    | cycle _ _ _ => exact ⟨_, rfl⟩
    | other _ => exact ⟨_, rfl⟩
  subst hfound
  obtain ⟨lead, loop, rfl, hne, hnodup, hlinked⟩ := exists_loop_of_failure hfails
  have hchain : closeLoop (rotateToLeast loop) = chain := by
    have hcanonical := (canonical_eq_iff_reportedAs hfails).2 hreported
    have hdisjoint := List.disjoint_of_nodup_append hnodup
    rw [ResolveError.canonical, canonicalChain_append_closeLoop hne hdisjoint] at hcanonical
    exact ResolveError.cyclic.inj hcanonical
  have hturned := rotateToLeast_isRotated loop
  refine ⟨_, hchain.symm, fun hnil => ?_, ?_, leastFirst_rotateToLeast loop, ?_⟩
  · rw [hnil, List.isRotated_nil_iff] at hturned
    exact hne hturned
  · exact hturned.nodup_iff.1 (List.nodup_append.1 hnodup).2.1
  · exact (isChain_closeLoop_rotated hturned).1 hlinked

/-- **The check reports each failure once.**  An error is reported exactly when some reference fails
with it, in the scope of its own file's module and up to where a cycle starts and how it was entered.
A reported cycle is a loop of different typedefs, each of which mentions the next one in its own
module, that starts and ends with the least of them; and no loop is reported in two spellings. -/
theorem check_reports_once (w : Workspace) :
    w.check.Nodup ∧
    (∀ e, e ∈ w.check ↔ ∃ m s, w.schemas.get? m = some s ∧ ∃ r, s.Refers r ∧ ∃ raw,
      (Scope.of w.symbols (some m)).failure? r = some raw ∧ ReportedAs raw e) ∧
    (∀ chain, .cyclic chain ∈ w.check → ∃ loop, chain = closeLoop loop ∧ loop ≠ [] ∧
      loop.Nodup ∧ LeastFirst loop ∧ (closeLoop loop).IsChain (Leads w.symbols)) ∧
    ∀ loop loop', .cyclic (closeLoop loop) ∈ w.check → .cyclic (closeLoop loop') ∈ w.check →
      loop ~r loop' → loop = loop' := by
  refine ⟨nodup_distinct _, fun e => mem_check_iff, fun chain => loop_of_mem_check, ?_⟩
  intro loop loop' h h' hrotated
  obtain ⟨_, hloop, _, hnodup, hleast, _⟩ := loop_of_mem_check h
  obtain ⟨_, hloop', _, _, hleast', _⟩ := loop_of_mem_check h'
  rw [← closeLoop_injective hloop] at hnodup hleast
  rw [← closeLoop_injective hloop'] at hleast'
  exact eq_of_isRotated hrotated hnodup hleast hleast'

def wayField : Field := ⟨some 1, .required, .named "Way", "way", none⟩

def scoreField : Field :=
  ⟨some 2, .default, .named "Score", "score", some (.list [.int 0, .named "Score"])⟩

/-- A file where two typedefs lead to each other, a third one leads to them, and a name is missing
from two places. -/
def loopFile : Schema :=
  { Schema.empty with
    typedefs := .ofList
      [("Way", .set (.named "Pong")), ("Pong", .named "Ping"), ("Ping", .list (.named "Pong"))]
    structs := .ofList [("Game", ⟨"Game", .struct, [wayField, scoreField]⟩)] }

def loopWorkspace : Workspace := ((new .standard).register ⟨"loop.thrift"⟩ loopFile).refresh

/-- On the way of the third typedef the loop is entered behind its least name. -/
theorem loop_failure : (Scope.of loopWorkspace.symbols (some "loop")).failure? (.type (.named "Way")) =
    some (.cyclic ["loop.Way", "loop.Pong", "loop.Ping", "loop.Pong"]) := by
  generalize hs : Scope.of loopWorkspace.symbols (some "loop") = s
  have hway : s.lookup "Way" = some ("loop.Way", .alias "loop" (.set (.named "Pong"))) := by
    rw [← hs]
    rfl
  have hpong : s.lookup "Pong" = some ("loop.Pong", .alias "loop" (.named "Ping")) := by
    rw [← hs]
    rfl
  have hping : s.lookup "Ping" = some ("loop.Ping", .alias "loop" (.list (.named "Pong"))) := by
    rw [← hs]
    rfl
  have henter : s.enter "loop" = s := by
    rw [← hs]
    rfl
  rw [Scope.failure?, Scope.resolveType, Scope.resolveTypeIn_of_alias hway List.not_mem_nil, henter,
    Scope.resolveTypeIn, Scope.resolveTypeIn_of_alias hpong (by decide), henter,
    Scope.resolveTypeIn_of_alias hping (by decide), henter, Scope.resolveTypeIn,
    Scope.resolveTypeIn_of_entered hpong (by decide)]
  rfl

/-- The loop is reported from its least typedef and without the way in, and in no other spelling;
the missing name is reported too. -/
theorem loop_reported_once :
    loopWorkspace.check.Nodup ∧
      .cyclic ["loop.Ping", "loop.Pong", "loop.Ping"] ∈ loopWorkspace.check ∧
      .unresolved "Score" (some "loop") ∈ loopWorkspace.check ∧
      Leads loopWorkspace.symbols "loop.Ping" "loop.Pong" ∧
      ∀ loop, .cyclic (closeLoop loop) ∈ loopWorkspace.check → ["loop.Pong", "loop.Ping"] ~r loop →
        loop = ["loop.Ping", "loop.Pong"] := by
  obtain ⟨hnodup, hmem, hcycles, honce⟩ := check_reports_once loopWorkspace
  have hfile : loopWorkspace.schemas.get? "loop" = some loopFile := rfl
  have hturned : ["loop.Pong", "loop.Ping"] ~r ["loop.Ping", "loop.Pong"] := ⟨1, rfl⟩
  have hloop : .cyclic (closeLoop ["loop.Ping", "loop.Pong"]) ∈ loopWorkspace.check := by
    have hway : loopFile.Refers (.type wayField.type) :=
      .fieldType List.mem_cons_self List.mem_cons_self
    refine (hmem _).2 ⟨_, _, hfile, _, hway, _, loop_failure, ?_⟩
    exact @ReportedAs.cycle ["loop.Way"] _ _ (List.cons_ne_nil _ _) hturned
      (leastFirst_rotateToLeast ["loop.Pong", "loop.Ping"])
  have hscore : .unresolved "Score" (some "loop") ∈ loopWorkspace.check := by
    have hname : loopFile.Refers (.type scoreField.type) :=
      .fieldType List.mem_cons_self (List.mem_cons_of_mem _ List.mem_cons_self)
    have hnone : (Scope.of loopWorkspace.symbols (some "loop")).lookup "Score" = none := rfl
    refine (hmem _).2 ⟨_, _, hfile, _, hname, _, ?_, .other fun _ hc => by cases hc⟩
    exact Scope.errorOf_eq_some_iff.2 (Scope.resolveTypeIn_of_unknown hnone)
  refine ⟨hnodup, hloop, hscore, ?_, fun loop hloop' hrotated => ?_⟩
  · obtain ⟨found, hfound, _, _, _, hlinked⟩ := hcycles _ hloop
    rw [← hfound] at hlinked
    exact (List.isChain_cons.1 hlinked).1 _ rfl
  · exact honce _ _ hloop' hloop (hrotated.symm.trans hturned)

end IdlLink
