/-
The names worked out in advance are the names of the module.

The scope of the current module looks unqualified names up in `aliases`; the scope of any other
module puts the module's name in front of them.  The two differ in how they find a name and in
nothing else:

* `sameView_currentScope` — with up-to-date aliases both find the same entry for every name;
* `Alike.agrees` — scopes that find the same entries resolve everything alike, errors included,
  although resolution leaves the one for the other on its way through other modules, and whatever
  the order of their tables;
* `linkIn_eq_ok_iff` — linking a file is linking its parts;
* `overlay_agrees` — so it makes no difference to any answer which module is current.
-/
import IdlLink.Proofs.History
import IdlLink.Proofs.Outcome
import IdlLink.Workspace.Check
import IdlLink.Workspace.Definition
import IdlLink.Workspace.Link

namespace IdlLink

namespace Scope

/-- Two scopes of one module over one table find the same entry for every name. -/
structure SameView (s t : Scope) : Prop where
  table : s.table = t.table
  module : s.module = t.module
  lookup : ∀ name, s.lookup name = t.lookup name

/-- Two scopes of one module find the same entry for every name, over tables that may list their
entries in different orders. -/
structure Alike (s t : Scope) : Prop where
  entry : ∀ key, s.table.get? key = t.table.get? key
  module : s.module = t.module
  lookup : ∀ name, s.lookup name = t.lookup name

/-- Two scopes give the same answers, whatever is asked of them. -/
structure Agrees (s t : Scope) : Prop where
  lookup : ∀ name, s.lookup name = t.lookup name
  type : ∀ e, s.resolveType e = t.resolveType e
  name : ∀ name, s.resolveName name = t.resolveName name
  value : ∀ c, s.resolveValue c = t.resolveValue c
  field : ∀ f, s.resolveField f = t.resolveField f
  function : ∀ f, s.resolveFunction f = t.resolveFunction f
  base : ∀ v, s.resolveBase v = t.resolveBase v

namespace Alike

variable {s t : Scope}

/-- Without anything worked out in advance a scope finds what its table says. -/
theorem of_entries {old new : SymbolTable} (h : ∀ key, old.get? key = new.get? key)
    (m : Option String) : Alike (.of old m) (.of new m) where
  entry := h
  module := rfl
  lookup name := by
    have hpair : SymbolTable.pair? old = SymbolTable.pair? new := by
      funext key
      rw [SymbolTable.pair?, SymbolTable.pair?, h]
    simp only [Scope.lookup, Scope.lookupLocal, Scope.of, hpair]

/-- A typedef of the same module keeps the two scopes, any other one leaves both behind. -/
theorem enter (h : Alike s t) (m : String) : Alike (s.enter m) (t.enter m) := by
  unfold Scope.enter
  by_cases hm : s.module = some m
  · rw [if_pos hm, if_pos (h.module ▸ hm)]
    exact h
  · rw [if_neg hm, if_neg (h.module ▸ hm)]
    exact of_entries h.entry (some m)

theorem resolveTypeIn (h : Alike s t) (chain : List String) (e : TypeExpr) :
    s.resolveTypeIn chain e = t.resolveTypeIn chain e := by
  -- the induction follows the one scope; the other keeps up with it into every module
  induction s, chain, e using Scope.resolveTypeIn.induct generalizing t with
  | case1 s chain p => rw [Scope.resolveTypeIn, Scope.resolveTypeIn]
  | case2 s chain e ih => rw [Scope.resolveTypeIn, Scope.resolveTypeIn, ih h]
  | case3 s chain e ih => rw [Scope.resolveTypeIn, Scope.resolveTypeIn, ih h]
  | case4 s chain k v ihk ihv =>
    rw [Scope.resolveTypeIn, Scope.resolveTypeIn, ihk h, ihv h]
  | case5 s chain name hn =>
    have hn' : t.lookup name = none := h.lookup name ▸ hn
    rw [resolveTypeIn_of_unknown hn, resolveTypeIn_of_unknown hn', h.module]
  | case6 s chain name key symbol hn hc =>
    have hn' : t.lookup name = some (key, symbol) := h.lookup name ▸ hn
    rw [resolveTypeIn_of_entered hn hc, resolveTypeIn_of_entered hn' hc]
  | case7 s chain name key hc e hn _ =>
    have hn' : t.lookup name = some (key, .definition e) := h.lookup name ▸ hn
    rw [resolveTypeIn_of_definition hn hc, resolveTypeIn_of_definition hn' hc]
  | case8 s chain name key hc m target hn _ ih =>
    have hn' : t.lookup name = some (key, .alias m target) := h.lookup name ▸ hn
    rw [resolveTypeIn_of_alias hn hc, resolveTypeIn_of_alias hn' hc, ih (h.enter m)]

theorem unresolved {α : Type} (h : Alike s t) (name : String) :
    (s.unresolved name : Except ResolveError α) = t.unresolved name := by
  rw [Scope.unresolved, Scope.unresolved, h.module]

mutual

theorem resolveValue (h : Alike s t) : ∀ c, s.resolveValue c = t.resolveValue c
  | .bool _ => by rw [Scope.resolveValue, Scope.resolveValue]
  | .int _ => by rw [Scope.resolveValue, Scope.resolveValue]
  | .double _ => by rw [Scope.resolveValue, Scope.resolveValue]
  | .string _ => by rw [Scope.resolveValue, Scope.resolveValue]
  | .list items => by rw [Scope.resolveValue, Scope.resolveValue, h.resolveItems items]
  | .map entries => by rw [Scope.resolveValue, Scope.resolveValue, h.resolveEntries entries]
  | .named name => by rw [Scope.resolveValue, Scope.resolveValue, h.lookup, h.unresolved]

theorem resolveItems (h : Alike s t) : ∀ cs, s.resolveItems cs = t.resolveItems cs
  | [] => by rw [Scope.resolveItems, Scope.resolveItems]
  | c :: rest => by
    rw [Scope.resolveItems, Scope.resolveItems, h.resolveValue c, h.resolveItems rest]

theorem resolveEntries (h : Alike s t) : ∀ es, s.resolveEntries es = t.resolveEntries es
  | [] => by rw [Scope.resolveEntries, Scope.resolveEntries]
  | (k, v) :: rest => by
    rw [Scope.resolveEntries, Scope.resolveEntries, h.resolveValue k, h.resolveValue v,
      h.resolveEntries rest]

end

theorem resolveService (h : Alike s t) : s.resolveService = t.resolveService := by
  funext name
  simp only [Scope.resolveService, Scope.resolveName, Scope.resolveType, h.resolveTypeIn,
    h.unresolved]

/-- **What a scope answers depends only on what it finds.** -/
theorem agrees (h : Alike s t) : Agrees s t := by
  have htype : s.resolveType = t.resolveType := funext (h.resolveTypeIn [])
  have hname : s.resolveName = t.resolveName := by
    funext name
    rw [Scope.resolveName, Scope.resolveName, htype]
  have hvalue : s.resolveValue = t.resolveValue := funext h.resolveValue
  have hfield : s.resolveField = t.resolveField := by
    funext f
    rw [Scope.resolveField, Scope.resolveField, htype, hvalue]
  have hfields : s.resolveFields = t.resolveFields := by
    funext fs
    rw [Scope.resolveFields, Scope.resolveFields, hfield]
  have hfunction : s.resolveFunction = t.resolveFunction := by
    funext f
    rw [Scope.resolveFunction, Scope.resolveFunction, htype, hfields]
  refine ⟨h.lookup, congrFun htype, congrFun hname, h.resolveValue, congrFun hfield,
    congrFun hfunction, fun v => ?_⟩
  rw [Scope.resolveBase, Scope.resolveBase, h.resolveService]

/-- A reference fails alike, or has a meaning on both sides. -/
theorem failure? (h : Alike s t) (r : Reference) : s.failure? r = t.failure? r := by
  cases r with
  | type e => rw [Scope.failure?, Scope.failure?, h.agrees.type]
  | value c => rw [Scope.failure?, Scope.failure?, h.agrees.value]
  | base n => rw [Scope.failure?, Scope.failure?, h.resolveService]

end Alike

theorem SameView.alike {s t : Scope} (h : SameView s t) : Alike s t :=
  ⟨fun _ => by rw [h.table], h.module, h.lookup⟩

namespace Agrees

variable {s t : Scope}

theorem fields (h : Agrees s t) : s.resolveFields = t.resolveFields := by
  funext fs
  rw [Scope.resolveFields, Scope.resolveFields, funext h.field]

/-- Whatever a file declares is linked alike. -/
theorem linkIn (h : Agrees s t) (w : Workspace) (m : String) (schema : Schema) :
    w.linkIn s m schema = w.linkIn t m schema := by
  have htypedef : Workspace.linkTypedef s = Workspace.linkTypedef t := by
    funext name
    rw [Workspace.linkTypedef, Workspace.linkTypedef, h.name]
  have hrecord : w.linkRecord s m = w.linkRecord t m := by
    funext r
    rw [Workspace.linkRecord, Workspace.linkRecord, h.fields]
  have hconstant : Workspace.linkConstant s = Workspace.linkConstant t := by
    funext c
    rw [Workspace.linkConstant, Workspace.linkConstant, h.type, h.value]
  have hservice : w.linkService s m = w.linkService t m := by
    funext v
    rw [Workspace.linkService, Workspace.linkService, h.base, funext h.function]
  rw [Workspace.linkIn, Workspace.linkIn, htypedef, hrecord, hconstant, hservice]

end Agrees

end Scope

open Workspace

variable {settings : Settings} {w : Workspace}

/-! ### The scope of the current module -/

/-- With up-to-date aliases a name is found under them exactly when the module's name in front of it
gives a key, and then it is the same key. -/
theorem sameView_currentScope (h : UpToDate w) {m : String} (hm : w.current = some m) :
    w.currentScope.SameView (.of w.symbols (some m)) := by
  have hscope : w.currentScope = ⟨w.symbols, some m, some (aliasesOf w.symbols m)⟩ := by
    simp only [currentScope, hm, h.aliases_eq hm, Option.isSome_some, if_true]
  rw [hscope]
  refine ⟨rfl, rfl, fun name => ?_⟩
  have hlocal : ((aliasesOf w.symbols m).get? name).bind (SymbolTable.pair? w.symbols) =
      SymbolTable.pair? w.symbols (qualify m name) := by
    by_cases hk : qualify m name ∈ w.symbols.keys
    · rw [get?_aliasesOf.2 ⟨rfl, hk⟩, Option.bind_some]
    · -- neither side finds anything: no alias leads to a key that is not there
      have hnone : (aliasesOf w.symbols m).get? name = none := by
        refine Option.eq_none_iff_forall_ne_some.2 fun k hn => ?_
        obtain ⟨rfl, hmem⟩ := get?_aliasesOf.1 hn
        exact hk hmem
      have hkey : w.symbols.get? (qualify m name) = none :=
        OrderedMap.get?_eq_none_iff.2 hk
      rw [hnone, Option.bind_none, SymbolTable.pair?, hkey, Option.map_none]
  simp only [Scope.lookup, Scope.lookupLocal, Scope.of, hlocal]

/-- The scope of a module is a view by the module's name, current or not. -/
theorem scope_agrees (h : UpToDate w) {m : String} (hm : m ∈ w.schemas.keys) :
    ∃ s, w.scope m = .ok s ∧ (w.current = some m → s.aliases = some w.aliases) ∧
      s.Agrees (.of w.symbols (some m)) := by
  by_cases hc : w.current = some m
  · refine ⟨w.currentScope, ?_, fun _ => ?_, (sameView_currentScope h hc).alike.agrees⟩
    · rw [Workspace.scope, if_pos hc]
    · simp only [currentScope, hc, Option.isSome_some, if_true]
  · refine ⟨.of w.symbols (some m), ?_, fun hc' => absurd hc' hc, ?_⟩
    · rw [Workspace.scope, if_neg hc, if_pos (OrderedMap.contains_iff.2 hm)]
    · exact (Scope.Alike.of_entries (fun _ => rfl) _).agrees

/-- A module is linked as if nothing were worked out in advance. -/
theorem link_of_mem (h : UpToDate w) {m : String} {schema : Schema}
    (hs : w.schemas.get? m = some schema) :
    w.link m = w.linkIn (.of w.symbols (some m)) m schema := by
  obtain ⟨s, hscope, _, hagrees⟩ := scope_agrees h (OrderedMap.mem_keys_of_get? hs)
  rw [← hagrees.linkIn, link, hs]
  simp only [hscope]
  rfl

theorem link_of_not_mem {m : String} (hs : w.schemas.get? m = none) :
    w.link m = .error (.unknownModule m) := by
  rw [link, hs]

/-- What a file is linked to, part by part. -/
structure Links (w : Workspace) (s : Scope) (m : String) (schema : Schema) (M : Linked.Module) :
    Prop where
  name_eq : M.name = m
  namespaceName_eq : M.namespaceName = (w.namespaces.get? m).join
  constantsModule : w.constantsModule m = .ok M.constantsModule
  typedefs : schema.typedefs.keys.mapM (linkTypedef s) = .ok M.typedefs
  enums : schema.enums.values.mapM (w.linkEnum m) = .ok M.enums
  records : (schema.structs.values ++ schema.unions.values ++ schema.exceptions.values).mapM
    (w.linkRecord s m) = .ok M.records
  constants : schema.constants.values.mapM (linkConstant s) = .ok M.constants
  services : schema.services.values.mapM (w.linkService s m) = .ok M.services

theorem linkIn_eq_ok_iff {s : Scope} {m : String} {schema : Schema} {M : Linked.Module} :
    w.linkIn s m schema = .ok M ↔ Links w s m schema M := by
  constructor
  · intro h
    obtain ⟨typedefs, htypedefs, h⟩ := bind_eq_ok_iff.1 h
    obtain ⟨enums, henums, h⟩ := bind_eq_ok_iff.1 h
    obtain ⟨records, hrecords, h⟩ := bind_eq_ok_iff.1 h
    obtain ⟨constants, hconstants, h⟩ := bind_eq_ok_iff.1 h
    obtain ⟨services, hservices, h⟩ := bind_eq_ok_iff.1 h
    obtain ⟨place, hplace, h⟩ := bind_eq_ok_iff.1 h
    cases h
    exact ⟨rfl, rfl, hplace, htypedefs, henums, hrecords, hconstants, hservices⟩
  · rintro ⟨rfl, hnamespace, hplace, htypedefs, henums, hrecords, hconstants, hservices⟩
    have hM : { M with namespaceName := (w.namespaces.get? M.name).join } = M := by
      rw [← hnamespace]
    rw [← congrArg Except.ok hM]
    exact bind_eq_ok_iff.2 ⟨_, htypedefs, bind_eq_ok_iff.2 ⟨_, henums, bind_eq_ok_iff.2
      ⟨_, hrecords, bind_eq_ok_iff.2 ⟨_, hconstants, bind_eq_ok_iff.2 ⟨_, hservices,
        bind_eq_ok_iff.2 ⟨_, hplace, rfl⟩⟩⟩⟩⟩⟩

/-! ### Changing the current module -/

/-- Two workspaces give the same answers about the modules they hold. -/
structure SameAnswers (w w' : Workspace) : Prop where
  check : w.check = w'.check
  link : ∀ m, w.link m = w'.link m
  definition : ∀ e, w.definition? e = w'.definition? e
  destination : ∀ e, w.destinationOf e = w'.destinationOf e

theorem SameAnswers.refl (w : Workspace) : SameAnswers w w :=
  ⟨rfl, fun _ => rfl, fun _ => rfl, fun _ => rfl⟩

/-- Of an up-to-date workspace a change of the current module changes the aliases only. -/
theorem run_setCurrent_of_mem (h : UpToDate w) {m : String} (hm : m ∈ w.schemas.keys) :
    (Call.setCurrent m).run w =
      { w with current := some m, aliases := aliasesOf w.symbols m } := by
  have hns := h.namespaces_eq
  rw [Call.run, setCurrent_of_mem hm]
  simp only [refresh, ← hns]

theorem sameAnswers_run_setCurrent (h : UpToDate w) (m : String) :
    SameAnswers w ((Call.setCurrent m).run w) := by
  by_cases hm : m ∈ w.schemas.keys
  · have hrun := run_setCurrent_of_mem h hm
    have hview : UpToDate ((Call.setCurrent m).run w) := by
      rw [Call.run, setCurrent_of_mem hm]
      exact upToDate_refresh _
    rw [hrun] at hview ⊢
    refine ⟨rfl, fun m' => ?_, fun _ => rfl, fun _ => rfl⟩
    cases hs : w.schemas.get? m' with
    | none =>
      rw [link_of_not_mem hs]
      exact Eq.symm (link_of_not_mem hs)
    | some schema =>
      -- the scopes may differ in what is worked out, but not in what they answer
      calc w.link m' = w.linkIn (.of w.symbols (some m')) m' schema := link_of_mem h hs
        _ = _ := (link_of_mem hview hs).symm
  · rw [run_setCurrent_of_not_mem hm]
    exact SameAnswers.refl w

/-- **Names worked out in advance mean what the module's own names mean.**  In every workspace that
calls lead to, the scope of a module, current or just made current, gives the answers of the scope
without aliases; so no answer about a module depends on which module is current. -/
theorem overlay_agrees (h : Reachable settings w) :
    (∀ m ∈ w.schemas.keys,
      (∃ s, w.scope m = .ok s ∧ (w.current = some m → s.aliases = some w.aliases) ∧
        s.Agrees (.of w.symbols (some m))) ∧
      ∃ s, ((Call.setCurrent m).run w).scope m = .ok s ∧
        s.aliases = some ((Call.setCurrent m).run w).aliases ∧
        s.Agrees (.of w.symbols (some m))) ∧
      ∀ m, SameAnswers w ((Call.setCurrent m).run w) := by
  refine ⟨fun m hm => ⟨scope_agrees h.upToDate hm, ?_⟩,
    fun m => sameAnswers_run_setCurrent h.upToDate m⟩
  have hw : Reachable settings ((Call.setCurrent m).run w) := .call _ h
  have hrun := run_setCurrent_of_mem h.upToDate hm
  have hmem : m ∈ ((Call.setCurrent m).run w).schemas.keys := by
    rw [hrun]
    exact hm
  obtain ⟨s, hs, haliases, hagrees⟩ := scope_agrees hw.upToDate hmem
  refine ⟨s, hs, haliases ?_, ?_⟩
  · rw [hrun]
  · rw [hrun] at hagrees
    exact hagrees

/-- The current module of the ring's history has one name, and looks it up as any module does. -/
theorem ringHistory_overlay :
    Reachable ringSettings ringHistory ∧ "b" ∈ ringHistory.schemas.keys ∧
      ringHistory.current = some "b" ∧
      (∃ s, ringHistory.scope "b" = .ok s ∧ s.aliases = some ringHistory.aliases ∧
        s.Agrees (.of ringHistory.symbols (some "b")) ∧
        s.lookup "Id" = some ("b.Id", .alias "b" (.primitive .i64))) ∧
      SameAnswers ringHistory ((Call.setCurrent "a").run ringHistory) := by
  have hw := reachable_ringHistory
  have hmem : "b" ∈ ringHistory.schemas.keys := by
    rw [ringHistory_eq]
    decide
  have hcurrent : ringHistory.current = some "b" := by
    rw [ringHistory_eq]
    decide
  have hlookup : (Scope.of ringHistory.symbols (some "b")).lookup "Id" =
      some ("b.Id", .alias "b" (.primitive .i64)) := by
    rw [ringHistory_eq]
    decide
  obtain ⟨s, hs, haliases, hagrees⟩ := ((overlay_agrees hw).1 "b" hmem).1
  exact ⟨hw, hmem, hcurrent, ⟨s, hs, haliases hcurrent, hagrees, (hagrees.lookup _).trans hlookup⟩,
    (overlay_agrees hw).2 "a"⟩

end IdlLink
