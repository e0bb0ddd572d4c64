/-
How names are found.

What can be named is published as a list, the view: all qualified names, then those of the current
module without the module.  Lookup never reads that list, and a spelling may stand in it twice, as
the name of a member in the current module and as a qualified name of another one.

* `lookup_currentScope` — a lookup tries the current module's names first;
* `view_shows_lookup` — so it finds the last entry of the view, and the view leaves nothing out;
* `resolveTypeIn_named_congr` — what a name resolves to depends only on the entry that it finds;
* `qualified_use_agrees` — so a qualified name means elsewhere what the plain one means at home.
-/
import IdlLink.Proofs.Loaded

namespace IdlLink

open Workspace

variable {settings : Settings} {w : Workspace}

/-! ### The view -/

namespace Workspace

/-- The names of the current module without the module, each with its symbol. -/
def bareEntries (w : Workspace) : List (String × Symbol) :=
  w.aliases.entries.filterMap fun a => (w.symbols.get? a.2).map fun s => (a.1, s)

theorem view_eq (w : Workspace) : w.view = w.symbols.entries ++ w.bareEntries := rfl

/-- The qualified name that a name is found under: with the current module in front when the name is
one of its own. -/
def fullName (w : Workspace) (name : String) : String :=
  match w.current with
  | some m => if name ∈ w.aliases.keys then qualify m name else name
  | none => name

end Workspace

/-- Every alias leads to a symbol, so each has an entry in the view. -/
theorem map_fst_bareEntries (h : Reachable settings w) :
    w.bareEntries.map Prod.fst = w.aliases.keys := by
  have hfound : ∀ a ∈ w.aliases.entries,
      ((w.symbols.get? a.2).map fun s => (a.1, s)).map Prod.fst = some a.1 := by
    intro a ha
    have halias : w.aliases.get? a.1 = some a.2 := OrderedMap.get?_eq_some_iff.2 ha
    obtain ⟨_, _, _, hkey⟩ := ((h.sound.consistent h.upToDate).aliases_iff _ _).1 halias
    obtain ⟨symbol, hsymbol⟩ := OrderedMap.mem_keys_iff.1 hkey
    rw [hsymbol]
    rfl
  rw [bareEntries, List.map_filterMap, List.filterMap_congr hfound, OrderedMap.keys]
  exact congrFun List.filterMap_eq_map _

theorem mem_bareEntries_iff (h : Reachable settings w) {name : String} {symbol : Symbol} :
    (name, symbol) ∈ w.bareEntries ↔
      ∃ m, w.current = some m ∧ w.symbols.get? (qualify m name) = some symbol := by
  have haliases := (h.sound.consistent h.upToDate).aliases_iff
  simp only [bareEntries, List.mem_filterMap, Option.map_eq_some_iff, Prod.mk.injEq]
  constructor
  · rintro ⟨⟨x, k⟩, ha, s, hs, rfl, rfl⟩
    obtain ⟨m, hm, rfl, _⟩ := (haliases x k).1 (OrderedMap.get?_eq_some_iff.2 ha)
    exact ⟨m, hm, hs⟩
  · rintro ⟨m, hm, hs⟩
    have halias : w.aliases.get? name = some (qualify m name) :=
      (haliases _ _).2 ⟨m, hm, rfl, OrderedMap.mem_keys_of_get? hs⟩
    exact ⟨(name, qualify m name), OrderedMap.get?_eq_some_iff.1 halias, symbol, hs, rfl, rfl⟩

/-- A lookup tries the current module's own names, then the name as it is. -/
theorem lookup_currentScope (h : Reachable settings w) (name : String) :
    w.currentScope.lookup name =
      ((w.aliases.get? name).bind (SymbolTable.pair? w.symbols)).or
        (SymbolTable.pair? w.symbols name) := by
  cases hc : w.current with
  | none =>
    rw [h.sound.aliases_of_none hc]
    simp only [Scope.lookup, Scope.lookupLocal, currentScope, hc, Option.isSome_none]
    rfl
  | some m =>
    simp only [Scope.lookup, Scope.lookupLocal, currentScope, hc, Option.isSome_some, if_true]

/-- The last entry of the view under a name is the bare one if there is one. -/
theorem find?_reverse_view (h : Reachable settings w) (name : String) :
    (w.view.reverse.find? fun e => e.1 = name).map Prod.snd =
      ((w.aliases.get? name).bind w.symbols.get?).or (w.symbols.get? name) := by
  have hnodup : (w.bareEntries.map Prod.fst).Nodup := by
    rw [map_fst_bareEntries h]
    exact w.aliases.nodup_keys
  -- no name is bare twice, so the bare entries are a map of their own
  have hbare : (w.bareEntries.reverse.find? fun e => e.1 = name).map Prod.snd =
      (w.aliases.get? name).bind w.symbols.get? := by
    rw [OrderedMap.find?_reverse_entries ⟨w.bareEntries, hnodup⟩]
    ext symbol
    rw [OrderedMap.get?_eq_some_iff, mem_bareEntries_iff h, Option.bind_eq_some_iff]
    simp only [(h.sound.consistent h.upToDate).aliases_iff]
    constructor
    · rintro ⟨m, hm, hs⟩
      exact ⟨_, ⟨m, hm, rfl, OrderedMap.mem_keys_of_get? hs⟩, hs⟩
    · rintro ⟨_, ⟨m, hm, rfl, _⟩, hs⟩
      exact ⟨m, hm, hs⟩
  rw [view_eq, List.reverse_append, List.find?_append, Option.map_or, hbare,
    OrderedMap.find?_reverse_entries]

/-- **The view shows what lookup finds.**  In every workspace that calls lead to, looking a name up in
the current module gives the symbol of the last entry of the view under that name, and nothing when
there is no entry; the name is found under its full name, with the module in front when it is one of
the module's own.  The view is the table as it is and behind it one entry for each alias, and these
are the names of the current module's symbols and no others. -/
theorem view_shows_lookup (h : Reachable settings w) :
    (∀ name, w.currentScope.lookup name =
      (w.view.reverse.find? fun e => e.1 = name).map fun e => (w.fullName name, e.2)) ∧
    ∃ bare, w.view = w.symbols.entries ++ bare ∧ bare.map Prod.fst = w.aliases.keys ∧
      ∀ name symbol, (name, symbol) ∈ bare ↔
        ∃ m, w.current = some m ∧ w.symbols.get? (qualify m name) = some symbol := by
  refine ⟨fun name => ?_, w.bareEntries, view_eq w, map_fst_bareEntries h,
    fun _ _ => mem_bareEntries_iff h⟩
  have hlast := find?_reverse_view h name
  have hlook := lookup_currentScope h name
  have hfull : ((w.view.reverse.find? fun e => e.1 = name).map fun e => (w.fullName name, e.2)) =
      ((w.view.reverse.find? fun e => e.1 = name).map Prod.snd).map fun s =>
        (w.fullName name, s) := by
    rw [Option.map_map]
    rfl
  rw [hlook, hfull, hlast]
  cases halias : w.aliases.get? name with
  | none =>
    have hself : w.fullName name = name := by
      have hmem : name ∉ w.aliases.keys := OrderedMap.get?_eq_none_iff.1 halias
      rw [fullName]
      split
      · rw [if_neg hmem]
      · rfl
    rw [hself]
    rfl
  | some key =>
    obtain ⟨m, hm, rfl, hkey⟩ := ((h.sound.consistent h.upToDate).aliases_iff _ _).1 halias
    obtain ⟨symbol, hsymbol⟩ := OrderedMap.mem_keys_iff.1 hkey
    have hself : w.fullName name = qualify m name := by
      simp only [fullName, hm, if_pos (OrderedMap.mem_keys_of_get? halias)]
    rw [hself]
    simp only [Option.bind_some, SymbolTable.pair?, hsymbol, Option.map_some, Option.some_or]

/-- A file with an enum that is called like the module of the other file. -/
def colourFile : Schema :=
  { Schema.empty with
    enums := .ofList [("paint", ⟨"paint", [⟨"Id", 5⟩]⟩)]
    typedefs := .ofList [("Tone", .named "paint.Id")] }

def paintFile : Schema :=
  { Schema.empty with
    typedefs := .ofList [("Id", .list (.named "Raw")), ("Raw", .primitive .i64)] }

/-- Both files, the module of the enum current: `paint.Id` is a name of two modules. -/
def paints : Workspace :=
  [.add MemorySources.empty.toSources ⟨"paint.thrift"⟩ paintFile,
    .add MemorySources.empty.toSources ⟨"colour.thrift"⟩ colourFile,
    .setCurrent "colour"].foldl Call.run (.new .standard)

theorem reachable_paints : Reachable .standard paints := Reachable.new.calls _

theorem paints_eq : paints =
    (Call.setCurrent "colour").run
      (((new .standard).register ⟨"paint.thrift"⟩ paintFile).refresh.register
        ⟨"colour.thrift"⟩ colourFile).refresh := by
  rw [paints, List.foldl_cons, List.foldl_cons, Call.run, Call.run, add_of_no_includes rfl,
    add_of_no_includes rfl]
  rfl

/-- Both entries are in the view, and the name is the current module's. -/
theorem paints_view :
    Reachable .standard paints ∧
      ("paint.Id", .alias "paint" (.list (.named "Raw"))) ∈ paints.symbols.entries ∧
      paints.currentScope.lookup "paint.Id" =
        some ("colour.paint.Id", .definition ⟨"colour.paint.Id", .enumMember 5⟩) ∧
      ("paint.Id", .definition ⟨"colour.paint.Id", .enumMember 5⟩) ∈ paints.view := by
  have hlook := (view_shows_lookup reachable_paints).1 "paint.Id"
  obtain ⟨bare, hview, _, hbare⟩ := (view_shows_lookup reachable_paints).2
  refine ⟨reachable_paints, ?_, ?_, ?_⟩
  · rw [paints_eq]
    decide
  · rw [hlook, paints_eq]
    decide
  · rw [hview]
    refine List.mem_append_right _ ((hbare _ _).2 ⟨"colour", ?_, ?_⟩)
    · rw [paints_eq]
      decide
    · rw [paints_eq]
      decide

/-! ### Names from another module -/

namespace Scope

variable {table : SymbolTable} {m m' : Option String}

/-- What a name resolves to depends on the entry that it finds, not on where it is read. -/
theorem resolveTypeIn_named_congr {n n' : String} {e : String × Symbol}
    (h : (of table m).lookup n = some e) (h' : (of table m').lookup n' = some e)
    (chain : List String) :
    (of table m).resolveTypeIn chain (.named n) = (of table m').resolveTypeIn chain (.named n') := by
  obtain ⟨key, symbol⟩ := e
  rw [resolveTypeIn_named, resolveTypeIn_named, h, h']
  cases symbol with
  | definition e => rfl
  | «alias» module target => simp only [enter_of]

end Scope

namespace Workspace

/-- The workspace after changes of the current module, of which those to unknown modules are
refused. -/
def switched (w : Workspace) (modules : List String) : Workspace :=
  (modules.map Call.setCurrent).foldl Call.run w

theorem switched_tables (w : Workspace) (modules : List String) :
    (w.switched modules).schemas = w.schemas ∧ (w.switched modules).symbols = w.symbols := by
  induction modules generalizing w with
  | nil => exact ⟨rfl, rfl⟩
  | cons m rest ih =>
    obtain ⟨hschemas, hsymbols⟩ := ih ((Call.setCurrent m).run w)
    obtain ⟨hschemas', hsymbols'⟩ := run_setCurrent_tables w m
    exact ⟨hschemas.trans hschemas', hsymbols.trans hsymbols'⟩

end Workspace

/-- Whichever module is current, the scope of a module is a view by the module's name. -/
theorem scope_switched (h : Reachable settings w) {m : String} (hm : m ∈ w.schemas.keys)
    (modules : List String) :
    ∃ s, (w.switched modules).scope m = .ok s ∧ s.Agrees (.of w.symbols (some m)) := by
  obtain ⟨hschemas, hsymbols⟩ := switched_tables w modules
  have hreachable : Reachable settings (w.switched modules) := h.calls _
  have hmem : m ∈ (w.switched modules).schemas.keys := by rwa [hschemas]
  obtain ⟨s, hs, _, hagrees⟩ := scope_agrees hreachable.upToDate hmem
  rw [hsymbols] at hagrees
  exact ⟨s, hs, hagrees⟩

/-- **A qualified name means elsewhere what the plain name means at home.**  Let `a.x` be a symbol of
a workspace that calls lead to, and let `b` have no symbol of its own under that spelling.  Then `a.x`
in `b` resolves exactly as `x` in `a`, to the same type or with the same error, and to the same value
if to any; and it does not matter which modules are current when the one and the other is asked. -/
theorem qualified_use_agrees (h : Reachable settings w) {a b x : String}
    (ha : a ∈ w.schemas.keys) (hb : b ∈ w.schemas.keys) (hx : qualify a x ∈ w.symbols.keys)
    (hfree : qualify b (qualify a x) ∉ w.symbols.keys) (modules modules' : List String) :
    ∃ s t, (w.switched modules).scope b = .ok s ∧ (w.switched modules').scope a = .ok t ∧
      s.resolveName (qualify a x) = t.resolveName x ∧
      ∀ v, s.resolveValue (.named (qualify a x)) = .ok v ↔ t.resolveValue (.named x) = .ok v := by
  obtain ⟨symbol, hsymbol⟩ := OrderedMap.mem_keys_iff.1 hx
  obtain ⟨s, hs, hsagrees⟩ := scope_switched h hb modules
  obtain ⟨t, ht, htagrees⟩ := scope_switched h ha modules'
  -- both names find the entry of `a.x`
  have helsewhere : (Scope.of w.symbols (some b)).lookup (qualify a x) =
      some (qualify a x, symbol) := by
    rw [Scope.lookup_of_not_mem hfree, SymbolTable.pair?, hsymbol, Option.map_some]
  have hhome : (Scope.of w.symbols (some a)).lookup x = some (qualify a x, symbol) :=
    Scope.lookup_of_get?_qualify hsymbol
  refine ⟨s, t, hs, ht, ?_, fun v => ?_⟩
  · rw [hsagrees.name, htagrees.name]
    exact Scope.resolveTypeIn_named_congr helsewhere hhome []
  · rw [hsagrees.value, htagrees.value, Scope.resolveValue_named_eq_ok_iff,
      Scope.resolveValue_named_eq_ok_iff, helsewhere, hhome]

/-- The other file of the forecast uses a typedef and a member of an enum by their qualified names,
its own module current for the one question and theirs for the other. -/
theorem forecast_qualified_use :
    Reachable .standard forecast ∧ "common" ∈ forecast.schemas.keys ∧
      "forecast" ∈ forecast.schemas.keys ∧
      (qualify "common" "Series" ∈ forecast.symbols.keys ∧
        qualify "forecast" (qualify "common" "Series") ∉ forecast.symbols.keys ∧
        ∃ s, (forecast.switched ["forecast"]).scope "forecast" = .ok s ∧
          s.resolveName "common.Series" = .ok (.list (.primitive .double))) ∧
      qualify "common" "Weather.RAINY" ∈ forecast.symbols.keys ∧
        qualify "forecast" (qualify "common" "Weather.RAINY") ∉ forecast.symbols.keys ∧
        ∃ s, (forecast.switched ["forecast"]).scope "forecast" = .ok s ∧
          s.resolveValue (.named "common.Weather.RAINY") =
            .ok (.named ⟨"common.Weather.RAINY", .enumMember 7⟩) := by
  have hw := forecast_loaded.reachable
  have hcommon : "common" ∈ forecast.schemas.keys := by decide
  have hforecast : "forecast" ∈ forecast.schemas.keys := by decide
  have hscope : (forecast.switched []).scope "common" = .ok forecast.currentScope := rfl
  have hagrees := (sameView_currentScope hw.upToDate (m := "common") rfl).alike.agrees
  refine ⟨hw, hcommon, hforecast, ⟨by decide, by decide, ?_⟩, by decide, by decide, ?_⟩
  · obtain ⟨s, t, hs, ht, hname, _⟩ := qualified_use_agrees hw (x := "Series") hcommon hforecast
      (by decide) (by decide) ["forecast"] []
    obtain rfl : forecast.currentScope = t := Except.ok.inj (hscope.symm.trans ht)
    have hseries : Denotes forecast.symbols (some "common") (.named "Series")
        (.list (.primitive .double)) := .typedef rfl (.list (.typedef rfl .primitive))
    refine ⟨s, hs, hname.trans ?_⟩
    rw [hagrees.name]
    exact resolveType_iff_denotes.2 hseries
  · obtain ⟨s, t, hs, ht, _, hvalue⟩ := qualified_use_agrees hw (x := "Weather.RAINY") hcommon
      hforecast (by decide) (by decide) ["forecast"] []
    obtain rfl : forecast.currentScope = t := Except.ok.inj (hscope.symm.trans ht)
    exact ⟨s, hs, (hvalue _).2 rfl⟩

end IdlLink
