/-
What loading a root adds to what holds after any calls.

Calls in general may replace a file, and then the table of symbols still holds entries of the file
that is gone.  Loading registers every module once, so after a load the table says what the files
say and nothing else:

* `Loaded.symbols_eq` — the table is the one that the files, in order, build up;
* `Loaded.declared_of_get?` — so each of its entries is a declaration of a file that is held, under
  a key of the module of that file;
* `Loaded.typedef_of_alias` — a typedef that can be entered is one of the typedefs of its module.

Changes of the current module after the load do not matter to any of this.
-/
import IdlLink.Proofs.Closure
import IdlLink.Proofs.Denotation
import IdlLink.Proofs.Outcome
import IdlLink.Proofs.Overlay

namespace IdlLink

open Workspace

/-- The workspaces that a load leads to, and any changes of the current module after it. -/
inductive Loaded (settings : Settings) (src : Sources) : Workspace → Prop
  | load {root r} : Workspace.load settings src root = .ok r → Loaded settings src r.workspace
  | setCurrent {w} (m : String) : Loaded settings src w →
      Loaded settings src ((Call.setCurrent m).run w)

variable {settings : Settings} {src : Sources} {w : Workspace}

/-! ### A load is an addition to nothing -/

theorem workspace_of_load {root : SourcePath} {r : Intake}
    (h : Workspace.load settings src root = .ok r) : ∃ schema, src.parse root = .ok schema ∧
      r.workspace = ((new settings).add src root schema).workspace := by
  rw [Workspace.load, bind_eq_ok_iff] at h
  obtain ⟨schema, hparse, h⟩ := h
  cases h
  exact ⟨schema, hparse, rfl⟩

theorem Loaded.reachable (h : Loaded settings src w) : Reachable settings w := by
  induction h with
  | load h =>
    obtain ⟨schema, _, hw⟩ := workspace_of_load h
    rw [hw]
    exact Reachable.new.call (.add src _ schema)
  | setCurrent m _ ih => exact ih.call (.setCurrent m)

/-! ### Every symbol is declared -/

/-- A change of the current module leaves the files and the symbols as they are. -/
theorem run_setCurrent_tables (w : Workspace) (m : String) :
    ((Call.setCurrent m).run w).schemas = w.schemas ∧
      ((Call.setCurrent m).run w).symbols = w.symbols := by
  by_cases hm : m ∈ w.schemas.keys
  · rw [Call.run, setCurrent_of_mem hm]
    exact ⟨rfl, rfl⟩
  · rw [run_setCurrent_of_not_mem hm]
    exact ⟨rfl, rfl⟩

theorem Loaded.symbols_eq (h : Loaded settings src w) : w.symbols = mergedSymbols w.schemas := by
  induction h with
  | @load root r h =>
    obtain ⟨schema, hparse, hw⟩ := workspace_of_load h
    have hclosing := Traversal.Step.invariant Closing.step (closing_root settings hparse)
    have hfresh : (new settings).schemas.contains root.moduleName = false := rfl
    -- the refresh at the end changes neither of the tables
    rw [hw, add, hfresh]
    exact hclosing.gathered.symbols_eq
  | setCurrent m _ ih =>
    obtain ⟨hschemas, hsymbols⟩ := run_setCurrent_tables _ m
    rw [hschemas, hsymbols]
    exact ih

/-- What is found after tables were merged in was there before or comes from one of them. -/
theorem declared_of_get?_foldl {es : List (String × Schema)} {table : SymbolTable} {key : String}
    {symbol : Symbol}
    (h : (es.foldl (fun t e => t.extend (symbolsOf e.2 e.1).entries) table).get? key = some symbol) :
    table.get? key = some symbol ∨ ∃ e ∈ es, (key, symbol) ∈ e.2.symbolEntries e.1 := by
  induction es generalizing table with
  | nil => exact .inl h
  | cons e rest ih =>
    rcases ih h with hk | ⟨e', he', hk⟩
    · rcases OrderedMap.mem_or_get?_of_get?_extend hk with hk | hk
      · exact .inr ⟨e, List.mem_cons_self, mem_symbolEntries_of_mem_symbolsOf hk⟩
      · exact .inl hk
    · exact .inr ⟨e', List.mem_cons_of_mem _ he', hk⟩

/-- Every symbol of a loaded workspace is declared by a file that it holds. -/
theorem Loaded.declared_of_get? (h : Loaded settings src w) {key : String} {symbol : Symbol}
    (hk : w.symbols.get? key = some symbol) :
    ∃ m s, w.schemas.get? m = some s ∧ (key, symbol) ∈ s.symbolEntries m := by
  rw [h.symbols_eq, mergedSymbols] at hk
  rcases declared_of_get?_foldl hk with hk | ⟨⟨m, s⟩, he, hk⟩
  · cases hk
  · exact ⟨m, s, OrderedMap.get?_eq_some_iff.2 he, hk⟩

/-- A typedef in the table is a typedef of the file of its module. -/
theorem Loaded.typedef_of_alias (h : Loaded settings src w) {key m : String} {target : TypeExpr}
    (hk : w.symbols.get? key = some (.alias m target)) :
    ∃ s name, w.schemas.get? m = some s ∧ (name, target) ∈ s.typedefs.entries := by
  obtain ⟨m', s, hs, hdeclared⟩ := h.declared_of_get? hk
  rcases mem_symbolEntries_cases hdeclared with ⟨_, he⟩ | ⟨name, target', hmem, _, he⟩
  · cases he
  · obtain ⟨rfl, rfl⟩ := Symbol.alias.inj he
    exact ⟨s, name, hs, hmem⟩

/-! ### A forecast and what it shares -/

/-- A file with something of every category, most of it in terms of another file. -/
def forecastRoot : Schema :=
  { Schema.empty with
    includes := ["common.thrift"]
    typedefs := .ofList [("Day", .map (.named "common.Weather") (.named "common.Series"))]
    structs := .ofList [("Report", ⟨"Report", .struct,
      [⟨some 1, .required, .named "Day", "day", none⟩,
       ⟨some 2, .default, .named "common.Weather", "sky", some (.named "common.Weather.RAINY")⟩]⟩)]
    exceptions := .ofList [("Late", ⟨"Late", .exception, []⟩)]
    constants := .ofList [("USUAL", ⟨"USUAL", .list (.named "common.Weather"),
      .list [.named "common.Weather.SUNNY", .named "common.Weather.RAINY"]⟩)]
    services := .ofList [("Forecasts", ⟨"Forecasts", some "common.Base", .ofList
      [("today", ⟨"today", false, some (.named "Report"), [],
        [⟨some 1, .default, .named "Late", "late", none⟩]⟩)]⟩)] }

def forecastShared : Schema :=
  { Schema.empty with
    typedefs := .ofList [("Celsius", .primitive .double), ("Series", .list (.named "Celsius"))]
    enums := .ofList [("Weather", ⟨"Weather", [⟨"SUNNY", 0⟩, ⟨"RAINY", 7⟩]⟩)]
    services := .ofList [("Base", ⟨"Base", none, ∅⟩)] }

def forecastFiles : MemorySources :=
  (MemorySources.empty.insert ⟨"forecast.thrift"⟩ (.schema forecastRoot)).insert ⟨"common.thrift"⟩
    (.schema forecastShared)

/-- The two files, taken in one after the other. -/
def forecastModules : Workspace :=
  ((new .standard).register ⟨"forecast.thrift"⟩ forecastRoot).register ⟨"common.thrift"⟩
    forecastShared

/-- The forecast loaded, and the module that it shares made current. -/
def forecast : Workspace := (Call.setCurrent "common").run forecastModules.refresh

theorem forecast_loaded : Loaded .standard forecastFiles.toSources forecast := by
  have hload : Workspace.load .standard forecastFiles.toSources ⟨"forecast.thrift"⟩ =
      .ok ⟨forecastModules.refresh, [], [⟨"forecast.thrift"⟩, ⟨"common.thrift"⟩]⟩ :=
    load_pair rfl rfl (by decide) (by decide) rfl rfl
  exact (Loaded.load hload).setCurrent "common"

/-- A workspace of two files holds no other. -/
theorem cases_of_schemas {m m₁ m₂ : String} {s s₁ s₂ : Schema}
    (hw : w.schemas.entries = [(m₁, s₁), (m₂, s₂)]) (hs : w.schemas.get? m = some s) :
    m = m₁ ∧ s = s₁ ∨ m = m₂ ∧ s = s₂ := by
  have hmem := OrderedMap.get?_eq_some_iff.1 hs
  rw [hw, List.mem_pair, Prod.mk.injEq, Prod.mk.injEq] at hmem
  exact hmem

theorem forecast_files {m : String} {s : Schema} (hs : forecast.schemas.get? m = some s) :
    m = "forecast" ∧ s = forecastRoot ∨ m = "common" ∧ s = forecastShared :=
  cases_of_schemas rfl hs

/-- What its typedef stands for. -/
def forecastDay : Linked.Ty := .map (.named ⟨"common.Weather", .enum⟩) (.list (.primitive .double))

/-- The names in the types of the forecast, and what they stand for. -/
theorem forecast_denotes :
    Denotes forecast.symbols (some "forecast") (.named "common.Weather")
      (.named ⟨"common.Weather", .enum⟩) ∧
    Denotes forecast.symbols (some "forecast") (.named "Day") forecastDay ∧
    Denotes forecast.symbols (some "forecast") (.named "Report")
      (.named ⟨"forecast.Report", .record .struct⟩) ∧
    Denotes forecast.symbols (some "forecast") (.named "Late")
      (.named ⟨"forecast.Late", .record .exception⟩) ∧
    Denotes forecast.symbols (some "forecast") (.named "common.Base")
      (.named ⟨"common.Base", .service⟩) := by
  have hweather : Denotes forecast.symbols (some "forecast") (.named "common.Weather")
      (.named ⟨"common.Weather", .enum⟩) := .definition rfl
  have hseries : Denotes forecast.symbols (some "forecast") (.named "common.Series")
      (.list (.primitive .double)) := .typedef rfl (.list (.typedef rfl .primitive))
  exact ⟨hweather, .typedef rfl (.map hweather hseries), .definition rfl, .definition rfl,
    .definition rfl⟩

end IdlLink
