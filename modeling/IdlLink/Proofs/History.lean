/-
What holds of a workspace after any calls.

A `Call` adds a file or changes the current module, and a workspace is `Reachable` when calls lead to
it from the workspace without files.  Adding a file takes in whole closures of includes, and while it
does the views (`aliases`, `namespaces`) are out of date; so the invariant has two parts:

* `Sound` — the tables of modules and of symbols fit each other, at every moment of an addition;
* `UpToDate` — the views are what the tables say, after every refresh.

Both hold of every reachable workspace (`Reachable.sound`, `Reachable.upToDate`), and no call takes a
key away or moves one (`grows_run`).  `reachable_consistent` spells the two parts out.
-/
import IdlLink.Proofs.Following

namespace IdlLink

open Workspace

/-- What can be asked of a workspace. -/
inductive Call where
  | add (src : Sources) (path : SourcePath) (schema : Schema)
  | setCurrent (module : String)

/-- The workspace after a call; a refused change of the current module leaves it as it is. -/
def Call.run (w : Workspace) : Call → Workspace
  | .add src path schema => (w.add src path schema).workspace
  | .setCurrent module =>
    match w.setCurrent module with
    | .ok w' => w'
    | .error _ => w

/-- The workspaces that calls lead to. -/
inductive Reachable (settings : Settings) : Workspace → Prop
  | new : Reachable settings (.new settings)
  | call {w} (c : Call) : Reachable settings w → Reachable settings (c.run w)

/-- The tables of modules and of symbols fit each other. -/
structure Sound (settings : Settings) (w : Workspace) : Prop where
  settings_eq : w.settings = settings
  paths_keys : w.paths.keys = w.schemas.keys
  initial_eq : w.initial = w.schemas.keys.head?
  current_mem : ∀ {m}, w.current = some m → m ∈ w.schemas.keys
  aliases_of_none : w.current = none → w.aliases = ∅
  name_of_definition : ∀ {k e}, w.symbols.get? k = some (.definition e) → e.name = k
  module_of_alias : ∀ {k m target}, w.symbols.get? k = some (.alias m target) →
    m ∈ w.schemas.keys ∧ ∃ x, k = qualify m x
  declared : ∀ {m s}, w.schemas.get? m = some s → ∀ k ∈ (symbolsOf s m).keys, k ∈ w.symbols.keys

/-- The views say what the tables say. -/
structure UpToDate (w : Workspace) : Prop where
  namespaces_eq :
    w.namespaces = namespacesOf w.schemas w.settings.target w.settings.fallbackNamespace
  aliases_eq : ∀ {m}, w.current = some m → w.aliases = aliasesOf w.symbols m

variable {settings : Settings} {w : Workspace}

theorem Reachable.calls (h : Reachable settings w) (cs : List Call) :
    Reachable settings (cs.foldl Call.run w) := by
  induction cs generalizing w with
  | nil => exact h
  | cons c rest ih => exact ih (.call c h)

/-! ### The tables fit -/

theorem sound_new (settings : Settings) : Sound settings (.new settings) where
  settings_eq := rfl
  paths_keys := rfl
  initial_eq := rfl
  current_mem h := by cases h
  aliases_of_none _ := rfl
  name_of_definition h := by cases h
  module_of_alias h := by cases h
  declared h := by cases h

namespace Sound

/-- A file that is taken in brings symbols of its own module only, and none is lost. -/
theorem register (h : Sound settings w) (path : SourcePath) (schema : Schema) :
    Sound settings (w.register path schema) := by
  have hkeys : ∀ {k}, k ∈ w.symbols.keys → k ∈ (w.register path schema).symbols.keys := by
    intro k hk
    exact OrderedMap.mem_keys_extend.2 (.inl hk)
  -- a symbol of the new table is the file's, or was there before
  have hcases : ∀ {k symbol}, (w.register path schema).symbols.get? k = some symbol →
      (k, symbol) ∈ schema.symbolEntries path.moduleName ∨ w.symbols.get? k = some symbol := by
    intro k symbol hk
    rcases OrderedMap.mem_or_get?_of_get?_extend hk with hk | hk
    · exact .inl (mem_symbolEntries_of_mem_symbolsOf hk)
    · exact .inr hk
  refine ⟨h.settings_eq, ?_, ?_, ?_, h.aliases_of_none, ?_, ?_, ?_⟩
  · simp only [Workspace.register, OrderedMap.keys_insert, h.paths_keys]
  · -- the new module is the first one only when there was none before
    simp only [Workspace.register, OrderedMap.keys_insert, h.initial_eq]
    by_cases hm : path.moduleName ∈ w.schemas.keys
    · rw [if_pos hm]
      cases hk : w.schemas.keys with
      | nil => rw [hk] at hm; cases hm
      | cons _ _ => rfl
    · rw [if_neg hm]
      cases w.schemas.keys <;> rfl
  · intro m hm
    exact OrderedMap.mem_keys_insert.2 (.inr (h.current_mem hm))
  · intro k e hk
    rcases hcases hk with hk | hk
    · rcases mem_symbolEntries_cases hk with ⟨kind, he⟩ | ⟨_, _, _, _, he⟩
      · rw [Symbol.definition.inj he]
      · cases he
    · exact h.name_of_definition hk
  · intro k m target hk
    rcases hcases hk with hk | hk
    · rcases mem_symbolEntries_cases hk with ⟨_, he⟩ | ⟨name, _, _, hname, he⟩
      · cases he
      · rw [(Symbol.alias.inj he).1]
        exact ⟨OrderedMap.mem_keys_insert.2 (.inl rfl), name, hname⟩
    · obtain ⟨hm, hx⟩ := h.module_of_alias hk
      exact ⟨OrderedMap.mem_keys_insert.2 (.inr hm), hx⟩
  · intro m s hs k hk
    simp only [Workspace.register, OrderedMap.get?_insert] at hs
    -- the schema of the new module is the new one, of any other module the old one
    by_cases hm : m = path.moduleName
    · rw [if_pos hm, Option.some_inj] at hs
      subst hm hs
      exact OrderedMap.mem_keys_extend.2 (.inr hk)
    · rw [if_neg hm] at hs
      exact hkeys (h.declared hs k hk)

theorem markFailed (h : Sound settings w) (module : String) :
    Sound settings (w.markFailed module) := { h with }

theorem refresh (h : Sound settings w) : Sound settings w.refresh :=
  { h with
    aliases_of_none := by
      intro hc
      have haliases : w.refresh.aliases = w.aliases := by
        simp only [Workspace.refresh, show w.current = none from hc]
      rw [haliases]
      exact h.aliases_of_none hc }

theorem withCurrent (h : Sound settings w) {m : String} (hm : m ∈ w.schemas.keys) :
    Sound settings { w with current := some m } :=
  { h with
    current_mem := by
      intro m' hm'
      exact Option.some_inj.1 hm' ▸ hm
    aliases_of_none := by
      intro hc
      cases hc }

end Sound

/-! ### The views follow -/

theorem upToDate_new (settings : Settings) : UpToDate (.new settings) where
  namespaces_eq := rfl
  aliases_eq h := by cases h

theorem upToDate_refresh (w : Workspace) : UpToDate w.refresh where
  namespaces_eq := rfl
  aliases_eq := by
    intro m hm
    have hc : w.current = some m := hm
    simp only [Workspace.refresh, hc]

/-! ### Every call keeps both -/

theorem setCurrent_of_mem {m : String} (hm : m ∈ w.schemas.keys) :
    w.setCurrent m = .ok { w with current := some m }.refresh := by
  rw [setCurrent, if_pos (OrderedMap.contains_iff.2 hm)]

theorem setCurrent_of_not_mem {m : String} (hm : m ∉ w.schemas.keys) :
    w.setCurrent m = .error (.unknownModule m) := by
  rw [setCurrent, if_neg (fun h => hm (OrderedMap.contains_iff.1 h))]

theorem run_setCurrent_of_not_mem {m : String} (hm : m ∉ w.schemas.keys) :
    (Call.setCurrent m).run w = w := by
  rw [Call.run, setCurrent_of_not_mem hm]

/-- A call that changes anything ends in a refresh of a workspace whose tables fit. -/
theorem Sound.run (h : Sound settings w) (c : Call) :
    c.run w = w ∨ ∃ w', Sound settings w' ∧ c.run w = w'.refresh := by
  cases c with
  | add src path schema =>
    exact .inr (add_induction (fun p s hw => hw.register p s) (fun m hw => hw.markFailed m) h
      src path schema)
  | setCurrent m =>
    by_cases hm : m ∈ w.schemas.keys
    · refine .inr ⟨_, h.withCurrent hm, ?_⟩
      rw [Call.run, setCurrent_of_mem hm]
    · exact .inl (run_setCurrent_of_not_mem hm)

theorem Reachable.sound (h : Reachable settings w) : Sound settings w := by
  induction h with
  | new => exact sound_new settings
  | call c _ ih =>
    rcases ih.run c with hc | ⟨w', hw', hc⟩
    · rw [hc]
      exact ih
    · rw [hc]
      exact hw'.refresh

theorem Reachable.upToDate (h : Reachable settings w) : UpToDate w := by
  induction h with
  | new => exact upToDate_new settings
  | call c hw ih =>
    rcases hw.sound.run c with hc | ⟨w', _, hc⟩
    · rw [hc]
      exact ih
    · rw [hc]
      exact upToDate_refresh w'

/-- What registering keeps, and what says nothing of failures, of the current module and of the
views, holds after any calls. -/
theorem Reachable.tables_induction {P : Workspace → Prop} (hnew : P (.new settings))
    (hregister : ∀ {w} path schema, P w → P (w.register path schema))
    (hrest : ∀ {w} failed current aliases namespaces, P w →
      P { w with failed, current, aliases, namespaces })
    (h : Reachable settings w) : P w := by
  induction h with
  | new => exact hnew
  | @call w c _ ih =>
    cases c with
    | add src path schema =>
      obtain ⟨w', hw', he⟩ :=
        add_induction hregister (fun _ hw => hrest _ _ _ _ hw) ih src path schema
      rw [Call.run, he]
      exact hrest _ _ _ _ hw'
    | setCurrent m =>
      by_cases hm : m ∈ w.schemas.keys
      · rw [Call.run, setCurrent_of_mem hm]
        exact hrest (w := w) _ _ _ _ ih
      · rw [run_setCurrent_of_not_mem hm]
        exact ih

/-! ### Nothing is taken away -/

/-- Every table keeps its keys in their order and adds new ones behind them. -/
structure Grows (w w' : Workspace) : Prop where
  schemas : w.schemas.keys <+: w'.schemas.keys
  symbols : w.symbols.keys <+: w'.symbols.keys
  failed : w.failed <+: w'.failed

theorem Grows.refl (w : Workspace) : Grows w w :=
  ⟨List.prefix_refl _, List.prefix_refl _, List.prefix_refl _⟩

theorem Grows.register {w₀ : Workspace} (h : Grows w₀ w) (path : SourcePath) (schema : Schema) :
    Grows w₀ (w.register path schema) where
  schemas := h.schemas.trans (OrderedMap.keys_prefix_insert _ _ _)
  symbols := h.symbols.trans (OrderedMap.keys_prefix_extend _ _)
  failed := h.failed

theorem Grows.markFailed {w₀ : Workspace} (h : Grows w₀ w) (module : String) :
    Grows w₀ (w.markFailed module) where
  schemas := h.schemas
  symbols := h.symbols
  failed := h.failed.trans (List.prefix_append _ _)

theorem grows_run (w : Workspace) (c : Call) : Grows w (c.run w) := by
  cases c with
  | add src path schema =>
    obtain ⟨w', hw', he⟩ := add_induction (fun p s hw => hw.register p s)
      (fun m hw => hw.markFailed m) (Grows.refl w) src path schema
    rw [Call.run, he]
    exact ⟨hw'.schemas, hw'.symbols, hw'.failed⟩
  | setCurrent m =>
    by_cases hm : m ∈ w.schemas.keys
    · rw [Call.run, setCurrent_of_mem hm]
      exact ⟨List.prefix_refl _, List.prefix_refl _, List.prefix_refl _⟩
    · rw [run_setCurrent_of_not_mem hm]
      exact Grows.refl w

/-! ### The relations between the parts, spelled out -/

/-- How the parts of a workspace fit each other. -/
structure Consistent (settings : Settings) (w : Workspace) : Prop where
  settings_eq : w.settings = settings
  /-- The tables of modules list the same modules in the same order. -/
  modules : w.paths.keys = w.schemas.keys ∧ w.namespaces.keys = w.schemas.keys
  /-- The first of them is the initial one; there is none before the first file. -/
  initial_eq : w.initial = w.schemas.keys.head?
  current_mem : ∀ m, w.current = some m → m ∈ w.schemas.keys
  /-- The current module's names, and no others, can be used without it. -/
  aliases_iff : ∀ x k, w.aliases.get? x = some k ↔
    ∃ m, w.current = some m ∧ k = qualify m x ∧ k ∈ w.symbols.keys
  aliases_of_none : w.current = none → w.aliases = ∅
  name_of_definition : ∀ k e, w.symbols.get? k = some (.definition e) → e.name = k
  module_of_alias : ∀ k m target, w.symbols.get? k = some (.alias m target) →
    m ∈ w.schemas.keys ∧ ∃ x, k = m ++ "." ++ x
  /-- Whatever a file declares can be named. -/
  declared : ∀ m s, w.schemas.get? m = some s → ∀ k ∈ (symbolsOf s m).keys, k ∈ w.symbols.keys
  /-- A file has the namespace that it declares for the target, else the fallback. -/
  namespace_eq : ∀ m s, w.schemas.get? m = some s → w.namespaces.get? m =
    some (((s.namespaces.get? settings.target).map NamespaceDecl.value).or
      settings.fallbackNamespace)

theorem Sound.consistent (h : Sound settings w) (hv : UpToDate w) : Consistent settings w := by
  have haliases : ∀ x k, w.aliases.get? x = some k ↔
      ∃ m, w.current = some m ∧ k = qualify m x ∧ k ∈ w.symbols.keys := by
    intro x k
    cases hc : w.current with
    | none =>
      rw [h.aliases_of_none hc]
      constructor
      · intro hk
        cases hk
      · rintro ⟨m, hm, _⟩
        cases hm
    | some m =>
      rw [hv.aliases_eq hc, get?_aliasesOf]
      constructor
      · intro hk
        exact ⟨m, rfl, hk⟩
      · rintro ⟨m', hm', hk⟩
        cases hm'
        exact hk
  refine ⟨h.settings_eq, ⟨h.paths_keys, ?_⟩, h.initial_eq, fun m => h.current_mem, haliases,
    h.aliases_of_none, fun k e => h.name_of_definition, fun k m t => h.module_of_alias,
    fun m s => h.declared, ?_⟩
  · rw [hv.namespaces_eq, keys_namespacesOf]
  · intro m s hs
    rw [hv.namespaces_eq, get?_namespacesOf hs, h.settings_eq, Schema.namespaceFor]

/-- **Whatever calls are made, the parts fit each other.**  Moreover no call takes a key away or
moves one, and a module that is not there cannot become current. -/
theorem reachable_consistent (h : Reachable settings w) :
    Consistent settings w ∧ (∀ c : Call, Grows w (c.run w)) ∧
      ∀ m, m ∉ w.schemas.keys →
        w.setCurrent m = .error (.unknownModule m) ∧ (Call.setCurrent m).run w = w := by
  refine ⟨h.sound.consistent h.upToDate, grows_run w, fun m hm => ?_⟩
  exact ⟨setCurrent_of_not_mem hm, run_setCurrent_of_not_mem hm⟩

/-- What replaces the first file of the ring later; it has no namespace for the target. -/
def ringLater : Schema :=
  { Schema.empty with
    namespaces := .ofList [("java", ⟨"java", "com.ring"⟩)]
    includes := ["b.thrift"]
    typedefs := .ofList [("Other", .named "b.Id")] }

/-- A file is added with one that includes it back and one that is missing; a module of it is made
current, another one refused, and the first file replaced. -/
def ringHistory : Workspace :=
  [.add ringFiles.toSources ⟨"a.thrift"⟩ ringRoot, .setCurrent "b", .setCurrent "gone",
    .add ringFiles.toSources ⟨"a.thrift"⟩ ringLater].foldl Call.run (.new ringSettings)

theorem reachable_ringHistory : Reachable ringSettings ringHistory := Reachable.new.calls _

/-- The first of the calls is known by its steps; the others can be computed. -/
theorem ringHistory_eq : ringHistory =
    [.setCurrent "b", .setCurrent "gone", .add ringFiles.toSources ⟨"a.thrift"⟩ ringLater].foldl
      Call.run (ringModules.markFailed "gone").refresh := by
  have hstart : Call.run (.new ringSettings) (.add ringFiles.toSources ⟨"a.thrift"⟩ ringRoot) =
      (ringModules.markFailed "gone").refresh := by rw [Call.run, add_ring]
  rw [ringHistory, List.foldl_cons, hstart]

theorem ringHistory_consistent :
    Reachable ringSettings ringHistory ∧ Consistent ringSettings ringHistory ∧
      ("gone" ∉ ringHistory.schemas.keys ∧
        ringHistory.setCurrent "gone" = .error (.unknownModule "gone")) ∧
      ringHistory.schemas.keys = ["a", "b"] ∧ ringHistory.failed = ["gone"] ∧
      ringHistory.namespaces.entries = [("a", some "ring"), ("b", some "ring.b")] ∧
      ringHistory.aliases.entries = [("Id", "b.Id")] ∧
      ringHistory.symbols.keys = ["a.Root", "b.Id", "a.Other"] := by
  have hw := reachable_ringHistory
  have hgone : "gone" ∉ ringHistory.schemas.keys := by
    rw [ringHistory_eq]
    decide
  refine ⟨hw, (reachable_consistent hw).1, ⟨hgone, ((reachable_consistent hw).2.2 _ hgone).1⟩, ?_⟩
  rw [ringHistory_eq]
  decide

end IdlLink
