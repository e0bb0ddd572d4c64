/-
What loading a root takes in.

Loading is following the includes of the root.  Between two includes some files of the workspace have
includes that are still to come, so the workspace alone is not closed; what carries the argument is a
condition on the workspace together with the includes that are pending:

* `Gathered` — every file but the root was found by an include of an earlier one;
* `Reported` — the errors are those of the modules that failed;
* `Followed` — every include of every file has been dealt with, or is pending.

`Closing` says all of this of a traversal, one lemma for each kind of step shows that it stays, and
at the end nothing is pending (`load_closure`).
-/
import IdlLink.Proofs.Following
import Mathlib.Data.List.Forall2

open scoped List

namespace IdlLink

namespace Workspace

/-- The path that a module was read from, and its schema. -/
def Holds (w : Workspace) (m : String) (p : SourcePath) (s : Schema) : Prop :=
  w.paths.get? m = some p ∧ w.schemas.get? m = some s

/-- The file of a module has an include that is found at a path. -/
def Includes (settings : Settings) (src : Sources) (w : Workspace) (m : String)
    (path : SourcePath) : Prop :=
  ∃ p s, w.Holds m p s ∧ ∃ i ∈ s.includes, settings.locate src p.directory ⟨i⟩ = path

/-- Reading what some include leads to came to an error under a module's name. -/
def Refused (settings : Settings) (src : Sources) (w : Workspace) (m : String)
    (e : ParseError) : Prop :=
  ∃ m₀ path, Includes settings src w m₀ path ∧ path.moduleName = m ∧ src.parse path = .error e

end Workspace

/-- The symbols of files, merged in their order: a name keeps its first place and has its last
symbol. -/
def mergedSymbols (schemas : OrderedMap String Schema) : SymbolTable :=
  schemas.entries.foldl (fun table e => table.extend (symbolsOf e.2 e.1).entries) ∅

open Workspace

/-- The files of a workspace are a root and what was found by includes of earlier files. -/
structure Gathered (settings : Settings) (src : Sources) (root : SourcePath) (w : Workspace) :
    Prop where
  first : w.schemas.keys.head? = some root.moduleName
  root_held : ∃ s, w.Holds root.moduleName root s ∧ src.parse root = .ok s
  found : ∀ m ∈ w.schemas.keys, m ≠ root.moduleName → ∃ p s, w.Holds m p s ∧
    p.moduleName = m ∧ src.parse p = .ok s ∧
    -- the keys are distinct, so this puts `m₀` before `m`
    ∃ m₀, [m₀, m] <+ w.schemas.keys ∧ Includes settings src w m₀ p
  symbols_eq : w.symbols = mergedSymbols w.schemas

/-- Each failed module has one error, in the order of failure, and none of them is held. -/
structure Reported (settings : Settings) (src : Sources) (w : Workspace)
    (errors : List ParseError) : Prop where
  not_held : ∀ m ∈ w.failed, m ∉ w.schemas.keys
  nodup : w.failed.Nodup
  refused : List.Forall₂ (Refused settings src w) w.failed errors

/-- Every include of every file led to a module that is held or failed, or it is pending. -/
def Followed (settings : Settings) (src : Sources) (w : Workspace) (pending : List Pending) : Prop :=
  ∀ m path, Includes settings src w m path →
    path.moduleName ∈ w.schemas.keys ∨ path.moduleName ∈ w.failed ∨
      ∃ p ∈ pending, p.path settings src = path

/-- The state of a load between two includes. -/
structure Closing (settings : Settings) (src : Sources) (root : SourcePath) (t : Traversal) :
    Prop where
  settings_eq : t.workspace.settings = settings
  gathered : Gathered settings src root t.workspace
  reported : Reported settings src t.workspace t.errors
  followed : Followed settings src t.workspace t.pending
  /-- Whatever is pending is an include of a file. -/
  included : ∀ p ∈ t.pending, ∃ m, Includes settings src t.workspace m (p.path settings src)

variable {settings : Settings} {src : Sources} {root path : SourcePath} {w : Workspace}
  {m : String} {schema : Schema}

/-! ### What one more file changes -/

namespace Workspace

theorem Holds.mem_keys {p : SourcePath} {s : Schema} (h : w.Holds m p s) : m ∈ w.schemas.keys :=
  OrderedMap.mem_keys_of_get? h.2

theorem holds_register (w : Workspace) (path : SourcePath) (schema : Schema) :
    (w.register path schema).Holds path.moduleName path schema := by
  refine ⟨?_, ?_⟩
  · simp only [register, OrderedMap.get?_insert, if_true]
  · simp only [register, OrderedMap.get?_insert, if_true]

theorem holds_register_of_ne (hm : m ≠ path.moduleName) {p : SourcePath} {s : Schema} :
    (w.register path schema).Holds m p s ↔ w.Holds m p s := by
  simp only [Holds, register, OrderedMap.get?_insert, if_neg hm]

theorem Holds.register {p : SourcePath} {s : Schema} (hnew : path.moduleName ∉ w.schemas.keys)
    (h : w.Holds m p s) : (w.register path schema).Holds m p s :=
  (holds_register_of_ne fun he => hnew (he ▸ h.mem_keys)).2 h

theorem Includes.mem_keys {path' : SourcePath} (h : Includes settings src w m path') :
    m ∈ w.schemas.keys := by
  obtain ⟨_, _, hheld, _⟩ := h
  exact hheld.mem_keys

/-- A new file takes no include away. -/
theorem Includes.register {path' : SourcePath} (hnew : path.moduleName ∉ w.schemas.keys)
    (h : Includes settings src w m path') :
    Includes settings src (w.register path schema) m path' := by
  obtain ⟨p, s, hheld, hi⟩ := h
  exact ⟨p, s, hheld.register hnew, hi⟩

theorem includes_register (w : Workspace) {i : String} (hi : i ∈ schema.includes) :
    Includes settings src (w.register path schema) path.moduleName
      (settings.locate src path.directory ⟨i⟩) :=
  ⟨path, schema, holds_register w path schema, i, hi, rfl⟩

/-- The includes after a new file are its own and those of before. -/
theorem includes_register_cases {path' : SourcePath}
    (h : Includes settings src (w.register path schema) m path') :
    Includes settings src w m path' ∨
      ∃ p ∈ pendingOf path schema, p.path settings src = path' := by
  obtain ⟨p, s, hheld, i, hi, hpath⟩ := h
  by_cases hm : m = path.moduleName
  · subst hm
    have hnew := holds_register w path schema
    have hp : p = path := Option.some_inj.1 (hheld.1.symm.trans hnew.1)
    have hs : s = schema := Option.some_inj.1 (hheld.2.symm.trans hnew.2)
    subst hp hs
    exact .inr ⟨⟨p.directory, ⟨i⟩⟩, List.mem_map.2 ⟨i, hi, rfl⟩, hpath⟩
  · exact .inl ⟨p, s, (holds_register_of_ne hm).1 hheld, i, hi, hpath⟩

theorem Refused.register {e : ParseError} (hnew : path.moduleName ∉ w.schemas.keys)
    (h : Refused settings src w m e) : Refused settings src (w.register path schema) m e := by
  obtain ⟨m₀, path', hi, hname, hparse⟩ := h
  exact ⟨m₀, path', hi.register hnew, hname, hparse⟩

end Workspace

theorem mergedSymbols_insert {schemas : OrderedMap String Schema} (hm : m ∉ schemas.keys)
    (schema : Schema) :
    mergedSymbols (schemas.insert m schema) =
      (mergedSymbols schemas).extend (symbolsOf schema m).entries := by
  rw [mergedSymbols, OrderedMap.entries_insert_of_not_mem hm, List.foldl_append]
  rfl

/-! ### The root -/

/-- A workspace of the root alone, its includes pending. -/
theorem closing_root (settings : Settings) (h : src.parse root = .ok schema) :
    Closing settings src root
      ⟨(new settings).register root schema, [], [], pendingOf root schema⟩ where
  settings_eq := rfl
  gathered :=
    { first := rfl
      root_held := ⟨schema, holds_register _ root schema, h⟩
      found := by
        intro m hm hne
        rcases OrderedMap.mem_keys_insert.1 hm with he | he
        · exact absurd he hne
        · cases he
      symbols_eq := rfl }
  reported :=
    { not_held := fun _ hm => by cases hm
      nodup := List.nodup_nil
      refused := .nil }
  followed := by
    intro m path hi
    rcases includes_register_cases hi with ⟨_, _, hheld, _⟩ | hpending
    · -- nothing was held before the root
      cases hheld.1
    · exact .inr (.inr hpending)
  included := by
    intro p hp
    obtain ⟨i, hi, rfl⟩ := List.mem_map.1 hp
    exact ⟨_, includes_register _ hi⟩

/-! ### A module that is there already -/

/-- An include of a visited module has been dealt with. -/
theorem Followed.visited {p : Pending} {rest : List Pending}
    (hv : w.isVisited (p.path settings src).moduleName = true)
    (h : Followed settings src w (p :: rest)) : Followed settings src w rest := by
  intro m path hi
  rcases h m path hi with hk | hf | ⟨q, hq, hpath⟩
  · exact .inl hk
  · exact .inr (.inl hf)
  · rcases List.mem_cons.1 hq with rfl | hq
    · -- it is the include that comes first, and its module is there
      rw [hpath, isVisited_iff] at hv
      exact hv.imp_right .inl
    · exact .inr (.inr ⟨q, hq, hpath⟩)

/-! ### A file that is refused -/

theorem Reported.markFailed {errors : List ParseError} {e : ParseError}
    (hv : w.isVisited m = false) (hr : Refused settings src w m e)
    (h : Reported settings src w errors) :
    Reported settings src (w.markFailed m) (errors ++ [e]) := by
  obtain ⟨hk, hf⟩ := isVisited_eq_false.1 hv
  refine ⟨fun m' hm' => ?_, ?_, ?_⟩
  · rcases List.mem_append.1 hm' with hm' | hm'
    · exact h.not_held m' hm'
    · rw [List.mem_singleton.1 hm']
      exact hk
  · refine List.nodup_append.2 ⟨h.nodup, by simp, fun a ha b hb => ?_⟩
    rw [List.mem_singleton.1 hb]
    exact fun he => hf (he ▸ ha)
  · exact List.rel_append h.refused (.cons hr .nil)

theorem Followed.markFailed {p : Pending} {rest : List Pending}
    (hname : (p.path settings src).moduleName = m) (h : Followed settings src w (p :: rest)) :
    Followed settings src (w.markFailed m) rest := by
  refine Followed.visited (p := p) ?_ fun m' path hi => ?_
  · rw [hname]
    exact isVisited_markFailed.2 (.inl rfl)
  · rcases h m' path hi with hk | hf | hp
    · exact .inl hk
    · exact .inr (.inl (List.mem_append_left _ hf))
    · exact .inr (.inr hp)

/-! ### A file that is read -/

theorem Gathered.register {m₀ : String} (hnew : path.moduleName ∉ w.schemas.keys)
    (hparse : src.parse path = .ok schema) (hi : Includes settings src w m₀ path)
    (h : Gathered settings src root w) :
    Gathered settings src root (w.register path schema) := by
  have hkeys : (w.register path schema).schemas.keys = w.schemas.keys ++ [path.moduleName] :=
    OrderedMap.keys_insert_of_not_mem hnew schema
  refine ⟨?_, ?_, fun m hm hne => ?_, ?_⟩
  · rw [hkeys, List.head?_append, h.first]
    rfl
  · obtain ⟨s, hs, hp⟩ := h.root_held
    exact ⟨s, hs.register hnew, hp⟩
  · rw [hkeys] at hm ⊢
    rcases List.mem_append.1 hm with hm | hm
    · obtain ⟨p, s, hs, hname, hp, m₁, hbefore, hi₁⟩ := h.found m hm hne
      exact ⟨p, s, hs.register hnew, hname, hp, m₁,
        hbefore.trans (List.sublist_append_left _ _), hi₁.register hnew⟩
    · -- the new file comes last, so the one that includes it stands before it
      have hbefore : [m₀] ++ [path.moduleName] <+ w.schemas.keys ++ [path.moduleName] :=
        (List.singleton_sublist.2 hi.mem_keys).append (List.Sublist.refl _)
      rw [List.mem_singleton.1 hm]
      exact ⟨path, schema, holds_register w path schema, rfl, hparse, m₀, hbefore,
        hi.register hnew⟩
  · calc w.symbols.extend (symbolsOf schema path.moduleName).entries
        = (mergedSymbols w.schemas).extend (symbolsOf schema path.moduleName).entries := by
          rw [h.symbols_eq]
      _ = mergedSymbols (w.schemas.insert path.moduleName schema) :=
          (mergedSymbols_insert hnew schema).symm

theorem Reported.register {errors : List ParseError} (hv : w.isVisited path.moduleName = false)
    (h : Reported settings src w errors) :
    Reported settings src (w.register path schema) errors := by
  obtain ⟨hk, hf⟩ := isVisited_eq_false.1 hv
  refine ⟨fun m hm hm' => ?_, h.nodup, h.refused.imp fun _ _ hr => hr.register hk⟩
  rcases OrderedMap.mem_keys_insert.1 hm' with rfl | hm'
  · exact hf hm
  · exact h.not_held m hm hm'

theorem Followed.register {p : Pending} {rest : List Pending}
    (hpath : p.path settings src = path) (h : Followed settings src w (p :: rest)) :
    Followed settings src (w.register path schema) (pendingOf path schema ++ rest) := by
  intro m path' hi
  rcases includes_register_cases hi with hi | ⟨q, hq, hqpath⟩
  · rcases h m path' hi with hk | hf | ⟨q, hq, hqpath⟩
    · exact .inl (OrderedMap.mem_keys_insert.2 (.inr hk))
    · exact .inr (.inl hf)
    · rcases List.mem_cons.1 hq with rfl | hq
      · -- it is the include that led to the new file
        rw [← hqpath, hpath]
        exact .inl (OrderedMap.mem_keys_insert.2 (.inl rfl))
      · exact .inr (.inr ⟨q, List.mem_append_right _ hq, hqpath⟩)
  · exact .inr (.inr ⟨q, List.mem_append_left _ hq, hqpath⟩)

/-! ### A whole load -/

/-- Every step of a load leaves a closing workspace closing. -/
theorem Closing.step {t t' : Traversal} (hstep : t.Step src t')
    (h : Closing settings src root t) : Closing settings src root t' := by
  cases hstep with
  | visited hv =>
    obtain ⟨rfl, hg, hr, hf, hi⟩ := h
    exact ⟨rfl, hg, hr, hf.visited hv, fun q hq => hi q (List.mem_cons_of_mem _ hq)⟩
  | @refused w es rs p rest path e hpath hv hparse =>
    obtain ⟨rfl, hg, hr, hf, hi⟩ := h
    obtain ⟨m₀, hm₀⟩ := hi p List.mem_cons_self
    rw [hpath] at hm₀
    have hrefused : Refused w.settings src w path.moduleName e := ⟨m₀, path, hm₀, rfl, hparse⟩
    exact ⟨rfl, ⟨hg.first, hg.root_held, hg.found, hg.symbols_eq⟩, hr.markFailed hv hrefused,
      hf.markFailed (hpath ▸ rfl), fun q hq => hi q (List.mem_cons_of_mem _ hq)⟩
  | @read w es rs p rest path schema hpath hv hparse =>
    obtain ⟨rfl, hg, hr, hf, hi⟩ := h
    obtain ⟨hnew, _⟩ := isVisited_eq_false.1 hv
    -- what was pending is an include of a file held by now, and that file comes before the new one
    obtain ⟨m₀, hm₀⟩ := hi p List.mem_cons_self
    rw [hpath] at hm₀
    refine ⟨rfl, hg.register hnew hparse hm₀, hr.register hv, hf.register hpath, fun q hq => ?_⟩
    rcases List.mem_append.1 hq with hq | hq
    · obtain ⟨i, hi, rfl⟩ := List.mem_map.1 hq
      exact ⟨_, includes_register w hi⟩
    · obtain ⟨m, hm⟩ := hi q (List.mem_cons_of_mem _ hq)
      exact ⟨m, hm.register hnew⟩

theorem load_eq_error_iff {e : ParseError} :
    load settings src root = .error e ↔ src.parse root = .error e := by
  cases hp : src.parse root with
  | error e' =>
    rw [load, hp]
    constructor
    · intro h
      cases h
      rfl
    · intro h
      cases h
      rfl
  | ok schema =>
    -- whatever becomes of the includes, there is a workspace
    rw [load_of_ok settings hp]
    constructor
    · intro h
      cases h
    · intro h
      cases h

/-- **Loading takes in the closure of the root.**  It fails only where the root cannot be read.  The
workspace holds the root and what includes of its files lead to, each under the name of its module
and as it was read; no include is left out but those that were refused, which are the errors; and
the symbols are those of the files, in order. -/
theorem load_closure (settings : Settings) (src : Sources) (root : SourcePath) :
    (∀ e, load settings src root = .error e ↔ src.parse root = .error e) ∧
      ∀ r, load settings src root = .ok r →
        Gathered settings src root r.workspace ∧
        (∀ m path, Includes settings src r.workspace m path →
          path.moduleName ∈ r.workspace.schemas.keys ∨ path.moduleName ∈ r.workspace.failed) ∧
        Reported settings src r.workspace r.errors := by
  refine ⟨fun e => load_eq_error_iff, fun r h => ?_⟩
  cases hp : src.parse root with
  | error e =>
    rw [load_eq_error_iff.2 hp] at h
    cases h
  | ok schema =>
    rw [load_of_ok settings hp] at h
    cases h
    obtain ⟨_, hg, hr, hf, _⟩ := Traversal.Step.invariant Closing.step (closing_root settings hp)
    -- a refresh touches neither the files nor the symbols
    refine ⟨⟨hg.first, hg.root_held, hg.found, hg.symbols_eq⟩, fun m path hi => ?_,
      hr.not_held, hr.nodup, hr.refused⟩
    rcases hf m path hi with hk | hfailed | ⟨_, hnone, _⟩
    · exact .inl hk
    · exact .inr hfailed
    · cases hnone

/-! ### A voyage through several directories -/

/-- Of its includes one is beside it, one on an include path, one only at the path as written, and
one nowhere. -/
def voyageRoot : Schema :=
  { Schema.empty with
    includes := ["north.thrift", "units.thrift", "plain.thrift", "lost.thrift"]
    typedefs := .ofList [("Voyage", .list (.named "north.Map"))] }

/-- A file that includes the root back. -/
def voyageNorth : Schema :=
  { Schema.empty with
    includes := ["voyage.thrift", "units.thrift"]
    typedefs := .ofList [("Map", .list (.named "units.Scale"))] }

def voyageUnits : Schema :=
  { Schema.empty with
    typedefs := .ofList [("Scale", .primitive .i32)] }

def voyageSettings : Settings := ⟨["new", "lib", "old"], none, "rs"⟩

/-- What `lib/north.thrift` and `old/units.thrift` hold is never read. -/
def voyageFiles : MemorySources :=
  (((((MemorySources.empty.insert ⟨"maps/voyage.thrift"⟩ (.schema voyageRoot)).insert
    ⟨"maps/north.thrift"⟩ (.schema voyageNorth)).insert ⟨"lib/north.thrift"⟩
    (.schema .empty)).insert ⟨"lib/units.thrift"⟩ (.schema voyageUnits)).insert ⟨"old/units.thrift"⟩
    (.schema .empty)).insert ⟨"plain.thrift"⟩ (.schema .empty)

/-- Beside the including file comes before the include paths, an earlier include path before a later
one, and the path as written last. -/
theorem voyage_finds :
    voyageSettings.Finds voyageFiles.toSources ⟨"maps"⟩ ⟨"voyage.thrift"⟩ ⟨"maps/voyage.thrift"⟩ ∧
      voyageSettings.Finds voyageFiles.toSources ⟨"maps"⟩ ⟨"north.thrift"⟩ ⟨"maps/north.thrift"⟩ ∧
      voyageSettings.Finds voyageFiles.toSources ⟨"maps"⟩ ⟨"units.thrift"⟩ ⟨"lib/units.thrift"⟩ ∧
      voyageSettings.Finds voyageFiles.toSources ⟨"maps"⟩ ⟨"plain.thrift"⟩ ⟨"plain.thrift"⟩ ∧
      voyageSettings.Finds voyageFiles.toSources ⟨"maps"⟩ ⟨"lost.thrift"⟩ ⟨"lost.thrift"⟩ := by
  have hpaths : voyageSettings.includePaths = ["new"] ++ "lib" :: ["old"] := rfl
  exact ⟨.beside (by decide), .beside (by decide), .onPath (by decide) hpaths (by decide) (by decide),
    .asWritten (by decide) (by decide), .asWritten (by decide) (by decide)⟩

/-- The first of the files that are read, taken in one after the other. -/
def voyageModules (n : Nat) : Workspace :=
  ([(⟨"maps/voyage.thrift"⟩, voyageRoot), (⟨"maps/north.thrift"⟩, voyageNorth),
    (⟨"lib/units.thrift"⟩, voyageUnits), (⟨"plain.thrift"⟩, .empty)].take n).foldl
      (fun w f => w.register f.1 f.2) (new voyageSettings)

/-- Includes of a file in the directory of the maps. -/
abbrev inMaps (includes : List String) : List Pending := includes.map fun i => ⟨⟨"maps"⟩, ⟨i⟩⟩

theorem pendingOf_inMaps {path : SourcePath} (h : path.directory = ⟨"maps"⟩) (schema : Schema) :
    pendingOf path schema = inMaps schema.includes := by
  rw [pendingOf, h]

theorem follow_voyage :
    ((new voyageSettings).register ⟨"maps/voyage.thrift"⟩ voyageRoot).follow voyageFiles.toSources
        (pendingOf ⟨"maps/voyage.thrift"⟩ voyageRoot) =
      ⟨(voyageModules 4).markFailed "lost", [⟨⟨"lost.thrift"⟩, "no such file"⟩],
        [⟨"maps/north.thrift"⟩, ⟨"lib/units.thrift"⟩, ⟨"plain.thrift"⟩, ⟨"lost.thrift"⟩]⟩ := by
  obtain ⟨hback, hnorth, hunits, hplain, hlost⟩ := voyage_finds
  rw [← Settings.locate_eq_iff] at hback hnorth hunits hplain hlost
  -- from the last include to the first
  have hfourth : (voyageModules 4).follow voyageFiles.toSources (inMaps ["lost.thrift"]) =
      ⟨(voyageModules 4).markFailed "lost", [⟨⟨"lost.thrift"⟩, "no such file"⟩],
        [⟨"lost.thrift"⟩]⟩ :=
    follow_last_of_error hlost (by decide) rfl (by decide)
  have hthird : (voyageModules 3).follow voyageFiles.toSources
        (inMaps ["units.thrift", "plain.thrift", "lost.thrift"]) =
      ⟨(voyageModules 4).markFailed "lost", [⟨⟨"lost.thrift"⟩, "no such file"⟩],
        [⟨"plain.thrift"⟩, ⟨"lost.thrift"⟩]⟩ := by
    calc (voyageModules 3).follow voyageFiles.toSources
          (inMaps ["units.thrift", "plain.thrift", "lost.thrift"])
        = (voyageModules 3).follow voyageFiles.toSources (inMaps ["plain.thrift", "lost.thrift"]) :=
          follow_of_visited hunits (by decide)
      _ = _ := follow_of_ok_eq hplain (by decide) rfl rfl hfourth
  have hsecond : (voyageModules 2).follow voyageFiles.toSources (inMaps ["voyage.thrift",
        "units.thrift", "units.thrift", "plain.thrift", "lost.thrift"]) =
      ⟨(voyageModules 4).markFailed "lost", [⟨⟨"lost.thrift"⟩, "no such file"⟩],
        [⟨"lib/units.thrift"⟩, ⟨"plain.thrift"⟩, ⟨"lost.thrift"⟩]⟩ := by
    calc (voyageModules 2).follow voyageFiles.toSources (inMaps ["voyage.thrift",
          "units.thrift", "units.thrift", "plain.thrift", "lost.thrift"])
        = (voyageModules 2).follow voyageFiles.toSources (inMaps ["units.thrift",
            "units.thrift", "plain.thrift", "lost.thrift"]) :=
          follow_of_visited hback (by decide)
      _ = _ := follow_of_ok_eq hunits (by decide) rfl rfl hthird
  have hfirst : (voyageModules 1).follow voyageFiles.toSources
        (inMaps ["north.thrift", "units.thrift", "plain.thrift", "lost.thrift"]) =
      ⟨(voyageModules 4).markFailed "lost", [⟨⟨"lost.thrift"⟩, "no such file"⟩],
        [⟨"maps/north.thrift"⟩, ⟨"lib/units.thrift"⟩, ⟨"plain.thrift"⟩, ⟨"lost.thrift"⟩]⟩ := by
    refine follow_of_ok_eq hnorth (by decide) rfl ?_ hsecond
    rw [pendingOf_inMaps (by decide)]
    rfl
  rw [pendingOf_inMaps (by decide)]
  exact hfirst

/-- The voyage is closed although it leads back to its root: four files, each from the first place
that has one, and one that is missing. -/
theorem load_voyage :
    ∃ r, load voyageSettings voyageFiles.toSources ⟨"maps/voyage.thrift"⟩ = .ok r ∧
      (Gathered voyageSettings voyageFiles.toSources ⟨"maps/voyage.thrift"⟩ r.workspace ∧
        (∀ m path, Includes voyageSettings voyageFiles.toSources r.workspace m path →
          path.moduleName ∈ r.workspace.schemas.keys ∨ path.moduleName ∈ r.workspace.failed) ∧
        Reported voyageSettings voyageFiles.toSources r.workspace r.errors) ∧
      r.workspace.paths.entries =
        [("voyage", ⟨"maps/voyage.thrift"⟩), ("north", ⟨"maps/north.thrift"⟩),
          ("units", ⟨"lib/units.thrift"⟩), ("plain", ⟨"plain.thrift"⟩)] ∧
      r.errors = [⟨⟨"lost.thrift"⟩, "no such file"⟩] ∧ r.workspace.failed = ["lost"] ∧
      r.workspace.symbols.keys = ["voyage.Voyage", "north.Map", "units.Scale"] := by
  have hparse : voyageFiles.toSources.parse ⟨"maps/voyage.thrift"⟩ = .ok voyageRoot := rfl
  have hload := load_of_ok voyageSettings hparse
  rw [follow_voyage] at hload
  refine ⟨_, hload, (load_closure _ _ _).2 _ hload, ?_⟩
  decide

end IdlLink
