/-
What a file that is added later leaves as it is.

A new file and its includes enter symbols under the names of modules that were not there.  Without
points in the names of modules a key tells its module, so none of these symbols takes the place of an
old one, and none comes before one that an old module finds.  What resolved before therefore resolves
to the same:

* `Extends` — the relation between a workspace and one with more files, kept by every step of an
  addition (`extends_add`);
* `Extends.preserves` — old modules find what they found;
* `Preserves.resolveTypeIn`, `Preserves.resolveValue` — so a result is kept, unless it was that a name
  is not found;
* `add_keeps_meanings` — the same for the scopes of the workspace, whichever module is current.

Design notes: which modules are added is known only at the end of an addition, so `Extends` speaks of
keys and not of names without points; those are needed once, to tell the keys apart.
-/
import IdlLink.Proofs.Outcome
import IdlLink.Proofs.Overlay

namespace IdlLink

open Workspace

variable {settings : Settings} {src : Sources} {w w₀ : Workspace}

/-! ### Keys and their modules -/

/-- Every key of a workspace starts with one of its modules. -/
def Workspace.Owned (w : Workspace) : Prop :=
  ∀ key ∈ w.symbols.keys, ∃ m ∈ w.schemas.keys, ∃ name, key = qualify m name

theorem Workspace.Owned.register (h : w.Owned) (path : SourcePath) (schema : Schema) :
    (w.register path schema).Owned := by
  intro key hkey
  rcases OrderedMap.mem_keys_extend.1 hkey with hkey | hkey
  · obtain ⟨m, hm, hname⟩ := h key hkey
    exact ⟨m, OrderedMap.mem_keys_insert.2 (.inr hm), hname⟩
  · exact ⟨_, OrderedMap.mem_keys_insert.2 (.inl rfl), mem_keys_symbolsOf hkey⟩

theorem Reachable.owned (h : Reachable settings w) : w.Owned :=
  h.tables_induction (fun _ hkey => by cases hkey) (fun path schema hw => hw.register path schema)
    (fun _ _ _ _ hw => hw)

/-! ### A workspace with more files -/

/-- The later workspace has the modules of the earlier one, and where its symbols differ the key is
one of a module that is new. -/
structure Extends (w₀ w : Workspace) : Prop where
  mem_schemas : ∀ {m}, m ∈ w₀.schemas.keys → m ∈ w.schemas.keys
  get?_symbols : ∀ key, w.symbols.get? key = w₀.symbols.get? key ∨
    ∃ m ∈ w.schemas.keys, m ∉ w₀.schemas.keys ∧ ∃ name, key = qualify m name

namespace Extends

theorem refl (w : Workspace) : Extends w w := ⟨id, fun _ => .inl rfl⟩

theorem markFailed (h : Extends w₀ w) (m : String) : Extends w₀ (w.markFailed m) :=
  ⟨h.mem_schemas, h.get?_symbols⟩

/-- A file of a new module gives entries to keys of that module only. -/
theorem register (h : Extends w₀ w) {path : SourcePath} (hnew : path.moduleName ∉ w.schemas.keys)
    (schema : Schema) : Extends w₀ (w.register path schema) where
  mem_schemas hm := OrderedMap.mem_keys_insert.2 (.inr (h.mem_schemas hm))
  get?_symbols key := by
    by_cases hkey : key ∈ (symbolsOf schema path.moduleName).keys
    · refine .inr ⟨path.moduleName, OrderedMap.mem_keys_insert.2 (.inl rfl), ?_,
        mem_keys_symbolsOf hkey⟩
      exact fun hold => hnew (h.mem_schemas hold)
    · have hkept : (w.register path schema).symbols.get? key = w.symbols.get? key :=
        OrderedMap.get?_extend_of_not_mem hkey
      rw [hkept]
      rcases h.get?_symbols key with hold | ⟨m, hm, hadded, hname⟩
      · exact .inl hold
      · exact .inr ⟨m, OrderedMap.mem_keys_insert.2 (.inr hm), hadded, hname⟩

theorem step {t t' : Traversal} (hstep : t.Step src t') (h : Extends w₀ t.workspace) :
    Extends w₀ t'.workspace := by
  cases hstep with
  | visited _ => exact h
  | refused _ _ _ => exact h.markFailed _
  | read _ hv _ => exact h.register (isVisited_eq_false.1 hv).1 _

end Extends

/-- Adding a file of a new module extends the workspace, whatever is included on the way. -/
theorem extends_add (w : Workspace) (src : Sources) {path : SourcePath}
    (hnew : path.moduleName ∉ w.schemas.keys) (schema : Schema) :
    Extends w (w.add src path schema).workspace := by
  have hroot : Extends w (w.register path schema) := (Extends.refl w).register hnew schema
  have hrun : Extends w ((w.register path schema).follow src (pendingOf path schema)).workspace :=
    Traversal.Step.invariant (P := fun t => Extends w t.workspace) Extends.step hroot
  have hfirst : ¬ w.schemas.contains path.moduleName = true :=
    fun hc => hnew (OrderedMap.contains_iff.1 hc)
  rw [add, if_neg hfirst]
  -- the last refresh touches neither modules nor symbols
  exact ⟨hrun.mem_schemas, hrun.get?_symbols⟩

/-! ### Old modules find what they found -/

/-- From inside some modules, and from wherever their typedefs lead, all that the one table finds is
found in the other. -/
structure Preserves (modules : List String) (old new : SymbolTable) : Prop where
  lookup : ∀ {m}, m ∈ modules → ∀ {name e},
    (Scope.of old (some m)).lookup name = some e → (Scope.of new (some m)).lookup name = some e
  module_of_alias : ∀ {key m target}, old.get? key = some (.alias m target) → m ∈ modules

/-- Without points in the names of modules a new key cannot look like an old one. -/
theorem Extends.get?_qualify (h : Extends w₀ w) (hplain : ∀ m ∈ w.schemas.keys, '.' ∉ m.toList)
    {m : String} (hm : m ∈ w₀.schemas.keys) (name : String) :
    w.symbols.get? (qualify m name) = w₀.symbols.get? (qualify m name) := by
  rcases h.get?_symbols (qualify m name) with hkept | ⟨m', hm', hadded, name', hname⟩
  · exact hkept
  · obtain ⟨rfl, _⟩ := qualify_inj (hplain m (h.mem_schemas hm)) (hplain m' hm') hname
    exact absurd hm hadded

theorem Extends.preserves (h : Extends w₀ w) (hsound : Sound settings w₀) (howned : w₀.Owned)
    (hplain : ∀ m ∈ w.schemas.keys, '.' ∉ m.toList) :
    Preserves w₀.schemas.keys w₀.symbols w.symbols where
  module_of_alias hk := (hsound.module_of_alias hk).1
  lookup {m} hm {name} e hlook := by
    have hlocal : (Scope.of w.symbols (some m)).lookupLocal name =
        (Scope.of w₀.symbols (some m)).lookupLocal name := by
      simp only [Scope.lookupLocal, Scope.of, SymbolTable.pair?, h.get?_qualify hplain hm]
    rw [Scope.lookup, hlocal]
    rcases Option.or_eq_some_iff.1 hlook with hfound | ⟨hnone, hfound⟩
    · rw [hfound, Option.some_or]
    · -- the name is a key that was there, so it is one of an old module
      have hkey : name ∈ w₀.symbols.keys := by
        obtain ⟨_, hsymbol, _⟩ := Option.map_eq_some_iff.1 hfound
        exact OrderedMap.mem_keys_of_get? hsymbol
      obtain ⟨m', hm', name', hname⟩ := howned name hkey
      have hkept : w.symbols.get? name = w₀.symbols.get? name := by
        rw [hname]
        exact h.get?_qualify hplain hm' name'
      rw [hnone, Option.none_or, ← hfound]
      simp only [Scope.of, SymbolTable.pair?, hkept]

/-! ### What resolved resolves to the same -/

/-- The later result is the earlier one, or that was that some name is not found. -/
def Kept {α : Type} (earlier later : Except ResolveError α) : Prop :=
  later = earlier ∨ ∃ n m, earlier = .error (.unresolved n m)

namespace Kept

variable {α β : Type} {x y : Except ResolveError α}

theorem refl (x : Except ResolveError α) : Kept x x := .inl rfl

theorem map (h : Kept x y) (f : α → β) : Kept (f <$> x) (f <$> y) := by
  rcases h with rfl | ⟨n, m, rfl⟩
  · exact refl _
  · exact .inr ⟨n, m, rfl⟩

theorem bind {f g : α → Except ResolveError β} (h : Kept x y) (hf : ∀ a, Kept (f a) (g a)) :
    Kept (x >>= f) (y >>= g) := by
  rcases h with rfl | ⟨n, m, rfl⟩
  · cases y with
    | error e => exact refl _
    | ok a => exact hf a
  · exact .inr ⟨n, m, rfl⟩

theorem eq_ok (h : Kept x y) {a : α} (hx : x = .ok a) : y = .ok a := by
  rcases h with rfl | ⟨n, m, rfl⟩
  · exact hx
  · cases hx

theorem eq_cyclic (h : Kept x y) {chain : List String} (hx : x = .error (.cyclic chain)) :
    y = .error (.cyclic chain) := by
  rcases h with rfl | ⟨n, m, rfl⟩
  · exact hx
  · cases hx

theorem unresolved_of_ne (h : Kept x y) (hne : y ≠ x) : ∃ n m, x = .error (.unresolved n m) :=
  h.resolve_left hne

end Kept

namespace Preserves

variable {modules : List String} {old new : SymbolTable} {m : String}

/-- A type keeps its result in whatever module its typedefs lead to. -/
theorem resolveTypeIn (h : Preserves modules old new) (hm : m ∈ modules) (chain : List String)
    (t : TypeExpr) : Kept ((Scope.of old (some m)).resolveTypeIn chain t)
      ((Scope.of new (some m)).resolveTypeIn chain t) := by
  generalize hs : Scope.of old (some m) = s
  -- the induction follows the earlier table, and stays in modules that it had
  induction s, chain, t using Scope.resolveTypeIn.induct generalizing m with
  | case1 s chain p =>
    rw [Scope.resolveTypeIn, Scope.resolveTypeIn]
    exact .refl _
  | case2 s chain t ih =>
    rw [Scope.resolveTypeIn, Scope.resolveTypeIn]
    exact (ih hm hs).map _
  | case3 s chain t ih =>
    rw [Scope.resolveTypeIn, Scope.resolveTypeIn]
    exact (ih hm hs).map _
  | case4 s chain k v ihk ihv =>
    rw [Scope.resolveTypeIn, Scope.resolveTypeIn]
    exact (ihk hm hs).bind fun _ => (ihv hm hs).bind fun _ => .refl _
  | case5 s chain name hn =>
    rw [Scope.resolveTypeIn_of_unknown hn]
    exact .inr ⟨_, _, rfl⟩
  | case6 s chain name key symbol hn hc =>
    subst hs
    rw [Scope.resolveTypeIn_of_entered hn hc, Scope.resolveTypeIn_of_entered (h.lookup hm hn) hc]
    exact .refl _
  | case7 s chain name key hc e hn _ =>
    subst hs
    rw [Scope.resolveTypeIn_of_definition hn hc,
      Scope.resolveTypeIn_of_definition (h.lookup hm hn) hc]
    exact .refl _
  | case8 s chain name key hc m' target hn _ ih =>
    subst hs
    rw [Scope.resolveTypeIn_of_alias hn hc, Scope.resolveTypeIn_of_alias (h.lookup hm hn) hc,
      Scope.enter_of new]
    exact ih (h.module_of_alias (Scope.get?_of_lookup hn)) (Scope.enter_of old _ m').symm

mutual

theorem resolveValue (h : Preserves modules old new) (hm : m ∈ modules) : ∀ c,
    Kept ((Scope.of old (some m)).resolveValue c) ((Scope.of new (some m)).resolveValue c)
  | .bool _ => by
    rw [Scope.resolveValue, Scope.resolveValue]
    exact .refl _
  | .int _ => by
    rw [Scope.resolveValue, Scope.resolveValue]
    exact .refl _
  | .double _ => by
    rw [Scope.resolveValue, Scope.resolveValue]
    exact .refl _
  | .string _ => by
    rw [Scope.resolveValue, Scope.resolveValue]
    exact .refl _
  | .list items => by
    rw [Scope.resolveValue, Scope.resolveValue]
    exact (h.resolveItems hm items).map _
  | .map entries => by
    rw [Scope.resolveValue, Scope.resolveValue]
    exact (h.resolveEntries hm entries).map _
  | .named name => by
    rw [Scope.resolveValue, Scope.resolveValue]
    cases hlook : (Scope.of old (some m)).lookup name with
    | none => exact .inr ⟨_, _, rfl⟩
    | some e =>
      rw [h.lookup hm hlook]
      exact .refl _

theorem resolveItems (h : Preserves modules old new) (hm : m ∈ modules) : ∀ cs,
    Kept ((Scope.of old (some m)).resolveItems cs) ((Scope.of new (some m)).resolveItems cs)
  | [] => by
    rw [Scope.resolveItems, Scope.resolveItems]
    exact .refl _
  | c :: rest => by
    rw [Scope.resolveItems, Scope.resolveItems]
    exact (h.resolveValue hm c).bind fun _ => (h.resolveItems hm rest).bind fun _ => .refl _

theorem resolveEntries (h : Preserves modules old new) (hm : m ∈ modules) : ∀ es,
    Kept ((Scope.of old (some m)).resolveEntries es) ((Scope.of new (some m)).resolveEntries es)
  | [] => by
    rw [Scope.resolveEntries, Scope.resolveEntries]
    exact .refl _
  | (k, v) :: rest => by
    rw [Scope.resolveEntries, Scope.resolveEntries]
    exact (h.resolveValue hm k).bind fun _ => (h.resolveValue hm v).bind fun _ =>
      (h.resolveEntries hm rest).bind fun _ => .refl _

end

end Preserves

/-! ### Files that reuse the names of an earlier one -/

/-- A file with typedefs that only lead to each other, and with one that leads to a type. -/
def pingFile : Schema :=
  { Schema.empty with
    typedefs := .ofList
      [("Ping", .list (.named "Pong")), ("Pong", .named "Ping"), ("Id", .primitive .i64)]
    enums := .ofList [("Mode", ⟨"Mode", [⟨"ON", 1⟩]⟩)] }

/-- A later file that reuses the names, and includes another one that does. -/
def pongFile : Schema :=
  { Schema.empty with
    includes := ["extra.thrift"]
    typedefs := .ofList [("Id", .primitive .string), ("Ping", .named "ping.Id")] }

def extraFile : Schema :=
  { Schema.empty with typedefs := .ofList [("Id", .primitive .bool), ("Mode", .named "Id")] }

def extraFiles : MemorySources := MemorySources.empty.insert ⟨"extra.thrift"⟩ (.schema extraFile)

/-- The first file, its module current. -/
def ping : Workspace :=
  [.add extraFiles.toSources ⟨"ping.thrift"⟩ pingFile, .setCurrent "ping"].foldl Call.run
    (.new .standard)

theorem ping_eq : ping =
    (Call.setCurrent "ping").run ((new .standard).register ⟨"ping.thrift"⟩ pingFile).refresh := by
  rw [ping, List.foldl_cons, Call.run, add_of_no_includes rfl]
  rfl

/-- The earlier file's own names, and the way its typedefs take. -/
theorem ping_resolves :
    ping.currentScope.resolveType (.set (.named "Id")) = .ok (.set (.primitive .i64)) ∧
      ping.currentScope.resolveType (.named "Ping") =
        .error (.cyclic ["ping.Ping", "ping.Pong", "ping.Ping"]) := by
  rw [ping_eq]
  generalize hs : ((Call.setCurrent "ping").run
    ((new .standard).register ⟨"ping.thrift"⟩ pingFile).refresh).currentScope = s
  have hid : s.lookup "Id" = some ("ping.Id", .alias "ping" (.primitive .i64)) := by
    rw [← hs]
    rfl
  have hping : s.lookup "Ping" = some ("ping.Ping", .alias "ping" (.list (.named "Pong"))) := by
    rw [← hs]
    rfl
  have hpong : s.lookup "Pong" = some ("ping.Pong", .alias "ping" (.named "Ping")) := by
    rw [← hs]
    rfl
  have henter : s.enter "ping" = s := by
    rw [← hs]
    rfl
  constructor
  · rw [Scope.resolveType_set, Scope.resolveType, Scope.resolveTypeIn_of_alias hid List.not_mem_nil,
      Scope.resolveTypeIn]
    rfl
  · rw [Scope.resolveType, Scope.resolveTypeIn_of_alias hping List.not_mem_nil, henter,
      Scope.resolveTypeIn, Scope.resolveTypeIn_of_alias hpong (by decide), henter,
      Scope.resolveTypeIn_of_entered hping (by decide)]
    rfl

theorem modules_add_pong :
    (ping.add extraFiles.toSources ⟨"pong.thrift"⟩ pongFile).workspace.schemas.keys =
      ["ping", "pong", "extra"] := by
  have hpath : (ping.register ⟨"pong.thrift"⟩ pongFile).settings.locate extraFiles.toSources ⟨""⟩
      ⟨"extra.thrift"⟩ = ⟨"extra.thrift"⟩ := by
    rw [ping_eq]
    decide
  have hunvisited : (ping.register ⟨"pong.thrift"⟩ pongFile).isVisited
      (⟨"extra.thrift"⟩ : SourcePath).moduleName = false := by
    rw [ping_eq]
    decide
  have hfollow : (ping.register ⟨"pong.thrift"⟩ pongFile).follow extraFiles.toSources
        (pendingOf ⟨"pong.thrift"⟩ pongFile) =
      ⟨(ping.register ⟨"pong.thrift"⟩ pongFile).register ⟨"extra.thrift"⟩ extraFile, [],
        [⟨"extra.thrift"⟩]⟩ := follow_last hpath hunvisited rfl rfl
  have hnew : ¬ ping.schemas.contains (⟨"pong.thrift"⟩ : SourcePath).moduleName = true := by
    rw [ping_eq]
    decide
  rw [add, if_neg hnew, hfollow, ping_eq]
  decide

/-- **Adding files never changes the meaning of a reference that had one.**  Let a file of a new
module be added to a workspace that calls lead to, with all that it includes, and let no module after
that have a point in its name.  From inside every module that was there, types and values that
resolved resolve to the same, and a cycle is found on the same way; only of a name that was not found
something else may come. -/
theorem add_keeps_meanings (h : Reachable settings w) (src : Sources) {path : SourcePath}
    (schema : Schema) (hnew : path.moduleName ∉ w.schemas.keys)
    (hplain : ∀ m ∈ (w.add src path schema).workspace.schemas.keys, '.' ∉ m.toList) {m : String}
    (hm : m ∈ w.schemas.keys) :
    ∃ s s', w.scope m = .ok s ∧ (w.add src path schema).workspace.scope m = .ok s' ∧
      (∀ t T, s.resolveType t = .ok T → s'.resolveType t = .ok T) ∧
      (∀ t chain, s.resolveType t = .error (.cyclic chain) →
        s'.resolveType t = .error (.cyclic chain)) ∧
      (∀ t, s'.resolveType t ≠ s.resolveType t →
        ∃ n m', s.resolveType t = .error (.unresolved n m')) ∧
      (∀ c v, s.resolveValue c = .ok v → s'.resolveValue c = .ok v) ∧
      ∀ c, s'.resolveValue c ≠ s.resolveValue c →
        ∃ n m', s.resolveValue c = .error (.unresolved n m') := by
  have h' : Reachable settings (w.add src path schema).workspace := .call (.add src path schema) h
  have hextends := extends_add w src hnew schema
  have hpreserves := hextends.preserves h.sound h.owned hplain
  obtain ⟨s, hs, _, hagrees⟩ := scope_agrees h.upToDate hm
  obtain ⟨s', hs', _, hagrees'⟩ := scope_agrees h'.upToDate (hextends.mem_schemas hm)
  have htype : ∀ t, Kept (s.resolveType t) (s'.resolveType t) := by
    intro t
    rw [hagrees.type, hagrees'.type]
    exact hpreserves.resolveTypeIn hm [] t
  have hvalue : ∀ c, Kept (s.resolveValue c) (s'.resolveValue c) := by
    intro c
    rw [hagrees.value, hagrees'.value]
    exact hpreserves.resolveValue hm c
  exact ⟨s, s', hs, hs', fun t _ => (htype t).eq_ok, fun t _ => (htype t).eq_cyclic,
    fun t => (htype t).unresolved_of_ne, fun c _ => (hvalue c).eq_ok,
    fun c => (hvalue c).unresolved_of_ne⟩

theorem ping_keeps_meanings :
    Reachable .standard ping ∧ (⟨"pong.thrift"⟩ : SourcePath).moduleName ∉ ping.schemas.keys ∧
      (∀ m ∈ (ping.add extraFiles.toSources ⟨"pong.thrift"⟩ pongFile).workspace.schemas.keys,
        '.' ∉ m.toList) ∧ "ping" ∈ ping.schemas.keys ∧
      ∃ s s', ping.scope "ping" = .ok s ∧
        (ping.add extraFiles.toSources ⟨"pong.thrift"⟩ pongFile).workspace.scope "ping" = .ok s' ∧
        s'.resolveType (.set (.named "Id")) = .ok (.set (.primitive .i64)) ∧
        s'.resolveType (.named "Ping") =
          .error (.cyclic ["ping.Ping", "ping.Pong", "ping.Ping"]) ∧
        s'.resolveValue (.list [.named "Mode.ON"]) =
          .ok (.list [.named ⟨"ping.Mode.ON", .enumMember 1⟩]) := by
  have hreachable : Reachable .standard ping := Reachable.new.calls _
  have hnew : (⟨"pong.thrift"⟩ : SourcePath).moduleName ∉ ping.schemas.keys := by
    rw [ping_eq]
    decide
  have hmem : "ping" ∈ ping.schemas.keys := by
    rw [ping_eq]
    decide
  have hplain : ∀ m ∈ (ping.add extraFiles.toSources ⟨"pong.thrift"⟩ pongFile).workspace.schemas.keys,
      '.' ∉ m.toList := by
    rw [modules_add_pong]
    decide
  obtain ⟨s, s', hs, hs', htypes, hcycles, _, hvalues, _⟩ :=
    add_keeps_meanings hreachable extraFiles.toSources pongFile hnew hplain hmem
  have hscope : ping.scope "ping" = .ok ping.currentScope := by
    rw [ping_eq]
    rfl
  obtain rfl : ping.currentScope = s := Except.ok.inj (hscope.symm.trans hs)
  refine ⟨hreachable, hnew, hplain, hmem, _, s', hs, hs', htypes _ _ ping_resolves.1,
    hcycles _ _ ping_resolves.2, hvalues _ _ ?_⟩
  rw [ping_eq]
  rfl

end IdlLink
