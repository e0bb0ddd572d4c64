/-
The meaning of written types as a least relation.

`Denotes table m t T` says that the type `t`, written in the module `m`, has the finite expansion
`T`: it follows typedefs as often as it takes and keeps no record of the way.  Resolution does keep
one, the chain of the typedefs that it has entered, and gives up when a typedef comes back:

* `denotes_of_resolveTypeIn` — a type that resolves, from whatever chain, has that expansion;
* `resolveTypeIn_of_denotes` — a type with an expansion resolves to it from every chain that it does
  not lead back to, and so from the empty one;
* `resolves_iff_denotes` — resolution and meaning agree, for types, for names, and for a typedef and
  its target.

Design notes: completeness rests on the keys alone.  `Leads table k l` says that the typedef `k`
mentions `l`; below a type with an expansion this relation has no infinite descent (`Grounded`), so
no typedef leads back to itself and the chain never meets a key for a second time.
-/
import IdlLink.Proofs.Outcome
import IdlLink.Scope
import Mathlib.Logic.Relation

open Relation

namespace IdlLink

/-- The names that a written type mentions, left to right. -/
def TypeExpr.names : TypeExpr → List String
  | .primitive _ => []
  | .list t => t.names
  | .set t => t.names
  | .map k v => k.names ++ v.names
  | .named n => [n]

/-- The least meaning of types: built from its parts, and from the target where a name is a
typedef's. -/
inductive Denotes (table : SymbolTable) : Option String → TypeExpr → Linked.Ty → Prop
  | primitive {m p} : Denotes table m (.primitive p) (.primitive p)
  | list {m t T} : Denotes table m t T → Denotes table m (.list t) (.list T)
  | set {m t T} : Denotes table m t T → Denotes table m (.set t) (.set T)
  | map {m k v K V} : Denotes table m k K → Denotes table m v V →
      Denotes table m (.map k v) (.map K V)
  | definition {m n key e} : (Scope.of table m).lookup n = some (key, .definition e) →
      Denotes table m (.named n) (.named e)
  | typedef {m n key m' target T} : (Scope.of table m).lookup n = some (key, .alias m' target) →
      Denotes table (some m') target T → Denotes table m (.named n) T

/-- A type written in a module mentions the keys that its names are found under. -/
def Mentions (table : SymbolTable) (m : Option String) (t : TypeExpr) (key : String) : Prop :=
  ∃ n ∈ t.names, ∃ symbol, (Scope.of table m).lookup n = some (key, symbol)

/-- A typedef leads to what its target mentions in the module that declares it. -/
def Leads (table : SymbolTable) (key next : String) : Prop :=
  ∃ m target, table.get? key = some (.alias m target) ∧ Mentions table (some m) target next

/-- No endless way of typedefs starts at a key. -/
def Grounded (table : SymbolTable) (key : String) : Prop := Acc (flip (Leads table)) key

variable {table : SymbolTable} {m : Option String}

theorem leads_iff_of_lookup {n key : String} {symbol : Symbol}
    (h : (Scope.of table m).lookup n = some (key, symbol)) {next : String} :
    Leads table key next ↔
      ∃ m' target, symbol = .alias m' target ∧ Mentions table (some m') target next := by
  have hget : table.get? key = some symbol := Scope.get?_of_lookup h
  simp only [Leads, hget, Option.some_inj]

theorem mentions_named {n key : String} {symbol : Symbol}
    (h : (Scope.of table m).lookup n = some (key, symbol)) : Mentions table m (.named n) key :=
  ⟨n, List.mem_singleton_self n, symbol, h⟩

theorem mentions_map {k v : TypeExpr} {key : String} :
    Mentions table m (.map k v) key ↔ Mentions table m k key ∨ Mentions table m v key := by
  simp only [Mentions, TypeExpr.names, List.mem_append, or_and_right, exists_or]

/-- A typedef means what its target means in the module that declares it. -/
theorem denotes_typedef_iff {n key m' : String} {target : TypeExpr} {T : Linked.Ty}
    (hlook : (Scope.of table m).lookup n = some (key, .alias m' target)) :
    Denotes table m (.named n) T ↔ Denotes table (some m') target T := by
  constructor
  · intro h
    cases h with
    | definition hentry =>
      rw [hlook] at hentry
      cases hentry
    | typedef hentry hden =>
      rw [hlook] at hentry
      cases hentry
      exact hden
  · exact .typedef hlook

/-! ### Resolution finds meanings -/

/-- A type that resolves has the result as its meaning, whatever was entered before. -/
theorem denotes_of_resolveTypeIn {chain : List String} {t : TypeExpr} {T : Linked.Ty}
    (h : (Scope.of table m).resolveTypeIn chain t = .ok T) : Denotes table m t T := by
  -- the chain is whatever was entered so far: it decides whether there is a result, not which
  generalize hs : Scope.of table m = s at h
  induction s, chain, t using Scope.resolveTypeIn.induct generalizing m T with
  | case1 s chain p =>
    rw [Scope.resolveTypeIn] at h
    cases h
    exact .primitive
  | case2 s chain t ih =>
    rw [Scope.resolveTypeIn, map_eq_ok_iff] at h
    obtain ⟨T', hT', rfl⟩ := h
    exact .list (ih hs hT')
  | case3 s chain t ih =>
    rw [Scope.resolveTypeIn, map_eq_ok_iff] at h
    obtain ⟨T', hT', rfl⟩ := h
    exact .set (ih hs hT')
  | case4 s chain k v ihk ihv =>
    rw [Scope.resolveTypeIn, bind_eq_ok_iff] at h
    obtain ⟨K, hK, h⟩ := h
    obtain ⟨V, hV, h⟩ := bind_eq_ok_iff.1 h
    cases h
    exact .map (ihk hs hK) (ihv hs hV)
  | case5 s chain n hn =>
    rw [Scope.resolveTypeIn_of_unknown hn] at h
    cases h
  | case6 s chain n key symbol hn hc =>
    rw [Scope.resolveTypeIn_of_entered hn hc] at h
    cases h
  | case7 s chain n key hc e hn _ =>
    rw [Scope.resolveTypeIn_of_definition hn hc] at h
    cases h
    subst hs
    exact .definition hn
  | case8 s chain n key hc m' target hn _ ih =>
    rw [Scope.resolveTypeIn_of_alias hn hc] at h
    subst hs
    exact .typedef hn (ih (Scope.enter_of table m m').symm h)

/-! ### Below a type with a meaning no typedef comes back -/

/-- What a type with a meaning mentions starts no endless way of typedefs. -/
theorem Denotes.grounded {t : TypeExpr} {T : Linked.Ty} (h : Denotes table m t T) {key : String}
    (hk : Mentions table m t key) : Grounded table key := by
  induction h generalizing key with
  | primitive =>
    obtain ⟨n, hn, _⟩ := hk
    cases hn
  | list _ ih => exact ih hk
  | set _ ih => exact ih hk
  | map _ _ ihk ihv =>
    rcases mentions_map.1 hk with hk | hv
    · exact ihk hk
    · exact ihv hv
  | definition hlook =>
    obtain ⟨n, hn, symbol, hs⟩ := hk
    rw [List.mem_singleton.1 hn, hlook] at hs
    cases hs
    -- a definition leads nowhere
    refine ⟨_, fun next hnext => ?_⟩
    obtain ⟨_, _, halias, _⟩ := (leads_iff_of_lookup hlook).1 hnext
    cases halias
  | typedef hlook _ ih =>
    obtain ⟨n, hn, symbol, hs⟩ := hk
    rw [List.mem_singleton.1 hn, hlook] at hs
    cases hs
    refine ⟨_, fun next hnext => ?_⟩
    obtain ⟨_, _, halias, hmention⟩ := (leads_iff_of_lookup hlook).1 hnext
    cases halias
    exact ih hmention

/-- A typedef without an endless way below it does not lead back to itself. -/
theorem Grounded.not_returning {key : String} (h : Grounded table key) :
    ¬ TransGen (Leads table) key key := by
  induction h with
  | intro key _ ih =>
    intro hloop
    -- one step into the loop stands at a lower key with a loop of its own
    obtain ⟨next, hnext, hback⟩ := TransGen.head'_iff.1 hloop
    exact ih next hnext (TransGen.tail' hback hnext)

/-! ### Every meaning is found -/

/-- A type with a meaning resolves to it from every chain that it does not lead back to. -/
theorem resolveTypeIn_of_denotes {t : TypeExpr} {T : Linked.Ty} (h : Denotes table m t T)
    {chain : List String}
    (hfresh : ∀ {key}, Mentions table m t key → ∀ k ∈ chain, ¬ ReflTransGen (Leads table) key k) :
    (Scope.of table m).resolveTypeIn chain t = .ok T := by
  induction h generalizing chain with
  | primitive => rw [Scope.resolveTypeIn]
  | list _ ih =>
    rw [Scope.resolveTypeIn, ih hfresh]
    rfl
  | set _ ih =>
    rw [Scope.resolveTypeIn, ih hfresh]
    rfl
  | map _ _ ihk ihv =>
    have hk := ihk fun hmention => hfresh (mentions_map.2 (.inl hmention))
    have hv := ihv fun hmention => hfresh (mentions_map.2 (.inr hmention))
    rw [Scope.resolveTypeIn, hk, hv]
    rfl
  | definition hlook =>
    refine Scope.resolveTypeIn_of_definition hlook fun hc => ?_
    exact hfresh (mentions_named hlook) _ hc .refl
  | @typedef m n key m' target T hlook hden ih =>
    have hc : key ∉ chain := fun hc => hfresh (mentions_named hlook) _ hc .refl
    rw [Scope.resolveTypeIn_of_alias hlook hc, Scope.enter_of]
    refine ih fun {next} hnext k hk hback => ?_
    have hstep : Leads table key next := (leads_iff_of_lookup hlook).2 ⟨m', target, rfl, hnext⟩
    rcases List.mem_append.1 hk with hk | hk
    · -- the chain so far was out of reach of the name already
      exact hfresh (mentions_named hlook) k hk (hback.head hstep)
    · -- the typedef itself would be on a loop
      rw [List.mem_singleton.1 hk] at hback
      have hground := (Denotes.typedef hlook hden).grounded (mentions_named hlook)
      exact hground.not_returning (TransGen.head' hstep hback)

theorem resolveType_iff_denotes {t : TypeExpr} {T : Linked.Ty} :
    (Scope.of table m).resolveType t = .ok T ↔ Denotes table m t T := by
  constructor
  · exact denotes_of_resolveTypeIn
  · intro h
    exact resolveTypeIn_of_denotes h fun _ k hk => absurd hk (List.not_mem_nil)

/-- **Resolution computes the least meaning.**  A type or a name resolves to exactly what it
denotes, so a cycle is reported only where there is no finite expansion, and a typedef is as good as
its target in the module that declares it. -/
theorem resolves_iff_denotes (table : SymbolTable) (m : Option String) :
    (∀ t T, (Scope.of table m).resolveType t = .ok T ↔ Denotes table m t T) ∧
    (∀ n T, (Scope.of table m).resolveName n = .ok T ↔ Denotes table m (.named n) T) ∧
    ∀ n key m' target, (Scope.of table m).lookup n = some (key, .alias m' target) →
      ∀ T, (Scope.of table m).resolveName n = .ok T ↔
        (Scope.of table (some m')).resolveType target = .ok T := by
  refine ⟨fun t T => resolveType_iff_denotes, fun n T => resolveType_iff_denotes, ?_⟩
  intro n key m' target hlook T
  rw [Scope.resolveName, resolveType_iff_denotes, resolveType_iff_denotes]
  constructor
  · intro h
    cases h with
    | definition hentry =>
      rw [hlook] at hentry
      cases hentry
    | typedef halias hden =>
      rw [hlook] at halias
      cases halias
      exact hden
  · exact .typedef hlook

/-- Typedefs of two modules: `a.Pair` reaches `b.Id` on two ways, and `b.Loop` never ends. -/
def sharedTypedefs : SymbolTable := .ofList
  [("a.Pair", .alias "a" (.map (.named "Key") (.list (.named "Key")))),
   ("a.Key", .alias "a" (.set (.named "b.Id"))),
   ("b.Id", .alias "b" (.named "Raw")),
   ("b.Raw", .alias "b" (.primitive .i64)),
   ("b.Loop", .alias "b" (.list (.named "Loop")))]

/-- The shared typedef is no cycle: both of its uses are expanded. -/
theorem pair_resolves_to_expansion :
    (Scope.of sharedTypedefs (some "a")).lookup "Pair" =
      some ("a.Pair", .alias "a" (.map (.named "Key") (.list (.named "Key")))) ∧
    (Scope.of sharedTypedefs (some "a")).resolveName "Pair" =
      .ok (.map (.set (.primitive .i64)) (.list (.set (.primitive .i64)))) := by
  have hlook : (Scope.of sharedTypedefs (some "a")).lookup "Pair" =
      some ("a.Pair", .alias "a" (.map (.named "Key") (.list (.named "Key")))) := by decide
  have hkey : Denotes sharedTypedefs (some "a") (.named "Key") (.set (.primitive .i64)) := by
    refine .typedef rfl (.set ?_)
    exact .typedef rfl (.typedef rfl .primitive)
  refine ⟨hlook, ((resolves_iff_denotes sharedTypedefs (some "a")).2.2 _ _ _ _ hlook _).2 ?_⟩
  exact ((resolves_iff_denotes sharedTypedefs (some "a")).1 _ _).2 (.map hkey (.list hkey))

end IdlLink
