/-
Why a type or a value does not resolve.

Resolution keeps the typedefs that it is following in a chain, and gives up at a name: one that is not
found, or one whose typedef is in the chain already.  The chain is no more than a record of the way
to that name:

* `blocked_of_resolveTypeIn` — a type that does not resolve has a way of typedefs to such a name, and
  the error says which way and which name;
* `type_error_truthful` — so what an error says about a type is true of the table;
* `Scope.unresolved_of_resolveValue` — a value fails only by a name that is not found as one.
-/
import IdlLink.Proofs.Denotation
import Mathlib.Data.List.Chain
import Mathlib.Data.List.Nodup
import Mathlib.Data.List.Perm.Subperm

namespace IdlLink

/-! ### Ways of typedefs -/

/-- The typedefs `ks` lead, one after the other, from the type `t` written in `m` to the type `u`
written in `m'`: each is mentioned where the one before it leads. -/
inductive Way (table : SymbolTable) :
    Option String → TypeExpr → List String → Option String → TypeExpr → Prop
  | here {m t} : Way table m t [] m t
  | typedef {m t key n target ks m' u} : Mentions table m t key →
      table.get? key = some (.alias n target) → Way table (some n) target ks m' u →
      Way table m t (key :: ks) m' u

/-- Resolution gives up at a type: a name of it is not found, or is one of the typedefs that have
been entered. -/
inductive Stops (table : SymbolTable) (entered : List String) (m : Option String) (t : TypeExpr) :
    ResolveError → Prop
  | unresolved {n} : n ∈ t.names → (Scope.of table m).lookup n = none →
      Stops table entered m t (.unresolved n m)
  | cyclic {back} : Mentions table m t back → back ∈ entered →
      Stops table entered m t (.cyclic (entered ++ [back]))

/-- A way of new typedefs leads from a type to where resolution gives up. -/
def Blocked (table : SymbolTable) (entered : List String) (m : Option String) (t : TypeExpr)
    (e : ResolveError) : Prop :=
  ∃ ks m' u, Way table m t ks m' u ∧ (entered.Nodup → (entered ++ ks).Nodup) ∧
    Stops table (entered ++ ks) m' u e

variable {table : SymbolTable} {m m' : Option String} {t u : TypeExpr} {entered ks : List String}
  {e : ResolveError}

namespace Way

theorem typedef_of_mem (h : Way table m t ks m' u) {key : String} (hkey : key ∈ ks) :
    ∃ n target, table.get? key = some (.alias n target) := by
  induction h with
  | here => cases hkey
  | typedef _ hget _ ih =>
    rcases List.mem_cons.1 hkey with rfl | hkey
    · exact ⟨_, _, hget⟩
    · exact ih hkey

/-- What is mentioned at the end of a way closes a chain that starts with a mention of the type. -/
theorem mentioned (h : Way table m t ks m' u) {back : String} (hback : Mentions table m' u back) :
    ∀ first ∈ (ks ++ [back]).head?, Mentions table m t first := by
  intro first hfirst
  cases h with
  | here =>
    obtain rfl : back = first := Option.some_inj.1 hfirst
    exact hback
  | typedef hmention _ _ =>
    obtain rfl := Option.some_inj.1 hfirst
    exact hmention

theorem linked (h : Way table m t ks m' u) {back : String} (hback : Mentions table m' u back) :
    (ks ++ [back]).IsChain (Leads table) := by
  induction h with
  | here => exact .singleton back
  | typedef _ hget hrest ih =>
    refine List.isChain_cons.2 ⟨fun next hnext => ?_, ih hback⟩
    exact ⟨_, _, hget, hrest.mentioned hback next hnext⟩

end Way

/-! ### Where resolution gives up -/

namespace Blocked

theorem of_stops (h : Stops table entered m t e) : Blocked table entered m t e := by
  refine ⟨[], m, t, .here, ?_, ?_⟩
  · simp
  · rwa [List.append_nil]

/-- A type is blocked where a part of it is. -/
theorem of_part (h : Blocked table entered m t e) (hpart : t.names ⊆ u.names) :
    Blocked table entered m u e := by
  have hmention : ∀ {key}, Mentions table m t key → Mentions table m u key := by
    rintro key ⟨n, hn, hlook⟩
    exact ⟨n, hpart hn, hlook⟩
  obtain ⟨ks, m', u', hway, hnodup, hstops⟩ := h
  cases hway with
  | here =>
    rw [List.append_nil] at hstops
    cases hstops with
    | unresolved hn hnone => exact of_stops (.unresolved (hpart hn) hnone)
    | cyclic hback hmem => exact of_stops (.cyclic (hmention hback) hmem)
  | typedef hfirst hget hrest =>
    exact ⟨_, m', u', .typedef (hmention hfirst) hget hrest, hnodup, hstops⟩

/-- A new typedef goes in front of the way from its target. -/
theorem of_typedef {key n : String} {target : TypeExpr} (hmention : Mentions table m t key)
    (hget : table.get? key = some (.alias n target)) (hnew : key ∉ entered)
    (h : Blocked table (entered ++ [key]) (some n) target e) : Blocked table entered m t e := by
  obtain ⟨ks, m', u, hway, hnodup, hstops⟩ := h
  rw [List.append_assoc, List.singleton_append] at hnodup hstops
  refine ⟨key :: ks, m', u, .typedef hmention hget hway, fun hentered => hnodup ?_, hstops⟩
  rw [← List.concat_eq_append]
  exact hentered.concat hnew

end Blocked

/-- **A type that does not resolve is blocked**, by what its error says. -/
theorem blocked_of_resolveTypeIn (h : (Scope.of table m).resolveTypeIn entered t = .error e) :
    Blocked table entered m t e := by
  generalize hs : Scope.of table m = s at h
  -- the induction is that of resolution; a type hands on what its part comes to, and only the last
  -- case makes the way longer
  induction s, entered, t using Scope.resolveTypeIn.induct generalizing m with
  | case1 s entered p =>
    rw [Scope.resolveTypeIn] at h
    cases h
  | case2 s entered t ih =>
    rw [Scope.resolveTypeIn, map_eq_error_iff] at h
    exact (ih hs h).of_part (List.Subset.refl _)
  | case3 s entered t ih =>
    rw [Scope.resolveTypeIn, map_eq_error_iff] at h
    exact (ih hs h).of_part (List.Subset.refl _)
  | case4 s entered k v ihk ihv =>
    rw [Scope.resolveTypeIn, bind_eq_error_iff] at h
    rcases h with h | ⟨_, _, h⟩
    · exact (ihk hs h).of_part (List.subset_append_left _ _)
    · rw [bind_pure_comp, map_eq_error_iff] at h
      exact (ihv hs h).of_part (List.subset_append_right _ _)
  | case5 s entered n hn =>
    rw [Scope.resolveTypeIn_of_unknown hn] at h
    cases h
    subst hs
    exact .of_stops (.unresolved (List.mem_singleton_self n) hn)
  | case6 s entered n key symbol hn hc =>
    rw [Scope.resolveTypeIn_of_entered hn hc] at h
    cases h
    subst hs
    exact .of_stops (.cyclic (mentions_named hn) hc)
  | case7 s entered n key hc e hn _ =>
    rw [Scope.resolveTypeIn_of_definition hn hc] at h
    cases h
  | case8 s entered n key hc m' target hn _ ih =>
    rw [Scope.resolveTypeIn_of_alias hn hc] at h
    subst hs
    have hget : table.get? key = some (.alias m' target) := Scope.get?_of_lookup hn
    exact (ih (Scope.enter_of table m m').symm h).of_typedef (mentions_named hn) hget hc

/-! ### What an error says of a type -/

/-- Whether a symbol is a typedef. -/
def Symbol.isTypedef : Symbol → Bool
  | .alias _ _ => true
  | .definition _ => false

/-- How many entries of a table are typedefs. -/
def SymbolTable.typedefCount (table : SymbolTable) : Nat :=
  table.entries.countP fun e => e.2.isTypedef

theorem Way.length_le (h : Way table m t ks m' u) (hnodup : ks.Nodup) :
    ks.length ≤ table.typedefCount := by
  have hsubset : ks ⊆ (table.entries.filter fun e => e.2.isTypedef).map Prod.fst := by
    intro key hkey
    obtain ⟨n, target, hget⟩ := h.typedef_of_mem hkey
    have hentry := OrderedMap.get?_eq_some_iff.1 hget
    exact List.mem_map.2 ⟨_, List.mem_filter.2 ⟨hentry, rfl⟩, rfl⟩
  have hlength := (hnodup.subperm hsubset).length_le
  rwa [List.length_map, ← List.countP_eq_length_filter] at hlength

/-- **What an error says about a type is true.**  A cycle is a way of different typedefs that starts
with one that the type mentions and ends where the target mentions one of them again, so it cannot be
longer than there are typedefs; a name that is reported is one of the type, or of the target at the
end of such a way, and is not found in the module of that place.  There are no other errors. -/
theorem type_error_truthful (h : (Scope.of table m).resolveType t = .error e) :
    (∃ ks m' u back, e = .cyclic (ks ++ [back]) ∧ Way table m t ks m' u ∧
      Mentions table m' u back ∧ ks.Nodup ∧ back ∈ ks ∧
      (ks ++ [back]).length ≤ table.typedefCount + 1) ∨
    ∃ ks m' u n, e = .unresolved n m' ∧ Way table m t ks m' u ∧ n ∈ u.names ∧
      (Scope.of table m').lookup n = none ∧ ks.Nodup := by
  obtain ⟨ks, m', u, hway, hnodup, hstops⟩ := blocked_of_resolveTypeIn h
  -- resolution starts with nothing entered
  have hks : ks.Nodup := hnodup List.nodup_nil
  cases hstops with
  | unresolved hn hnone => exact .inr ⟨ks, m', u, _, rfl, hway, hn, hnone, hks⟩
  | @cyclic back hback hmem =>
    refine .inl ⟨ks, m', u, back, rfl, hway, hback, hks, hmem, ?_⟩
    rw [List.length_append, List.length_singleton]
    exact Nat.succ_le_succ (hway.length_le hks)

/-- Typedefs of two modules: `a.Pair` runs into a ring of two modules, and `b.Open` mentions a name
that only the other module declares. -/
def brokenTypedefs : SymbolTable := .ofList
  [("a.Pair", .alias "a" (.map (.named "Key") (.list (.named "b.Ring")))),
   ("a.Key", .alias "a" (.primitive .string)),
   ("b.Ring", .alias "b" (.set (.named "a.Back"))),
   ("a.Back", .alias "a" (.named "b.Ring")),
   ("b.Open", .alias "b" (.map (.named "a.Key") (.named "Key")))]

theorem pair_cyclic :
    (Scope.of brokenTypedefs (some "a")).resolveType (.list (.named "Pair")) =
      .error (.cyclic ["a.Pair", "b.Ring", "a.Back", "b.Ring"]) := by
  have hpair : (Scope.of brokenTypedefs (some "a")).lookup "Pair" =
      some ("a.Pair", .alias "a" (.map (.named "Key") (.list (.named "b.Ring")))) := rfl
  have hkey : (Scope.of brokenTypedefs (some "a")).lookup "Key" =
      some ("a.Key", .alias "a" (.primitive .string)) := rfl
  have hring : (Scope.of brokenTypedefs (some "a")).lookup "b.Ring" =
      some ("b.Ring", .alias "b" (.set (.named "a.Back"))) := rfl
  have hback : (Scope.of brokenTypedefs (some "b")).lookup "a.Back" =
      some ("a.Back", .alias "a" (.named "b.Ring")) := rfl
  rw [Scope.resolveType_list, Scope.resolveType,
    Scope.resolveTypeIn_of_alias hpair List.not_mem_nil, Scope.enter_of, Scope.resolveTypeIn,
    Scope.resolveTypeIn_of_alias hkey (by decide), Scope.enter_of, Scope.resolveTypeIn,
    Scope.resolveTypeIn, Scope.resolveTypeIn_of_alias hring (by decide), Scope.enter_of,
    Scope.resolveTypeIn, Scope.resolveTypeIn_of_alias hback (by decide), Scope.enter_of,
    Scope.resolveTypeIn_of_entered hring (by decide)]
  rfl

theorem open_unresolved :
    (Scope.of brokenTypedefs (some "a")).resolveType (.set (.named "b.Open")) =
      .error (.unresolved "Key" (some "b")) := by
  have hopen : (Scope.of brokenTypedefs (some "a")).lookup "b.Open" =
      some ("b.Open", .alias "b" (.map (.named "a.Key") (.named "Key"))) := rfl
  have hkey : (Scope.of brokenTypedefs (some "b")).lookup "a.Key" =
      some ("a.Key", .alias "a" (.primitive .string)) := rfl
  rw [Scope.resolveType_set, Scope.resolveType,
    Scope.resolveTypeIn_of_alias hopen List.not_mem_nil, Scope.enter_of, Scope.resolveTypeIn,
    Scope.resolveTypeIn_of_alias hkey (by decide), Scope.enter_of, Scope.resolveTypeIn,
    Scope.resolveTypeIn_of_unknown rfl]
  rfl

/-- The ring is shown with the way into it; the name that is missing is missing in the other module,
where the typedef that mentions it stands. -/
theorem broken_errors_truthful :
    (Scope.of brokenTypedefs (some "a")).resolveType (.list (.named "Pair")) =
        .error (.cyclic ["a.Pair", "b.Ring", "a.Back", "b.Ring"]) ∧
      (∃ m u, Way brokenTypedefs (some "a") (.list (.named "Pair")) ["a.Pair", "b.Ring", "a.Back"]
          m u ∧ Mentions brokenTypedefs m u "b.Ring") ∧
      (Scope.of brokenTypedefs (some "a")).resolveType (.set (.named "b.Open")) =
        .error (.unresolved "Key" (some "b")) ∧
      ∃ ks u, Way brokenTypedefs (some "a") (.set (.named "b.Open")) ks (some "b") u ∧
        "Key" ∈ u.names ∧ (Scope.of brokenTypedefs (some "b")).lookup "Key" = none := by
  refine ⟨pair_cyclic, ?_, open_unresolved, ?_⟩
  · rcases type_error_truthful pair_cyclic with
      ⟨ks, m', u, back, he, hway, hback, _⟩ | ⟨_, _, _, _, he, _⟩
    · have hchain : ["a.Pair", "b.Ring", "a.Back"] ++ ["b.Ring"] = ks ++ [back] :=
        ResolveError.cyclic.inj he
      obtain ⟨rfl, hlast⟩ := List.append_inj' hchain rfl
      obtain rfl : "b.Ring" = back := List.singleton_inj.1 hlast
      exact ⟨m', u, hway, hback⟩
    · cases he
  · rcases type_error_truthful open_unresolved with
      ⟨_, _, _, _, he, _⟩ | ⟨ks, m', u, n, he, hway, hn, hnone, _⟩
    · cases he
    · cases he
      exact ⟨ks, u, hway, hn, hnone⟩

/-! ### Values -/

namespace Scope

variable {s : Scope} {e : ResolveError}

mutual

/-- A value fails by a name. -/
theorem unresolved_of_resolveValue : ∀ c, s.resolveValue c = .error e →
    ∃ n, e = .unresolved n s.module
  | .bool _, h => by
    rw [resolveValue] at h
    cases h
  | .int _, h => by
    rw [resolveValue] at h
    cases h
  | .double _, h => by
    rw [resolveValue] at h
    cases h
  | .string _, h => by
    rw [resolveValue] at h
    cases h
  | .list items, h => by
    rw [resolveValue, map_eq_error_iff] at h
    exact unresolved_of_resolveItems items h
  | .map entries, h => by
    rw [resolveValue, map_eq_error_iff] at h
    exact unresolved_of_resolveEntries entries h
  | .named n, h => by
    rw [resolveValue] at h
    split at h
    · cases h
    · cases h
      exact ⟨n, rfl⟩
    · cases h
      exact ⟨n, rfl⟩

theorem unresolved_of_resolveItems : ∀ cs, s.resolveItems cs = .error e →
    ∃ n, e = .unresolved n s.module
  | [], h => by
    rw [resolveItems] at h
    cases h
  | c :: rest, h => by
    rw [resolveItems, bind_eq_error_iff] at h
    rcases h with h | ⟨_, _, h⟩
    · exact unresolved_of_resolveValue c h
    · rw [bind_pure_comp, map_eq_error_iff] at h
      exact unresolved_of_resolveItems rest h

theorem unresolved_of_resolveEntries : ∀ es, s.resolveEntries es = .error e →
    ∃ n, e = .unresolved n s.module
  | [], h => by
    rw [resolveEntries] at h
    cases h
  | (k, v) :: rest, h => by
    rw [resolveEntries, bind_eq_error_iff] at h
    rcases h with h | ⟨_, _, h⟩
    · exact unresolved_of_resolveValue k h
    · rcases bind_eq_error_iff.1 h with h | ⟨_, _, h⟩
      · exact unresolved_of_resolveValue v h
      · rw [bind_pure_comp, map_eq_error_iff] at h
        exact unresolved_of_resolveEntries rest h

end

end Scope

end IdlLink
