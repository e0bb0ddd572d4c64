/-
What a written constant stands for.

Constants are resolved from left to right, and the first name that stands for no definition ends it.
So the names of a constant, in the order in which they are written, decide between success and
failure, and success changes nothing but the names:

* `Scope.decided_resolveValue` — the names of a constant decide how its resolution ends;
* `Scope.resolveValue_eq_ok_iff` — the result is the constant with an entity in place of each name;
* `value_resolution` — both together, with the name that is to blame for a failure.
-/
import IdlLink.Proofs.Outcome
import IdlLink.Scope
import Mathlib.Data.List.Forall2

namespace IdlLink

/-! ### The names of a constant -/

mutual

/-- The names that a written constant mentions, left to right. -/
def ConstExpr.names : ConstExpr → List String
  | .bool _ => []
  | .int _ => []
  | .double _ => []
  | .string _ => []
  | .list items => ConstExpr.itemNames items
  | .map entries => ConstExpr.entryNames entries
  | .named n => [n]

/-- The names in the elements of a list, first to last. -/
def ConstExpr.itemNames : List ConstExpr → List String
  | [] => []
  | c :: rest => c.names ++ ConstExpr.itemNames rest

/-- The names in the entries of a map, first to last and each key before its value. -/
def ConstExpr.entryNames : List (ConstExpr × ConstExpr) → List String
  | [] => []
  | (k, v) :: rest => k.names ++ (v.names ++ ConstExpr.entryNames rest)

end

example : (ConstExpr.map [(.named "A", .list [.named "B"]), (.named "C", .int 1)]).names =
    ["A", "B", "C"] := rfl

namespace Scope

/-- A name stands for a definition. -/
def Defines (s : Scope) (name : String) (e : Entity) : Prop :=
  ∃ key, s.lookup name = some (key, .definition e)

/-- A value has the shape of a constant, with the entity that a name stands for in place of each
name. -/
inductive Stands (s : Scope) : ConstExpr → Linked.Value → Prop
  | bool {b} : Stands s (.bool b) (.bool b)
  | int {i} : Stands s (.int i) (.int i)
  | double {x} : Stands s (.double x) (.double x)
  | string {t} : Stands s (.string t) (.string t)
  | list {items vs} : List.Forall₂ (Stands s) items vs → Stands s (.list items) (.list vs)
  | map {entries es} :
      List.Forall₂ (Stands s) (entries.map Prod.fst) (es.map Prod.fst) →
      List.Forall₂ (Stands s) (entries.map Prod.snd) (es.map Prod.snd) →
        Stands s (.map entries) (.map es)
  | named {n e} : s.Defines n e → Stands s (.named n) (.named e)

variable {s : Scope} {α β : Type}

/-! ### Names decide -/

/-- A name is the first of several that stands for no definition. -/
def FirstUndefined (s : Scope) (ns : List String) (n : String) : Prop :=
  ∃ before after, ns = before ++ n :: after ∧ (∀ x ∈ before, ∃ e, s.Defines x e) ∧
    ¬ ∃ e, s.Defines n e

theorem FirstUndefined.unique {ns : List String} {n n' : String} (h : s.FirstUndefined ns n)
    (h' : s.FirstUndefined ns n') : n = n' := by
  obtain ⟨before, after, rfl, hbefore, hn⟩ := h
  obtain ⟨before', after', heq, hbefore', hn'⟩ := h'
  -- neither of the two can stand in front of the other
  rcases List.append_eq_append_iff.1 heq with ⟨gap, rfl, hgap⟩ | ⟨gap, rfl, hgap⟩
  · cases gap with
    | nil => exact (List.cons.inj hgap).1
    | cons x gap =>
      obtain rfl := (List.cons.inj hgap).1
      exact absurd (hbefore' n List.mem_append_cons_self) hn
  · cases gap with
    | nil => exact (List.cons.inj hgap).1.symm
    | cons x gap =>
      obtain rfl := (List.cons.inj hgap).1
      exact absurd (hbefore n' List.mem_append_cons_self) hn'

/-- A computation succeeds when all of some names stand for definitions, and otherwise reports the
first that does not. -/
def Decided (s : Scope) (ns : List String) (x : Except ResolveError α) : Prop :=
  ((∀ n ∈ ns, ∃ e, s.Defines n e) ∧ Succeeds x) ∨
    ∃ n, s.FirstUndefined ns n ∧ x = .error (.unresolved n s.module)

namespace Decided

variable {ns ms : List String} {x : Except ResolveError α}

theorem ok (a : α) : s.Decided [] (.ok a) :=
  .inl ⟨fun _ h => absurd h List.not_mem_nil, succeeds_ok a⟩

theorem map (h : s.Decided ns x) (f : α → β) : s.Decided ns (f <$> x) := by
  rcases h with ⟨hns, hx⟩ | ⟨n, hn, rfl⟩
  · exact .inl ⟨hns, succeeds_map_iff.2 hx⟩
  · exact .inr ⟨n, hn, rfl⟩

/-- What is computed first has its names first. -/
theorem bind {f : α → Except ResolveError β} (h : s.Decided ns x) (hf : ∀ a, s.Decided ms (f a)) :
    s.Decided (ns ++ ms) (x >>= f) := by
  rcases h with ⟨hns, a, rfl⟩ | ⟨n, ⟨before, after, rfl, hbefore, hn⟩, rfl⟩
  · rcases hf a with ⟨hms, hfa⟩ | ⟨n, ⟨before, after, rfl, hbefore, hn⟩, hfa⟩
    · exact .inl ⟨List.forall_mem_append.2 ⟨hns, hms⟩, hfa⟩
    · refine .inr ⟨n, ⟨ns ++ before, after, ?_, List.forall_mem_append.2 ⟨hns, hbefore⟩, hn⟩, hfa⟩
      rw [List.append_assoc]
  · refine .inr ⟨n, ⟨before, after ++ ms, ?_, hbefore, hn⟩, rfl⟩
    rw [List.append_assoc, List.cons_append]

theorem succeeds_iff (h : s.Decided ns x) : Succeeds x ↔ ∀ n ∈ ns, ∃ e, s.Defines n e := by
  rcases h with ⟨hns, hx⟩ | ⟨n, ⟨before, after, rfl, _, hn⟩, rfl⟩
  · exact iff_of_true hx hns
  · exact iff_of_false (not_succeeds_error _) fun hall => hn (hall n List.mem_append_cons_self)

theorem eq_error_iff (h : s.Decided ns x) {e : ResolveError} :
    x = .error e ↔ ∃ n, s.FirstUndefined ns n ∧ e = .unresolved n s.module := by
  constructor
  · rintro rfl
    rcases h with ⟨_, hx⟩ | ⟨n, hn, he⟩
    · exact absurd hx (not_succeeds_error e)
    · exact ⟨n, hn, Except.error.inj he⟩
  · rintro ⟨n, hn, rfl⟩
    rcases h with ⟨hall, _⟩ | ⟨n', hn', rfl⟩
    · obtain ⟨before, after, rfl, _, hundefined⟩ := hn
      exact absurd (hall n List.mem_append_cons_self) hundefined
    · rw [hn.unique hn']

end Decided

mutual

/-- The names of a constant decide whether it has a value. -/
theorem decided_resolveValue : ∀ c, s.Decided c.names (s.resolveValue c)
  | .bool _ => by
    rw [resolveValue]
    exact .ok _
  | .int _ => by
    rw [resolveValue]
    exact .ok _
  | .double _ => by
    rw [resolveValue]
    exact .ok _
  | .string _ => by
    rw [resolveValue]
    exact .ok _
  | .list items => by
    rw [resolveValue]
    exact (decided_resolveItems items).map _
  | .map entries => by
    rw [resolveValue]
    exact (decided_resolveEntries entries).map _
  | .named n => by
    by_cases hn : ∃ e, s.Defines n e
    · obtain ⟨e, key, hlook⟩ := hn
      refine .inl ⟨List.forall_mem_singleton.2 ⟨e, key, hlook⟩, .named e, ?_⟩
      exact resolveValue_named_eq_ok_iff.2 ⟨key, e, hlook, rfl⟩
    · refine .inr ⟨n, ⟨[], [], rfl, List.forall_mem_nil _, hn⟩, ?_⟩
      -- what is found under the name, if anything, is a typedef
      rw [resolveValue]
      split
      · rename_i key e hlook
        exact absurd ⟨e, key, hlook⟩ hn
      · rfl
      · rfl

theorem decided_resolveItems : ∀ cs, s.Decided (ConstExpr.itemNames cs) (s.resolveItems cs)
  | [] => by
    rw [resolveItems]
    exact .ok _
  | c :: rest => by
    rw [resolveItems]
    refine (decided_resolveValue c).bind fun v => ?_
    rw [bind_pure_comp]
    exact (decided_resolveItems rest).map _

theorem decided_resolveEntries :
    ∀ es, s.Decided (ConstExpr.entryNames es) (s.resolveEntries es)
  | [] => by
    rw [resolveEntries]
    exact .ok _
  | (k, v) :: rest => by
    rw [resolveEntries]
    refine (decided_resolveValue k).bind fun key => (decided_resolveValue v).bind fun value => ?_
    rw [bind_pure_comp]
    exact (decided_resolveEntries rest).map _

end

/-! ### Only names are replaced -/

mutual

theorem resolveValue_eq_ok_iff :
    ∀ {c : ConstExpr} {v : Linked.Value}, s.resolveValue c = .ok v ↔ s.Stands c v
  | .bool _, v => by
    rw [resolveValue]
    exact ⟨fun h => Except.ok.inj h ▸ .bool, fun h => by cases h; rfl⟩
  | .int _, v => by
    rw [resolveValue]
    exact ⟨fun h => Except.ok.inj h ▸ .int, fun h => by cases h; rfl⟩
  | .double _, v => by
    rw [resolveValue]
    exact ⟨fun h => Except.ok.inj h ▸ .double, fun h => by cases h; rfl⟩
  | .string _, v => by
    rw [resolveValue]
    exact ⟨fun h => Except.ok.inj h ▸ .string, fun h => by cases h; rfl⟩
  | .list items, v => by
    rw [resolveValue, map_eq_ok_iff]
    constructor
    · rintro ⟨vs, hvs, rfl⟩
      exact .list (resolveItems_eq_ok_iff.1 hvs)
    · rintro ⟨⟩
      rename_i vs hvs
      exact ⟨vs, resolveItems_eq_ok_iff.2 hvs, rfl⟩
  | .map entries, v => by
    rw [resolveValue, map_eq_ok_iff]
    constructor
    · rintro ⟨es, hes, rfl⟩
      obtain ⟨hkeys, hvalues⟩ := resolveEntries_eq_ok_iff.1 hes
      exact .map hkeys hvalues
    · rintro ⟨⟩
      rename_i es hkeys hvalues
      exact ⟨es, resolveEntries_eq_ok_iff.2 ⟨hkeys, hvalues⟩, rfl⟩
  | .named n, v => by
    rw [resolveValue_named_eq_ok_iff]
    constructor
    · rintro ⟨key, e, hlook, rfl⟩
      exact .named ⟨key, hlook⟩
    · rintro ⟨⟩
      rename_i e he
      obtain ⟨key, hlook⟩ := he
      exact ⟨key, e, hlook, rfl⟩

theorem resolveItems_eq_ok_iff : ∀ {cs : List ConstExpr} {vs : List Linked.Value},
    s.resolveItems cs = .ok vs ↔ List.Forall₂ s.Stands cs vs
  | [], vs => by
    rw [resolveItems, List.forall₂_nil_left_iff]
    exact ⟨fun h => (Except.ok.inj h).symm, fun h => h ▸ rfl⟩
  | c :: rest, vs => by
    rw [resolveItems, bind_eq_ok_iff, List.forall₂_cons_left_iff]
    constructor
    · rintro ⟨v, hv, h⟩
      obtain ⟨vs', hvs, h⟩ := bind_eq_ok_iff.1 h
      cases h
      exact ⟨v, vs', resolveValue_eq_ok_iff.1 hv, resolveItems_eq_ok_iff.1 hvs, rfl⟩
    · rintro ⟨v, vs', hv, hvs, rfl⟩
      exact ⟨v, resolveValue_eq_ok_iff.2 hv,
        bind_eq_ok_iff.2 ⟨vs', resolveItems_eq_ok_iff.2 hvs, rfl⟩⟩

theorem resolveEntries_eq_ok_iff :
    ∀ {cs : List (ConstExpr × ConstExpr)} {es : List (Linked.Value × Linked.Value)},
    s.resolveEntries cs = .ok es ↔
      List.Forall₂ s.Stands (cs.map Prod.fst) (es.map Prod.fst) ∧
        List.Forall₂ s.Stands (cs.map Prod.snd) (es.map Prod.snd)
  | [], es => by
    rw [resolveEntries, List.map_nil, List.map_nil, List.forall₂_nil_left_iff,
      List.forall₂_nil_left_iff, List.map_eq_nil_iff, List.map_eq_nil_iff, and_self]
    exact ⟨fun h => (Except.ok.inj h).symm, fun h => h ▸ rfl⟩
  | (k, v) :: rest, es => by
    rw [resolveEntries, bind_eq_ok_iff]
    constructor
    · rintro ⟨key, hkey, h⟩
      obtain ⟨value, hvalue, h⟩ := bind_eq_ok_iff.1 h
      obtain ⟨es', hes, h⟩ := bind_eq_ok_iff.1 h
      cases h
      obtain ⟨hkeys, hvalues⟩ := resolveEntries_eq_ok_iff.1 hes
      exact ⟨.cons (resolveValue_eq_ok_iff.1 hkey) hkeys,
        .cons (resolveValue_eq_ok_iff.1 hvalue) hvalues⟩
    · rintro ⟨hkeys, hvalues⟩
      cases es with
      | nil => cases hkeys
      | cons e es' =>
        obtain ⟨hkey, hkeys⟩ := List.forall₂_cons.1 hkeys
        obtain ⟨hvalue, hvalues⟩ := List.forall₂_cons.1 hvalues
        exact ⟨e.1, resolveValue_eq_ok_iff.2 hkey,
          bind_eq_ok_iff.2 ⟨e.2, resolveValue_eq_ok_iff.2 hvalue,
            bind_eq_ok_iff.2 ⟨es', resolveEntries_eq_ok_iff.2 ⟨hkeys, hvalues⟩, rfl⟩⟩⟩

end

end Scope

/-- **Resolution replaces the names of a constant and nothing else.**  It succeeds exactly when all
of them stand for definitions, and then gives the constant with the entity of each name in its
place; otherwise it reports the first name, from left to right, that stands for none. -/
theorem value_resolution (s : Scope) (c : ConstExpr) :
    (Succeeds (s.resolveValue c) ↔ ∀ n ∈ c.names, ∃ e, s.Defines n e) ∧
      (∀ v, s.resolveValue c = .ok v ↔ s.Stands c v) ∧
      ∀ e, s.resolveValue c = .error e ↔
        ∃ n, s.FirstUndefined c.names n ∧ e = .unresolved n s.module :=
  have hdecided := Scope.decided_resolveValue c
  ⟨hdecided.succeeds_iff, fun _ => Scope.resolveValue_eq_ok_iff, fun _ => hdecided.eq_error_iff⟩

end IdlLink
