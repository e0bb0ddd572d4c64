/-
What it means that the check of a loaded workspace finds nothing.

The check resolves the references of every file, each on its own and with no typedef entered before.
Resolution elsewhere starts from any type and enters typedefs of other modules on its way.  What
carries the one over to the other is that a typedef that can be entered is one whose target has been
checked:

* `check_eq_nil_iff` — the check is clean when every reference of every file has a meaning;
* `denotes_of_lookup` — then so has every name that is found, wherever it is used;
* `clean_check_excludes_cycles` — so no type at all runs into a cycle, and a type fails to resolve
  only by a name of its own.
-/
import IdlLink.Proofs.Denotation
import IdlLink.Proofs.Loaded

namespace IdlLink

open Workspace

variable {settings : Settings} {src : Sources} {w : Workspace} {s : Scope}

/-! ### References that have a meaning -/

namespace Scope

/-- A reference has a meaning. -/
def Resolves (s : Scope) (r : Reference) : Prop := s.failure? r = none

theorem errorOf_eq_none_iff {α : Type} {x : Except ResolveError α} :
    failure?.errorOf x = none ↔ Succeeds x := by
  cases x with
  | error e => exact ⟨fun h => (by cases h), fun h => absurd h (not_succeeds_error e)⟩
  | ok a => exact ⟨fun _ => succeeds_ok a, fun _ => rfl⟩

theorem resolves_type {t : TypeExpr} : s.Resolves (.type t) ↔ Succeeds (s.resolveType t) :=
  errorOf_eq_none_iff

theorem resolves_value {c : ConstExpr} : s.Resolves (.value c) ↔ Succeeds (s.resolveValue c) :=
  errorOf_eq_none_iff

theorem resolves_base {n : String} : s.Resolves (.base n) ↔ Succeeds (s.resolveService n) :=
  errorOf_eq_none_iff

end Scope

/-- Every reference of every file has a meaning in the module of the file. -/
def Workspace.Clean (w : Workspace) : Prop :=
  ∀ m s, w.schemas.get? m = some s → ∀ r ∈ s.references, (Scope.of w.symbols (some m)).Resolves r

theorem check_eq_nil_iff : w.check = [] ↔ w.Clean := by
  have hfailures : w.check = [] ↔ w.failures = [] := by
    simp only [List.eq_nil_iff_forall_not_mem, check, mem_distinct]
    rw [← List.eq_nil_iff_forall_not_mem, ← List.eq_nil_iff_forall_not_mem, List.map_eq_nil_iff]
  rw [hfailures, failures, List.flatMap_eq_nil_iff]
  simp only [List.filterMap_eq_nil_iff]
  constructor
  · intro h m s hs
    exact h (m, s) (OrderedMap.get?_eq_some_iff.1 hs)
  · rintro h ⟨m, s⟩ he
    exact h m s (OrderedMap.get?_eq_some_iff.2 he)

/-- All that the two files of the forecast refer to has a meaning. -/
theorem forecast_clean : forecast.Clean := by
  obtain ⟨hweather, hday, hreport, hlate, hbase⟩ := forecast_denotes
  have hdenoted : ∀ {m t T}, Denotes forecast.symbols m t T →
      (Scope.of forecast.symbols m).Resolves (.type t) := by
    intro m t T h
    exact Scope.resolves_type.2 ⟨T, resolveType_iff_denotes.2 h⟩
  intro m s hs r hr
  rcases forecast_files hs with ⟨rfl, rfl⟩ | ⟨rfl, rfl⟩
  · have hrefs : r ∈ [.type (.map (.named "common.Weather") (.named "common.Series")),
        .type (.named "Day"), .type (.named "common.Weather"),
        .value (.named "common.Weather.RAINY"), .type (.list (.named "common.Weather")),
        .value (.list [.named "common.Weather.SUNNY", .named "common.Weather.RAINY"]),
        .base "common.Base", .type (.named "Report"), .type (.named "Late")] := hr
    simp only [List.mem_cons, List.not_mem_nil, or_false] at hrefs
    rcases hrefs with rfl | rfl | rfl | rfl | rfl | rfl | rfl | rfl | rfl
    · exact hdenoted ((denotes_typedef_iff rfl).1 hday)
    · exact hdenoted hday
    · exact hdenoted hweather
    · rfl
    · exact hdenoted (.list hweather)
    · rfl
    · have hservice : (Scope.of forecast.symbols (some "forecast")).resolveName "common.Base" =
          .ok (.named ⟨"common.Base", .service⟩) := resolveType_iff_denotes.2 hbase
      refine Scope.resolves_base.2 ⟨⟨"common.Base", .service⟩, ?_⟩
      rw [Scope.resolveService, hservice]
      rfl
    · exact hdenoted hreport
    · exact hdenoted hlate
  · have hcelsius : Denotes forecast.symbols (some "common") (.named "Celsius")
        (.primitive .double) := .typedef rfl .primitive
    have hrefs : r ∈ [.type (.primitive .double), .type (.list (.named "Celsius"))] := hr
    rw [List.mem_pair] at hrefs
    rcases hrefs with rfl | rfl
    · exact hdenoted .primitive
    · exact hdenoted (.list hcelsius)

/-! ### Types in a clean workspace -/

/-- Every name that is found has a meaning: what a typedef leads to has been checked. -/
theorem denotes_of_lookup (h : Loaded settings src w) (hclean : w.Clean) {m : Option String}
    {n : String} {e : String × Symbol} (hlook : (Scope.of w.symbols m).lookup n = some e) :
    ∃ T, Denotes w.symbols m (.named n) T := by
  obtain ⟨key, symbol⟩ := e
  cases symbol with
  | definition e => exact ⟨.named e, .definition hlook⟩
  | «alias» m' target =>
    obtain ⟨s, name, hs, hmem⟩ := h.typedef_of_alias (Scope.get?_of_lookup hlook)
    have hchecked : Reference.type target ∈ s.references := by
      have hvalue : target ∈ s.typedefs.values := List.mem_map_of_mem hmem
      simp only [Schema.references, List.mem_append]
      exact .inl (.inl (.inl (List.mem_map_of_mem hvalue)))
    -- the check starts with no typedef entered; what a type denotes knows of no chain
    obtain ⟨T, hT⟩ := Scope.resolves_type.1 (hclean m' s hs _ hchecked)
    exact ⟨T, .typedef hlook (resolveType_iff_denotes.1 hT)⟩

/-- A type resolves, or one of the names in it is not found. -/
theorem resolves_or_unresolved (h : Loaded settings src w) (hclean : w.Clean) (m : Option String)
    (t : TypeExpr) :
    ((∃ T, (Scope.of w.symbols m).resolveType t = .ok T) ∧
      ∀ n ∈ t.names, ∃ e, (Scope.of w.symbols m).lookup n = some e) ∨
    ∃ n ∈ t.names, (Scope.of w.symbols m).lookup n = none ∧
      (Scope.of w.symbols m).resolveType t = .error (.unresolved n m) := by
  induction t with
  | primitive p => exact .inl ⟨⟨_, Scope.resolveType_primitive _ p⟩, fun _ hn => by cases hn⟩
  | list t ih =>
    rw [Scope.resolveType_list]
    rcases ih with ⟨⟨T, hT⟩, hfound⟩ | ⟨n, hn, hnone, he⟩
    · exact .inl ⟨⟨.list T, by rw [hT]; rfl⟩, hfound⟩
    · exact .inr ⟨n, hn, hnone, by rw [he]; rfl⟩
  | set t ih =>
    rw [Scope.resolveType_set]
    rcases ih with ⟨⟨T, hT⟩, hfound⟩ | ⟨n, hn, hnone, he⟩
    · exact .inl ⟨⟨.set T, by rw [hT]; rfl⟩, hfound⟩
    · exact .inr ⟨n, hn, hnone, by rw [he]; rfl⟩
  | map k v ihk ihv =>
    -- the key comes first, so where both fail the name is one of the key
    rw [Scope.resolveType_map]
    rcases ihk with ⟨⟨K, hK⟩, hkeys⟩ | ⟨n, hn, hnone, he⟩
    · rcases ihv with ⟨⟨V, hV⟩, hvalues⟩ | ⟨n, hn, hnone, he⟩
      · refine .inl ⟨⟨.map K V, by rw [hK, hV]; rfl⟩, fun n hn => ?_⟩
        exact (List.mem_append.1 hn).elim (hkeys n) (hvalues n)
      · exact .inr ⟨n, List.mem_append_right _ hn, hnone, by rw [hK, he]; rfl⟩
    · exact .inr ⟨n, List.mem_append_left _ hn, hnone, by rw [he]; rfl⟩
  | named n =>
    cases hlook : (Scope.of w.symbols m).lookup n with
    | none =>
      exact .inr ⟨n, List.mem_singleton_self n, hlook, Scope.resolveTypeIn_of_unknown hlook⟩
    | some e =>
      obtain ⟨T, hT⟩ := denotes_of_lookup h hclean hlook
      refine .inl ⟨⟨T, resolveType_iff_denotes.2 hT⟩, fun n' hn' => ?_⟩
      rw [List.mem_singleton.1 hn']
      exact ⟨e, hlook⟩

/-- **A clean check rules out cycles everywhere.**  In a loaded workspace without failures a type
that is written in any of its modules, in a file or not, resolves exactly when all of its names are
found; if it does not, the error is about a name that it mentions itself. -/
theorem clean_check_excludes_cycles (h : Loaded settings src w) (hcheck : w.check = []) {m : String}
    (hm : m ∈ w.schemas.keys) :
    ∃ s, w.scope m = .ok s ∧ ∀ t,
      (∀ chain, s.resolveType t ≠ .error (.cyclic chain)) ∧
      ((∃ T, s.resolveType t = .ok T) ↔ ∀ n ∈ t.names, ∃ e, s.lookup n = some e) ∧
      ∀ e, s.resolveType t = .error e →
        ∃ n ∈ t.names, s.lookup n = none ∧ e = .unresolved n (some m) := by
  obtain ⟨s, hs, _, hagrees⟩ := scope_agrees h.reachable.upToDate hm
  refine ⟨s, hs, fun t => ?_⟩
  simp only [hagrees.type, hagrees.lookup]
  rcases resolves_or_unresolved h (check_eq_nil_iff.1 hcheck) (some m) t with
    ⟨⟨T, hT⟩, hfound⟩ | ⟨n, hn, hnone, he⟩
  · rw [hT]
    exact ⟨fun _ hc => (by cases hc), ⟨fun _ => hfound, fun _ => ⟨T, rfl⟩⟩,
      fun _ he => (by cases he)⟩
  · rw [he]
    refine ⟨fun _ hc => (by cases hc), ⟨fun hok => ?_, fun hfound => ?_⟩, fun e he => ?_⟩
    · obtain ⟨_, hT⟩ := hok
      cases hT
    · obtain ⟨_, hlook⟩ := hfound n hn
      rw [hnone] at hlook
      cases hlook
    · exact ⟨n, hn, hnone, (Except.error.inj he).symm⟩

/-- In the current module of the forecast a type in its terms resolves, and one that mentions the
typedef of the other module without the module does not. -/
theorem forecast_excludes_cycles :
    Loaded .standard forecastFiles.toSources forecast ∧ forecast.check = [] ∧
      "common" ∈ forecast.schemas.keys ∧ ∃ s, forecast.scope "common" = .ok s ∧
        (∃ T, s.resolveType (.set (.named "Series")) = .ok T) ∧
        s.resolveType (.map (.named "Series") (.named "Day")) =
          .error (.unresolved "Day" (some "common")) := by
  have hcheck : forecast.check = [] := check_eq_nil_iff.2 forecast_clean
  have hmem : "common" ∈ forecast.schemas.keys := by decide
  obtain ⟨s, hs, htypes⟩ := clean_check_excludes_cycles forecast_loaded hcheck hmem
  have hscope : forecast.scope "common" = .ok forecast.currentScope := rfl
  obtain rfl : forecast.currentScope = s := Except.ok.inj (hscope.symm.trans hs)
  refine ⟨forecast_loaded, hcheck, hmem, _, hs, ?_, ?_⟩
  · refine (htypes _).2.1.2 fun n hn => ?_
    rw [List.mem_singleton.1 hn]
    exact ⟨("common.Series", .alias "common" (.list (.named "Celsius"))), rfl⟩
  · obtain ⟨_, hok, herror⟩ := htypes (.map (.named "Series") (.named "Day"))
    cases hr : forecast.currentScope.resolveType (.map (.named "Series") (.named "Day")) with
    | ok T =>
      obtain ⟨_, hday⟩ := hok.1 ⟨T, hr⟩ "Day" (by decide)
      cases hday
    | error e =>
      obtain ⟨n, hn, hnone, rfl⟩ := herror e hr
      rcases List.mem_pair.1 hn with rfl | rfl
      · cases hnone
      · rfl

end IdlLink
