/-
Linking succeeds where the check finds nothing.

The check and the linker walk a file each in its own way, category by category.  Up to the typedefs
they ask for the same: the one resolves the target of a typedef, the other its name, which another
declaration may have taken.

* `Scope.resolves_references_iff`, `succeeds_linkIn_iff` — what the check and what the linker ask of a
  file, in the same terms;
* `succeeds_resolveName_of_typedef`, `succeeds_resolveType_of_typedef` — from targets to names, and
  back where the name is still the typedef's;
* `check_agrees_with_link` — so files that check can be linked, and conversely.
-/
import IdlLink.Proofs.Checking

namespace IdlLink

open Workspace

variable {settings : Settings} {src : Sources} {w : Workspace} {s : Scope}

/-! ### Linking asks for what is checked -/

namespace Scope

theorem succeeds_resolveOption_iff {α β : Type} {f : α → Except ResolveError β} {o : Option α} :
    Succeeds (resolveOption f o) ↔ ∀ a ∈ o, Succeeds (f a) := by
  cases o with
  | none => exact ⟨fun _ _ ha => (by cases ha), fun _ => succeeds_ok none⟩
  | some a =>
    rw [resolveOption, succeeds_map_iff]
    constructor
    · intro h b hb
      cases hb
      exact h
    · exact fun h => h a rfl

theorem forall_mem_toList_map_iff {α : Type} {f : α → Reference} {o : Option α}
    {P : Reference → Prop} : (∀ r ∈ (o.map f).toList, P r) ↔ ∀ a ∈ o, P (f a) := by
  cases o with
  | none => simp
  | some a => simp

theorem succeeds_resolveField_iff {f : Field} :
    Succeeds (s.resolveField f) ↔ ∀ r ∈ f.references, s.Resolves r := by
  have hparts : Succeeds (s.resolveField f) ↔
      Succeeds (s.resolveType f.type) ∧ Succeeds (resolveOption s.resolveValue f.default) :=
    succeeds_bind_iff fun _ => succeeds_bind_pure_iff
  rw [hparts, succeeds_resolveOption_iff, Field.references, List.forall_mem_cons, resolves_type,
    forall_mem_toList_map_iff]
  simp only [resolves_value]

theorem succeeds_resolveFields_iff {fs : List Field} :
    Succeeds (s.resolveFields fs) ↔ ∀ r ∈ fs.flatMap Field.references, s.Resolves r := by
  rw [resolveFields, succeeds_mapM_iff, List.forall_mem_flatMap]
  simp only [succeeds_resolveField_iff]

theorem succeeds_resolveFunction_iff {f : Function} :
    Succeeds (s.resolveFunction f) ↔ ∀ r ∈ f.references, s.Resolves r := by
  have hparts : Succeeds (s.resolveFunction f) ↔ Succeeds (resolveOption s.resolveType f.result) ∧
      Succeeds (s.resolveFields f.params) ∧ Succeeds (s.resolveFields f.exceptions) :=
    succeeds_bind_iff fun _ => succeeds_bind_iff fun _ => succeeds_bind_pure_iff
  rw [hparts, succeeds_resolveOption_iff, succeeds_resolveFields_iff, succeeds_resolveFields_iff,
    Function.references, List.flatMap_append, List.forall_mem_append, List.forall_mem_append,
    forall_mem_toList_map_iff]
  simp only [resolves_type]

/-- All that a file refers to has a meaning, apart from the targets of its typedefs. -/
structure ResolvesDeclarations (s : Scope) (schema : Schema) : Prop where
  records : ∀ r ∈ schema.structs.values ++ schema.unions.values ++ schema.exceptions.values,
    ∀ ref ∈ r.fields.flatMap Field.references, s.Resolves ref
  constants : ∀ c ∈ schema.constants.values, ∀ ref ∈ c.references, s.Resolves ref
  services : ∀ v ∈ schema.services.values, ∀ ref ∈ v.references, s.Resolves ref

theorem resolves_references_iff {schema : Schema} :
    (∀ ref ∈ schema.references, s.Resolves ref) ↔
      (∀ t ∈ schema.typedefs.values, Succeeds (s.resolveType t)) ∧
        s.ResolvesDeclarations schema := by
  have htypedefs : (∀ ref ∈ schema.typedefs.values.map Reference.type, s.Resolves ref) ↔
      ∀ t ∈ schema.typedefs.values, Succeeds (s.resolveType t) := by
    simp only [List.forall_mem_map, resolves_type]
  rw [Schema.references, List.forall_mem_append, List.forall_mem_append, List.forall_mem_append,
    htypedefs, List.forall_mem_flatMap, List.forall_mem_flatMap, List.forall_mem_flatMap]
  constructor
  · rintro ⟨⟨⟨ht, hr⟩, hc⟩, hv⟩
    exact ⟨ht, hr, hc, hv⟩
  · rintro ⟨ht, hr, hc, hv⟩
    exact ⟨⟨⟨ht, hr⟩, hc⟩, hv⟩

end Scope

/-- A name with its module in front has a destination. -/
theorem succeeds_localDestination (w : Workspace) (m n : String) :
    Succeeds (w.localDestination m n) := by
  rw [localDestination, destination]
  cases hcut : Text.splitOnce '.' (qualify m n) with
  | none => exact absurd hcut (splitOnce_qualify_ne_none m n)
  | some p => exact succeeds_ok _

theorem succeeds_constantsModule {m : String} {schema : Schema} (hs : w.schemas.get? m = some schema) :
    Succeeds (w.constantsModule m) := by
  rw [constantsModule, constantsName, hs]
  exact succeeds_localDestination w m _

theorem succeeds_linkRecord_iff {m : String} {r : Record} :
    Succeeds (w.linkRecord s m r) ↔ ∀ ref ∈ r.fields.flatMap Field.references, s.Resolves ref := by
  have hparts : Succeeds (w.linkRecord s m r) ↔
      Succeeds (w.localDestination m r.name) ∧ Succeeds (s.resolveFields r.fields) :=
    succeeds_bind_iff fun _ => succeeds_bind_pure_iff
  rw [hparts, and_iff_right (succeeds_localDestination w m r.name),
    Scope.succeeds_resolveFields_iff]

theorem succeeds_linkConstant_iff {c : Constant} :
    Succeeds (linkConstant s c) ↔ ∀ ref ∈ c.references, s.Resolves ref := by
  have hparts : Succeeds (linkConstant s c) ↔
      Succeeds (s.resolveType c.type) ∧ Succeeds (s.resolveValue c.value) :=
    succeeds_bind_iff fun _ => succeeds_bind_pure_iff
  rw [hparts, Constant.references, List.forall_mem_cons, List.forall_mem_singleton,
    Scope.resolves_type, Scope.resolves_value]

theorem succeeds_linkService_iff {m : String} {v : Service} :
    Succeeds (w.linkService s m v) ↔ ∀ ref ∈ v.references, s.Resolves ref := by
  have hparts : Succeeds (w.linkService s m v) ↔ Succeeds (w.localDestination m v.name) ∧
      Succeeds (s.resolveBase v) ∧ Succeeds (v.functions.values.mapM s.resolveFunction) :=
    succeeds_bind_iff fun _ => succeeds_bind_iff fun _ => succeeds_bind_pure_iff
  rw [hparts, and_iff_right (succeeds_localDestination w m v.name), Scope.resolveBase,
    Scope.succeeds_resolveOption_iff, succeeds_mapM_iff, Service.references, List.forall_mem_append,
    List.forall_mem_flatMap, Scope.forall_mem_toList_map_iff]
  simp only [Scope.resolves_base, Scope.succeeds_resolveFunction_iff]

/-- A file is linked when the names of its typedefs resolve and all else that is checked does. -/
theorem succeeds_linkIn_iff {m : String} {schema : Schema} (hs : w.schemas.get? m = some schema) :
    Succeeds (w.linkIn s m schema) ↔
      (∀ n ∈ schema.typedefs.keys, Succeeds (s.resolveName n)) ∧ s.ResolvesDeclarations schema := by
  have hparts : Succeeds (w.linkIn s m schema) ↔
      Succeeds (schema.typedefs.keys.mapM (linkTypedef s)) ∧
      Succeeds (schema.enums.values.mapM (w.linkEnum m)) ∧
      Succeeds ((schema.structs.values ++ schema.unions.values ++ schema.exceptions.values).mapM
        (w.linkRecord s m)) ∧
      Succeeds (schema.constants.values.mapM (linkConstant s)) ∧
      Succeeds (schema.services.values.mapM (w.linkService s m)) ∧
      Succeeds (w.constantsModule m) :=
    succeeds_bind_iff fun _ => succeeds_bind_iff fun _ => succeeds_bind_iff fun _ =>
      succeeds_bind_iff fun _ => succeeds_bind_iff fun _ => succeeds_bind_pure_iff
  have htypedef : ∀ n, Succeeds (linkTypedef s n) ↔ Succeeds (s.resolveName n) :=
    fun n => succeeds_bind_pure_iff
  have henum : ∀ e, Succeeds (w.linkEnum m e) :=
    fun e => succeeds_bind_pure_iff.2 (succeeds_localDestination w m e.name)
  simp only [hparts, succeeds_mapM_iff, htypedef, succeeds_linkRecord_iff, succeeds_linkConstant_iff,
    succeeds_linkService_iff]
  constructor
  · rintro ⟨ht, _, hr, hc, hv, _⟩
    exact ⟨ht, hr, hc, hv⟩
  · rintro ⟨ht, hr, hc, hv⟩
    exact ⟨ht, fun e _ => henum e, hr, hc, hv, succeeds_constantsModule hs⟩

/-! ### Checking and linking agree -/

/-- A typedef's own name means something where its module is clean, even if the name was taken. -/
theorem succeeds_resolveName_of_typedef (h : Loaded settings src w) (hclean : w.Clean) {m n : String}
    {schema : Schema} (hs : w.schemas.get? m = some schema) (hn : n ∈ schema.typedefs.keys) :
    Succeeds ((Scope.of w.symbols (some m)).resolveName n) := by
  have hkey : qualify m n ∈ w.symbols.keys :=
    h.reachable.sound.declared hs _ (mem_keys_symbolsOf_of_typedef hn)
  obtain ⟨symbol, hsymbol⟩ := OrderedMap.mem_keys_iff.1 hkey
  obtain ⟨T, hT⟩ := denotes_of_lookup h hclean (Scope.lookup_of_get?_qualify hsymbol)
  exact ⟨T, resolveType_iff_denotes.2 hT⟩

/-- Every typedef of a file is what its qualified name stands for. -/
def Workspace.KeepsTypedefs (w : Workspace) : Prop :=
  ∀ m s n t, w.schemas.get? m = some s → (n, t) ∈ s.typedefs.entries →
    w.symbols.get? (qualify m n) = some (.alias m t)

theorem succeeds_resolveType_of_typedef (hkept : w.KeepsTypedefs) {m n : String} {schema : Schema}
    {t : TypeExpr} (hs : w.schemas.get? m = some schema) (hn : (n, t) ∈ schema.typedefs.entries)
    (hname : Succeeds ((Scope.of w.symbols (some m)).resolveName n)) :
    Succeeds ((Scope.of w.symbols (some m)).resolveType t) := by
  obtain ⟨T, hT⟩ := hname
  have hlook := Scope.lookup_of_get?_qualify (hkept m schema n t hs hn)
  exact ⟨T, resolveType_iff_denotes.2 ((denotes_typedef_iff hlook).1 (resolveType_iff_denotes.1 hT))⟩

/-- **Checking and linking agree.**  If the check of a loaded workspace finds nothing, every module
can be linked; and if every module can be linked, the check finds nothing, as long as no other
declaration has taken the name of a typedef. -/
theorem check_agrees_with_link (h : Loaded settings src w) :
    (w.check = [] → ∀ m ∈ w.schemas.keys, ∃ M, w.link m = .ok M) ∧
      (w.KeepsTypedefs → (∀ m ∈ w.schemas.keys, ∃ M, w.link m = .ok M) → w.check = []) := by
  have hlink : ∀ {m schema}, w.schemas.get? m = some schema →
      ((∃ M, w.link m = .ok M) ↔
        (∀ n ∈ schema.typedefs.keys, Succeeds ((Scope.of w.symbols (some m)).resolveName n)) ∧
          (Scope.of w.symbols (some m)).ResolvesDeclarations schema) := by
    intro m schema hs
    rw [link_of_mem h.reachable.upToDate hs]
    exact succeeds_linkIn_iff hs
  rw [check_eq_nil_iff]
  -- all that is left between the two is the target of a typedef here and its name there
  constructor
  · intro hclean m hm
    obtain ⟨schema, hs⟩ := OrderedMap.mem_keys_iff.1 hm
    refine (hlink hs).2 ⟨fun n hn => succeeds_resolveName_of_typedef h hclean hs hn, ?_⟩
    exact (Scope.resolves_references_iff.1 (hclean m schema hs)).2
  · intro hkept hlinks m schema hs
    obtain ⟨hnames, hdeclarations⟩ := (hlink hs).1 (hlinks m (OrderedMap.mem_keys_of_get? hs))
    refine Scope.resolves_references_iff.2 ⟨fun t ht => ?_, hdeclarations⟩
    obtain ⟨⟨n, _⟩, hn, rfl⟩ := List.mem_map.1 ht
    exact succeeds_resolveType_of_typedef hkept hs hn (hnames n (List.mem_map_of_mem hn))

/-- The forecast has no name twice, so its check and its links stand for each other. -/
theorem forecast_check_and_links :
    Loaded .standard forecastFiles.toSources forecast ∧ forecast.KeepsTypedefs ∧
      (∀ m ∈ forecast.schemas.keys, ∃ M, forecast.link m = .ok M) ∧ forecast.check = [] := by
  have hkept : forecast.KeepsTypedefs := by
    intro m s n t hs hn
    rcases forecast_files hs with ⟨rfl, rfl⟩ | ⟨rfl, rfl⟩
    · obtain ⟨rfl, rfl⟩ := Prod.mk.inj (List.mem_singleton.1 hn)
      rfl
    · rcases List.mem_pair.1 hn with he | he
      · obtain ⟨rfl, rfl⟩ := Prod.mk.inj he
        rfl
      · obtain ⟨rfl, rfl⟩ := Prod.mk.inj he
        rfl
  have hlinks := (check_agrees_with_link forecast_loaded).1 (check_eq_nil_iff.2 forecast_clean)
  exact ⟨forecast_loaded, hkept, hlinks, (check_agrees_with_link forecast_loaded).2 hkept hlinks⟩

end IdlLink
