/-
Every entity of a linked module is defined.

Linking replaces each name by an entity, which is a qualified name and a kind.  Whoever reads a linked
module goes back from the entity to its definition: the name is cut at its first point, and the rest
is looked up in the category of the kind, in the file of the module.  That this never fails has three
parts:

* `Module.entities` and `sourced_linkIn` — all entities of a linked module, and that each of them
  is the symbol of some key;
* `Loaded.declared_of_get?`, from loading — a symbol is declared by the file of a module;
* `Schema.WellNamed.definition?_of_declares` — in a file that names its definitions by their keys,
  what is declared is found again;
* `linked_entities_defined` — the three together.
-/
import IdlLink.Proofs.Denotation
import IdlLink.Proofs.Loaded
import IdlLink.Workspace.Definition

namespace IdlLink

/-! ### The entities of linked declarations -/

namespace Linked

def Ty.entities : Ty → List Entity
  | primitive _ => []
  | list t => t.entities
  | set t => t.entities
  | map k v => k.entities ++ v.entities
  | named e => [e]

mutual

def Value.entities : Value → List Entity
  | .bool _ => []
  | .int _ => []
  | .double _ => []
  | .string _ => []
  | .list items => itemEntities items
  | .map entries => entryEntities entries
  | .named e => [e]

/-- The entities of the elements of a list. -/
def itemEntities : List Value → List Entity
  | [] => []
  | v :: rest => v.entities ++ itemEntities rest

/-- The entities of the entries of a map, in keys and values. -/
def entryEntities : List (Value × Value) → List Entity
  | [] => []
  | (k, v) :: rest => k.entities ++ v.entities ++ entryEntities rest

end

def Field.entities (f : Field) : List Entity :=
  f.type.entities ++ f.default.toList.flatMap Value.entities

def Function.entities (f : Function) : List Entity :=
  f.result.toList.flatMap Ty.entities ++ f.params.flatMap Field.entities
    ++ f.exceptions.flatMap Field.entities

def Record.entities (r : Record) : List Entity := r.fields.flatMap Field.entities

def Constant.entities (c : Constant) : List Entity := c.type.entities ++ c.value.entities

def Service.entities (v : Service) : List Entity :=
  v.base.toList ++ v.functions.flatMap Function.entities

/-- Every entity that occurs in a linked module; its enums mention none. -/
def Module.entities (M : Module) : List Entity :=
  M.typedefs.flatMap (fun t => t.2.entities) ++ M.records.flatMap Record.entities
    ++ M.constants.flatMap Constant.entities ++ M.services.flatMap Service.entities

end Linked

open Workspace

variable {settings : Settings} {src : Sources} {w : Workspace} {table : SymbolTable}
  {m : Option String}

/-! ### Linking takes entities from the table -/

/-- Some entities are all symbols of the table. -/
def Sourced (table : SymbolTable) (es : List Entity) : Prop :=
  ∀ e ∈ es, ∃ key, table.get? key = some (.definition e)

namespace Sourced

theorem nil : Sourced table [] := fun _ he => absurd he List.not_mem_nil

theorem append {es fs : List Entity} (he : Sourced table es) (hf : Sourced table fs) :
    Sourced table (es ++ fs) := fun e h => (List.mem_append.1 h).elim (he e) (hf e)

theorem of_append {es fs : List Entity} (h : Sourced table (es ++ fs)) :
    Sourced table es ∧ Sourced table fs :=
  ⟨fun e he => h e (List.mem_append_left fs he), fun e he => h e (List.mem_append_right es he)⟩

theorem flatMap {α : Type} {xs : List α} {f : α → List Entity}
    (h : ∀ x ∈ xs, Sourced table (f x)) : Sourced table (xs.flatMap f) := by
  intro e he
  obtain ⟨x, hx, he⟩ := List.mem_flatMap.1 he
  exact h x hx e he

theorem of_lookup {n key : String} {e : Entity}
    (h : (Scope.of table m).lookup n = some (key, .definition e)) : Sourced table [e] := by
  intro e' he'
  rw [List.mem_singleton.1 he']
  exact ⟨key, Scope.get?_of_lookup h⟩

/-- Whatever module a type is read in, its entities are symbols. -/
theorem of_denotes {t : TypeExpr} {T : Linked.Ty} (h : Denotes table m t T) :
    Sourced table T.entities := by
  induction h with
  | primitive => exact nil
  | list _ ih => exact ih
  | set _ ih => exact ih
  | map _ _ ihk ihv => exact ihk.append ihv
  | definition hlook => exact of_lookup hlook
  | typedef _ _ ih => exact ih

theorem type {t : TypeExpr} {T : Linked.Ty} (h : (Scope.of table m).resolveType t = .ok T) :
    Sourced table T.entities := of_denotes (resolveType_iff_denotes.1 h)

mutual

theorem value : ∀ {c : ConstExpr} {v : Linked.Value}, (Scope.of table m).resolveValue c = .ok v →
    Sourced table v.entities
  | .bool _, _, h => by
    rw [Scope.resolveValue] at h
    cases h
    exact nil
  | .int _, _, h => by
    rw [Scope.resolveValue] at h
    cases h
    exact nil
  | .double _, _, h => by
    rw [Scope.resolveValue] at h
    cases h
    exact nil
  | .string _, _, h => by
    rw [Scope.resolveValue] at h
    cases h
    exact nil
  | .list cs, _, h => by
    rw [Scope.resolveValue, map_eq_ok_iff] at h
    obtain ⟨vs, hvs, rfl⟩ := h
    exact items hvs
  | .map es, _, h => by
    rw [Scope.resolveValue, map_eq_ok_iff] at h
    obtain ⟨vs, hvs, rfl⟩ := h
    exact entries hvs
  | .named n, _, h => by
    obtain ⟨_, _, hlook, rfl⟩ := Scope.resolveValue_named_eq_ok_iff.1 h
    exact of_lookup hlook

theorem items : ∀ {cs : List ConstExpr} {vs : List Linked.Value},
    (Scope.of table m).resolveItems cs = .ok vs → Sourced table (Linked.itemEntities vs)
  | [], _, h => by
    rw [Scope.resolveItems] at h
    cases h
    exact nil
  | c :: rest, _, h => by
    rw [Scope.resolveItems] at h
    obtain ⟨v, hv, h⟩ := bind_eq_ok_iff.1 h
    obtain ⟨vs, hvs, h⟩ := bind_eq_ok_iff.1 h
    cases h
    exact (value hv).append (items hvs)

theorem entries : ∀ {es : List (ConstExpr × ConstExpr)} {vs : List (Linked.Value × Linked.Value)},
    (Scope.of table m).resolveEntries es = .ok vs → Sourced table (Linked.entryEntities vs)
  | [], _, h => by
    rw [Scope.resolveEntries] at h
    cases h
    exact nil
  | (k, c) :: rest, _, h => by
    rw [Scope.resolveEntries] at h
    obtain ⟨key, hkey, h⟩ := bind_eq_ok_iff.1 h
    obtain ⟨v, hv, h⟩ := bind_eq_ok_iff.1 h
    obtain ⟨vs, hvs, h⟩ := bind_eq_ok_iff.1 h
    cases h
    exact ((value hkey).append (value hv)).append (entries hvs)

end

/-- What may be absent has the entities of what it is, if it is there. -/
theorem option {α β : Type} {f : α → Except ResolveError β} {g : β → List Entity}
    (hf : ∀ {a b}, f a = .ok b → Sourced table (g b)) {o : Option α} {o' : Option β}
    (h : Scope.resolveOption f o = .ok o') : Sourced table (o'.toList.flatMap g) := by
  cases o with
  | none =>
    cases h
    exact nil
  | some a =>
    obtain ⟨b, hb, rfl⟩ := map_eq_ok_iff.1 h
    refine flatMap fun x hx => ?_
    rw [List.mem_singleton.1 hx]
    exact hf hb

theorem list {α β : Type} {f : α → Except ResolveError β} {g : β → List Entity}
    (hf : ∀ {a b}, f a = .ok b → Sourced table (g b)) {as : List α} {bs : List β}
    (h : as.mapM f = .ok bs) : Sourced table (bs.flatMap g) := by
  refine flatMap fun b hb => ?_
  obtain ⟨a, _, ha⟩ := (mem_mapM_iff h).1 hb
  exact hf ha

theorem field {f : Field} {F : Linked.Field} (h : (Scope.of table m).resolveField f = .ok F) :
    Sourced table F.entities := by
  obtain ⟨T, hT, h⟩ := bind_eq_ok_iff.1 h
  obtain ⟨default, hdefault, h⟩ := bind_eq_ok_iff.1 h
  cases h
  exact (type hT).append (option value hdefault)

theorem function {f : Function} {F : Linked.Function}
    (h : (Scope.of table m).resolveFunction f = .ok F) : Sourced table F.entities := by
  obtain ⟨result, hresult, h⟩ := bind_eq_ok_iff.1 h
  obtain ⟨params, hparams, h⟩ := bind_eq_ok_iff.1 h
  obtain ⟨exceptions, hexceptions, h⟩ := bind_eq_ok_iff.1 h
  cases h
  exact ((option type hresult).append (list field hparams)).append (list field hexceptions)

theorem typedef {n : String} {p : String × Linked.Ty}
    (h : linkTypedef (Scope.of table m) n = .ok p) : Sourced table p.2.entities := by
  obtain ⟨T, hT, h⟩ := bind_eq_ok_iff.1 h
  cases h
  exact type hT

theorem record {module : String} {r : Record} {R : Linked.Record}
    (h : w.linkRecord (Scope.of table m) module r = .ok R) : Sourced table R.entities := by
  obtain ⟨destination, _, h⟩ := bind_eq_ok_iff.1 h
  obtain ⟨fields, hfields, h⟩ := bind_eq_ok_iff.1 h
  cases h
  exact list field hfields

theorem constant {c : Constant} {C : Linked.Constant}
    (h : linkConstant (Scope.of table m) c = .ok C) : Sourced table C.entities := by
  obtain ⟨T, hT, h⟩ := bind_eq_ok_iff.1 h
  obtain ⟨v, hv, h⟩ := bind_eq_ok_iff.1 h
  cases h
  exact (type hT).append (value hv)

end Sourced

/-- The base of a service is what its name stands for, and a service. -/
theorem resolveService_eq_ok {s : Scope} {n : String} {e : Entity} (h : s.resolveService n = .ok e) :
    s.resolveName n = .ok (.named e) ∧ e.kind = .service := by
  obtain ⟨T, hT, h⟩ := bind_eq_ok_iff.1 h
  cases T with
  | named e' =>
    by_cases hk : e'.kind = .service
    · simp only [if_pos hk] at h
      cases h
      exact ⟨hT, hk⟩
    · simp only [if_neg hk] at h
      cases h
  | _ => cases h

theorem resolveBase_eq_ok {s : Scope} {v : Service} {base : Option Entity}
    (h : s.resolveBase v = .ok base) {e : Entity} (he : e ∈ base) :
    ∃ n, s.resolveName n = .ok (.named e) ∧ e.kind = .service := by
  rw [Scope.resolveBase] at h
  cases hbase : v.base with
  | none =>
    rw [hbase] at h
    cases h
    cases he
  | some n =>
    rw [hbase] at h
    obtain ⟨e', he', rfl⟩ := map_eq_ok_iff.1 h
    cases he
    exact ⟨n, resolveService_eq_ok he'⟩

theorem linkService_eq_ok {s : Scope} {module : String} {v : Service} {V : Linked.Service}
    (h : w.linkService s module v = .ok V) :
    s.resolveBase v = .ok V.base ∧ v.functions.values.mapM s.resolveFunction = .ok V.functions := by
  obtain ⟨destination, _, h⟩ := bind_eq_ok_iff.1 h
  obtain ⟨base, hbase, h⟩ := bind_eq_ok_iff.1 h
  obtain ⟨functions, hfunctions, h⟩ := bind_eq_ok_iff.1 h
  cases h
  exact ⟨hbase, hfunctions⟩

theorem Sourced.service {module : String} {v : Service} {V : Linked.Service}
    (h : w.linkService (Scope.of table m) module v = .ok V) : Sourced table V.entities := by
  obtain ⟨hbase, hfunctions⟩ := linkService_eq_ok h
  have hsourced : Sourced table V.base.toList := by
    intro e he
    obtain ⟨n, hn, _⟩ := resolveBase_eq_ok hbase (Option.mem_toList.1 he)
    exact Sourced.type hn e (List.mem_singleton_self e)
  exact hsourced.append (list function hfunctions)

/-- All entities of a linked module are symbols, and the bases of its services are services. -/
theorem sourced_linkIn {module : String} {schema : Schema} {M : Linked.Module}
    (h : w.linkIn (Scope.of table m) module schema = .ok M) :
    Sourced table M.entities ∧ ∀ V ∈ M.services, ∀ e ∈ V.base, e.kind = .service := by
  obtain ⟨_, _, _, htypedefs, _, hrecords, hconstants, hservices⟩ := linkIn_eq_ok_iff.1 h
  constructor
  · exact (((Sourced.list Sourced.typedef htypedefs).append (Sourced.list Sourced.record hrecords)).append
      (Sourced.list Sourced.constant hconstants)).append (Sourced.list Sourced.service hservices)
  · intro V hV e he
    obtain ⟨v, _, hv⟩ := (mem_mapM_iff hservices).1 hV
    obtain ⟨_, _, hkind⟩ := resolveBase_eq_ok (linkService_eq_ok hv).1 he
    exact hkind

/-! ### What is declared is found again -/

/-- A definition that a file holds in the category of a kind, by the name that it has itself. -/
inductive Schema.Defines (s : Schema) : EntityKind → String → Definition → Prop
  | struct {r} : r ∈ s.structs.values → s.Defines (.record .struct) r.name (.record r)
  | union {r} : r ∈ s.unions.values → s.Defines (.record .union) r.name (.record r)
  | exception {r} : r ∈ s.exceptions.values → s.Defines (.record .exception) r.name (.record r)
  | enum {e} : e ∈ s.enums.values → s.Defines .enum e.name (.enum e)
  | enumMember {e m} : e ∈ s.enums.values → m ∈ e.members →
      s.Defines (.enumMember m.value) (memberName e.name m.name) (.enumMember e m)
  | service {v} : v ∈ s.services.values → s.Defines .service v.name (.service v)
  | constant {c} : c ∈ s.constants.values → s.Defines .constant c.name (.constant c)

/-- Every definition stands under its own name, and every record in the category of its role.  A
member is told from its enum by the first point, so of all names only those of enums must have none. -/
structure Schema.WellNamed (s : Schema) : Prop where
  structs : ∀ e ∈ s.structs.entries, e.2.name = e.1 ∧ e.2.kind = .struct
  unions : ∀ e ∈ s.unions.entries, e.2.name = e.1 ∧ e.2.kind = .union
  exceptions : ∀ e ∈ s.exceptions.entries, e.2.name = e.1 ∧ e.2.kind = .exception
  enums : ∀ e ∈ s.enums.entries,
    e.2.name = e.1 ∧ '.' ∉ e.1.toList ∧ (e.2.members.map EnumMember.name).Nodup
  services : ∀ e ∈ s.services.entries, e.2.name = e.1
  constants : ∀ e ∈ s.constants.entries, e.2.name = e.1

theorem mem_values_of_get? {β : Type} {map : OrderedMap String β} {n : String} {b : β}
    (h : map.get? n = some b) : b ∈ map.values :=
  List.mem_map_of_mem (OrderedMap.get?_eq_some_iff.1 h)

/-- Records that stand under their names are found by them. -/
theorem get?_name_of_mem {map : OrderedMap String Record} {kind : RecordKind}
    (h : ∀ e ∈ map.entries, e.2.name = e.1 ∧ e.2.kind = kind) {r : Record} (hr : r ∈ map.values) :
    map.get? r.name = some r ∧ r.kind = kind := by
  obtain ⟨e, he, rfl⟩ := List.mem_map.1 hr
  obtain ⟨hname, hkind⟩ := h e he
  rw [hname]
  exact ⟨OrderedMap.get?_eq_some_iff.2 he, hkind⟩

/-- Among members with distinct names a name finds its own member. -/
theorem member?_of_mem {e : Enumeration} (hnodup : (e.members.map EnumMember.name).Nodup)
    {m : EnumMember} (hm : m ∈ e.members) : e.member? m.name = some m := by
  rw [Enumeration.member?]
  generalize e.members = ms at hnodup hm
  induction ms with
  | nil => cases hm
  | cons m' rest ih =>
    obtain ⟨hfirst, hrest⟩ := List.nodup_cons.1 hnodup
    rcases List.mem_cons.1 hm with rfl | hm
    · rw [List.find?_cons_of_pos (by simp)]
    · have hne : m'.name ≠ m.name := fun he => hfirst (he ▸ List.mem_map_of_mem hm)
      rw [List.find?_cons_of_neg (by simpa using hne)]
      exact ih hrest hm

/-- Whatever name a file declares, the kind that goes with it finds the definition. -/
theorem Schema.WellNamed.definition?_of_declares {s : Schema} (h : s.WellNamed) {n : String}
    {kind : EntityKind} (hd : s.Declares n kind) :
    ∃ d, s.definition? kind n = some d ∧ s.Defines kind n d := by
  cases hd with
  | constant hn =>
    obtain ⟨c, hc⟩ := OrderedMap.mem_keys_iff.1 hn
    obtain rfl : c.name = n := h.constants (n, c) (OrderedMap.get?_eq_some_iff.1 hc)
    exact ⟨.constant c, by rw [definition?, hc]; rfl, .constant (mem_values_of_get? hc)⟩
  | service hn =>
    obtain ⟨v, hv⟩ := OrderedMap.mem_keys_iff.1 hn
    obtain rfl : v.name = n := h.services (n, v) (OrderedMap.get?_eq_some_iff.1 hv)
    exact ⟨.service v, by rw [definition?, hv]; rfl, .service (mem_values_of_get? hv)⟩
  | @record r hr =>
    rcases List.mem_append.1 hr with hr | hr
    · rcases List.mem_append.1 hr with hr | hr
      · obtain ⟨hfound, hkind⟩ := get?_name_of_mem h.structs hr
        rw [hkind]
        exact ⟨.record r, by rw [definition?, hfound]; rfl, .struct hr⟩
      · obtain ⟨hfound, hkind⟩ := get?_name_of_mem h.exceptions hr
        rw [hkind]
        exact ⟨.record r, by rw [definition?, hfound]; rfl, .exception hr⟩
    · obtain ⟨hfound, hkind⟩ := get?_name_of_mem h.unions hr
      rw [hkind]
      exact ⟨.record r, by rw [definition?, hfound]; rfl, .union hr⟩
  | enum hn =>
    obtain ⟨e, he⟩ := OrderedMap.mem_keys_iff.1 hn
    obtain ⟨rfl, _⟩ : e.name = n ∧ _ := h.enums (n, e) (OrderedMap.get?_eq_some_iff.1 he)
    exact ⟨.enum e, by rw [definition?, he]; rfl, .enum (mem_values_of_get? he)⟩
  | @enumMember _ m hr hm =>
    obtain ⟨e, he, rfl⟩ := List.mem_map.1 hr
    obtain ⟨hname, hplain, hnodup⟩ := h.enums e he
    have hfound := OrderedMap.get?_eq_some_iff.2 he
    rw [← hname] at hfound hplain
    -- a second cut, at the point between the enum and the member
    refine ⟨.enumMember e.2 m, ?_, .enumMember hr hm⟩
    rw [definition?, splitOnce_memberName hplain]
    simp only [Option.bind_eq_bind, Option.bind_some, hfound, member?_of_mem hnodup hm]
    rfl

/-! ### The forecast with every name resolved -/

theorem forecast_wellNamed : ∀ m s, forecast.schemas.get? m = some s → s.WellNamed := by
  intro m s hs
  rcases forecast_files hs with ⟨-, rfl⟩ | ⟨-, rfl⟩
  · constructor <;> decide
  · constructor <;> decide

def forecastLinked : Linked.Module where
  name := "forecast"
  namespaceName := none
  constantsModule := ⟨["Forecast"]⟩
  typedefs := [("Day", forecastDay)]
  enums := []
  records :=
    [⟨"Report", .struct, ⟨["Report"]⟩,
      [⟨some 1, "day", forecastDay, .required, none⟩,
       ⟨some 2, "sky", .named ⟨"common.Weather", .enum⟩, .default,
        some (.named ⟨"common.Weather.RAINY", .enumMember 7⟩)⟩]⟩,
     ⟨"Late", .exception, ⟨["Late"]⟩, []⟩]
  constants :=
    [⟨"USUAL", .list (.named ⟨"common.Weather", .enum⟩),
      .list [.named ⟨"common.Weather.SUNNY", .enumMember 0⟩,
        .named ⟨"common.Weather.RAINY", .enumMember 7⟩]⟩]
  services :=
    [⟨"Forecasts", ⟨["Forecasts"]⟩, some ⟨"common.Base", .service⟩,
      [⟨"today", false, some (.named ⟨"forecast.Report", .record .struct⟩), [],
        [⟨some 1, "late", .named ⟨"forecast.Late", .record .exception⟩, .default, none⟩]⟩]⟩]

theorem forecast_link : forecast.link "forecast" = .ok forecastLinked := by
  have hschema : forecast.schemas.get? "forecast" = some forecastRoot := rfl
  rw [link_of_mem forecast_loaded.reachable.upToDate hschema]
  obtain ⟨hweather, hday, hreport, hlate, hbase⟩ := forecast_denotes
  have hweathers := resolveType_iff_denotes.2 (.list hweather)
  rw [← resolveType_iff_denotes] at hweather hday hreport hlate hbase
  have hsunny : (Scope.of forecast.symbols (some "forecast")).resolveValue
      (.named "common.Weather.SUNNY") = .ok (.named ⟨"common.Weather.SUNNY", .enumMember 0⟩) := rfl
  have hrainy : (Scope.of forecast.symbols (some "forecast")).resolveValue
      (.named "common.Weather.RAINY") = .ok (.named ⟨"common.Weather.RAINY", .enumMember 7⟩) := rfl
  -- the names are all that is asked of the scope
  generalize Scope.of forecast.symbols (some "forecast") = s at *
  have htypedefs : forecastRoot.typedefs.keys.mapM (linkTypedef s) =
      .ok forecastLinked.typedefs :=
    mapM_cons_eq_ok (bind_eq_ok_iff.2 ⟨_, hday, rfl⟩) rfl
  have hrecords : (forecastRoot.structs.values ++ forecastRoot.unions.values ++
      forecastRoot.exceptions.values).mapM (forecast.linkRecord s "forecast") =
      .ok forecastLinked.records := by
    have hfirst : s.resolveField ⟨some 1, .required, .named "Day", "day", none⟩ =
        .ok ⟨some 1, "day", forecastDay, .required, none⟩ :=
      bind_eq_ok_iff.2 ⟨_, hday, rfl⟩
    have hsecond : s.resolveField ⟨some 2, .default, .named "common.Weather", "sky",
          some (.named "common.Weather.RAINY")⟩ =
        .ok ⟨some 2, "sky", .named ⟨"common.Weather", .enum⟩, .default,
          some (.named ⟨"common.Weather.RAINY", .enumMember 7⟩)⟩ :=
      bind_eq_ok_iff.2 ⟨_, hweather,
        bind_eq_ok_iff.2 ⟨_, map_eq_ok_iff.2 ⟨_, hrainy, rfl⟩, rfl⟩⟩
    have hfields := mapM_cons_eq_ok hfirst (mapM_cons_eq_ok hsecond List.mapM_nil)
    exact mapM_cons_eq_ok (bind_eq_ok_iff.2 ⟨_, rfl, bind_eq_ok_iff.2 ⟨_, hfields, rfl⟩⟩)
      (mapM_cons_eq_ok (bind_eq_ok_iff.2 ⟨_, rfl, rfl⟩) rfl)
  have hconstants : forecastRoot.constants.values.mapM (linkConstant s) =
      .ok forecastLinked.constants := by
    have hitems : s.resolveItems [.named "common.Weather.SUNNY", .named "common.Weather.RAINY"] =
        .ok [.named ⟨"common.Weather.SUNNY", .enumMember 0⟩,
          .named ⟨"common.Weather.RAINY", .enumMember 7⟩] := by
      rw [Scope.resolveItems, Scope.resolveItems, Scope.resolveItems, hsunny, hrainy]
      rfl
    have hvalue : s.resolveValue (.list [.named "common.Weather.SUNNY",
          .named "common.Weather.RAINY"]) = .ok (.list [.named ⟨"common.Weather.SUNNY", .enumMember 0⟩,
          .named ⟨"common.Weather.RAINY", .enumMember 7⟩]) := by
      rw [Scope.resolveValue, hitems]
      rfl
    exact mapM_cons_eq_ok (bind_eq_ok_iff.2 ⟨_, hweathers, bind_eq_ok_iff.2 ⟨_, hvalue, rfl⟩⟩) rfl
  have hservices : forecastRoot.services.values.mapM (forecast.linkService s "forecast") =
      .ok forecastLinked.services := by
    have hservice : s.resolveService "common.Base" = .ok ⟨"common.Base", .service⟩ :=
      bind_eq_ok_iff.2 ⟨_, hbase, rfl⟩
    have hexception : s.resolveField ⟨some 1, .default, .named "Late", "late", none⟩ =
        .ok ⟨some 1, "late", .named ⟨"forecast.Late", .record .exception⟩, .default, none⟩ :=
      bind_eq_ok_iff.2 ⟨_, hlate, rfl⟩
    have htoday : s.resolveFunction ⟨"today", false, some (.named "Report"), [],
          [⟨some 1, .default, .named "Late", "late", none⟩]⟩ =
        .ok ⟨"today", false, some (.named ⟨"forecast.Report", .record .struct⟩), [],
          [⟨some 1, "late", .named ⟨"forecast.Late", .record .exception⟩, .default, none⟩]⟩ :=
      bind_eq_ok_iff.2 ⟨_, map_eq_ok_iff.2 ⟨_, hreport, rfl⟩, bind_eq_ok_iff.2 ⟨_, rfl,
        bind_eq_ok_iff.2 ⟨_, mapM_cons_eq_ok hexception rfl, rfl⟩⟩⟩
    exact mapM_cons_eq_ok (bind_eq_ok_iff.2 ⟨_, rfl, bind_eq_ok_iff.2
      ⟨_, map_eq_ok_iff.2 ⟨_, hservice, rfl⟩, bind_eq_ok_iff.2
        ⟨_, mapM_cons_eq_ok htoday rfl, rfl⟩⟩⟩) rfl
  exact linkIn_eq_ok_iff.2 ⟨rfl, rfl, rfl, htypedefs, rfl, hrecords, hconstants, hservices⟩

theorem forecast_plain : ∀ m ∈ forecast.schemas.keys, '.' ∉ m.toList := by
  have hkeys : forecast.schemas.keys = ["forecast", "common"] := rfl
  rw [hkeys]
  decide

/-- **No entity of a linked module dangles.**  Let the modules of a loaded workspace have names
without points and its files be well named.  Every entity that occurs in a linked module, at whatever
depth, is the symbol under its own name, and leads to the definition of that name in the category of
its kind, for a member of an enum to the one with its number; and a service extends a service. -/
theorem linked_entities_defined (h : Loaded settings src w)
    (hplain : ∀ m ∈ w.schemas.keys, '.' ∉ m.toList)
    (hnamed : ∀ m s, w.schemas.get? m = some s → s.WellNamed) {module : String} {M : Linked.Module}
    (hlink : w.link module = .ok M) :
    (∀ e ∈ M.entities, w.symbols.get? e.name = some (.definition e) ∧
      ∃ m s n d, w.schemas.get? m = some s ∧ e.name = qualify m n ∧
        w.definition? e = some d ∧ s.Defines e.kind n d) ∧
    ∀ V ∈ M.services, ∀ e, V.base = some e → e.kind = .service := by
  have hreachable := h.reachable
  obtain ⟨schema, hschema⟩ : ∃ schema, w.schemas.get? module = some schema := by
    cases hs : w.schemas.get? module with
    | none =>
      rw [link_of_not_mem hs] at hlink
      cases hlink
    | some schema => exact ⟨schema, rfl⟩
  rw [link_of_mem hreachable.upToDate hschema] at hlink
  obtain ⟨hsourced, hbases⟩ := sourced_linkIn hlink
  refine ⟨fun e he => ?_, fun V hV e he => hbases V hV e he⟩
  obtain ⟨key, hkey⟩ := hsourced e he
  -- whatever name was looked up, the key that was found is the name of the entity
  obtain rfl := hreachable.sound.name_of_definition hkey
  obtain ⟨m, s, hs, hdeclared⟩ := h.declared_of_get? hkey
  obtain ⟨n, hn, ⟨kind, hd, he⟩ | ⟨_, _, he⟩⟩ := mem_symbolEntries hdeclared
  · have hkind : e.kind = kind := by rw [Symbol.definition.inj he]
    rw [← hkind] at hd
    obtain ⟨d, hfound, hdefines⟩ := (hnamed m s hs).definition?_of_declares hd
    refine ⟨hkey, m, s, n, d, hs, hn, ?_, hdefines⟩
    -- the first point is the one after the module, as this has none itself
    have hcut := splitOnce_qualify (hplain m (OrderedMap.mem_keys_of_get? hs)) n
    rw [← hn] at hcut
    simp only [definition?, hcut, Option.bind_eq_bind, Option.bind_some, hs, hfound]
  · cases he

/-- A member of the enum that the forecast shares is found by the number that the entity carries. -/
theorem forecast_entities_defined :
    Loaded .standard forecastFiles.toSources forecast ∧
      (∀ m ∈ forecast.schemas.keys, '.' ∉ m.toList) ∧
      (∀ m s, forecast.schemas.get? m = some s → s.WellNamed) ∧
      forecast.link "forecast" = .ok forecastLinked ∧
      ⟨"common.Weather.RAINY", .enumMember 7⟩ ∈ forecastLinked.entities ∧
      ∃ e m, forecast.definition? ⟨"common.Weather.RAINY", .enumMember 7⟩ =
        some (.enumMember e m) ∧ m.value = 7 := by
  have hrainy : ⟨"common.Weather.RAINY", .enumMember 7⟩ ∈ forecastLinked.entities := by decide
  have hdefined := linked_entities_defined forecast_loaded forecast_plain forecast_wellNamed forecast_link
  obtain ⟨_, _, _, _, d, _, _, hfound, hdefines⟩ := hdefined.1 _ hrainy
  refine ⟨forecast_loaded, forecast_plain, forecast_wellNamed, forecast_link, hrainy, ?_⟩
  generalize hkind : EntityKind.enumMember 7 = kind at hdefines
  cases hdefines with
  | enumMember => exact ⟨_, _, hfound, (EntityKind.enumMember.inj hkind).symm⟩
  | _ => cases hkind

end IdlLink
