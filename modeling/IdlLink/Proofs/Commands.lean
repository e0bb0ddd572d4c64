/-
What a check that passes says about linking.

The check counts what is wrong in all units and goes on; linking stops at the first thing that is
wrong.  Each unit is on its own, and in a unit the two agree:

* `problems_eq_nil_iff` — a unit without problems was read with all its includes, and is clean;
* `exists_link` — in such a unit every module that can be asked for is linked;
* `ofString_documentOf` — what is printed of linked modules reads as the list of their documents;
* `passing_check_resolves` — so what passes the check is linked as a whole, and what was not read
  stops both.
-/
import IdlLink.Command.Run
import IdlLink.Proofs.Linking
import IdlLink.Proofs.Reaching
import IdlLink.Proofs.RoundTrip

namespace IdlLink

open Workspace

variable {settings : Settings} {src : Sources} {root : SourcePath} {w : Workspace}

/-! ### Modules of a clean workspace -/

/-- Every module of a loaded workspace without failures is linked, under its own name. -/
theorem exists_link_of_clean (h : Loaded settings src w) (hclean : w.Clean) {m : String}
    (hm : m ∈ w.schemas.keys) : ∃ M, w.link m = .ok M ∧ M.name = m := by
  obtain ⟨schema, hs⟩ := OrderedMap.mem_keys_iff.1 hm
  rw [link_of_mem h.reachable.upToDate hs]
  have hnames : ∀ n ∈ schema.typedefs.keys,
      Succeeds ((Scope.of w.symbols (some m)).resolveName n) :=
    fun n hn => succeeds_resolveName_of_typedef h hclean hs hn
  obtain ⟨M, hM⟩ := (succeeds_linkIn_iff hs).2
    ⟨hnames, (Scope.resolves_references_iff.1 (hclean m schema hs)).2⟩
  exact ⟨M, hM, (linkIn_eq_ok_iff.1 hM).name_eq⟩

/-- The initial module of a load is that of its root. -/
theorem initial_of_load {r : Intake} (h : load settings src root = .ok r) :
    r.workspace.initial = some root.moduleName := by
  obtain ⟨schema, hparse, _⟩ := workspace_of_load h
  obtain ⟨r', hload, hclosing, _⟩ := exists_load settings hparse
  obtain rfl : r = r' := Except.ok.inj (h.symm.trans hload)
  rw [(Loaded.load h).reachable.sound.initial_eq]
  exact hclosing.gathered.first

namespace Command

variable {t : FileTree} {u : RootUnit} {units : List RootUnit}

/-! ### One unit -/

/-- The root of a unit or one of its includes could not be read. -/
def RootUnit.Unread (u : RootUnit) : Prop :=
  (∃ e, u.loaded = .error e) ∨ ∃ r, u.loaded = .ok r ∧ r.errors ≠ []

/-- The modules that a unit is asked for, with its workspace: that of the root, or all that were
registered, in order. -/
def RootUnit.asked (all : Bool) (u : RootUnit) : List (Workspace × String) :=
  match u.loaded with
  | .error _ => []
  | .ok r => (if all then r.workspace.schemas.keys else [u.root.moduleName]).map (r.workspace, ·)

theorem problems_eq_nil_iff :
    u.problems = [] ↔ ∃ r, u.loaded = .ok r ∧ r.errors = [] ∧ r.workspace.check = [] := by
  rw [RootUnit.problems]
  cases u.loaded with
  | error e => simp
  | ok r => simp

theorem problems_ne_nil_of_unread (h : u.Unread) : u.problems ≠ [] := by
  intro hnil
  obtain ⟨r, hr, herrors, _⟩ := problems_eq_nil_iff.1 hnil
  rcases h with ⟨e, he⟩ | ⟨r', hr', hne⟩
  · rw [hr] at he
    cases he
  · rw [hr] at hr'
    cases hr'
    exact hne herrors

/-! ### Linking unit by unit -/

/-- Where every element has a result, so has the list, element by element. -/
theorem exists_mapM_eq_ok {α β ε : Type} {f : α → Except ε β} {P : α → β → Prop} {xs : List α}
    (h : ∀ x ∈ xs, ∃ y, f x = .ok y ∧ P x y) :
    ∃ ys, xs.mapM f = .ok ys ∧ List.Forall₂ P xs ys := by
  induction xs with
  | nil => exact ⟨[], rfl, .nil⟩
  | cons x rest ih =>
    rw [List.forall_mem_cons] at h
    obtain ⟨⟨y, hy, hP⟩, hrest⟩ := h
    obtain ⟨ys, hys, hPs⟩ := ih hrest
    exact ⟨y :: ys, mapM_cons_eq_ok hy hys, .cons hP hPs⟩

/-- A module is what linking makes of a name in a workspace. -/
def IsLinkOf (a : Workspace × String) (M : Linked.Module) : Prop :=
  a.1.link a.2 = .ok M ∧ M.name = a.2

/-- Linking has one result. -/
theorem rightUnique_isLinkOf : Relator.RightUnique IsLinkOf :=
  fun _ _ _ h h' => Except.ok.inj (h.1.symm.trans h'.1)

/-- In a unit without problems all modules that it is asked for are linked. -/
theorem exists_link (hload : u.loaded = Workspace.load settings t.toSources u.root)
    (hclean : u.problems = []) (all : Bool) :
    ∃ ms, u.link all = .ok ms ∧ List.Forall₂ IsLinkOf (u.asked all) ms := by
  obtain ⟨r, hr, herrors, hcheck⟩ := problems_eq_nil_iff.1 hclean
  have hr' : Workspace.load settings t.toSources u.root = .ok r := hload.symm.trans hr
  have hloaded : Loaded settings t.toSources r.workspace := .load hr'
  have hinitial := initial_of_load hr'
  have hwanted : wantedModules all r.workspace =
      if all then r.workspace.schemas.keys else [u.root.moduleName] := by
    rw [wantedModules, hinitial, Option.toList_some]
  have hheld : ∀ m ∈ wantedModules all r.workspace, m ∈ r.workspace.schemas.keys := by
    intro m hm
    cases all with
    | true => exact hm
    | false =>
      rw [wantedModules, hloaded.reachable.sound.initial_eq] at hm
      exact List.mem_of_mem_head? (Option.mem_toList.1 hm)
  have hlink : ∀ m ∈ wantedModules all r.workspace,
      ∃ M, r.workspace.link m = .ok M ∧ IsLinkOf (r.workspace, m) M := by
    intro m hm
    obtain ⟨M, hM, hname⟩ :=
      exists_link_of_clean hloaded (check_eq_nil_iff.1 hcheck) (hheld m hm)
    exact ⟨M, hM, hM, hname⟩
  obtain ⟨ms, hms, hlinks⟩ := exists_mapM_eq_ok hlink
  refine ⟨ms, ?_, ?_⟩
  · simp only [RootUnit.link, hr, herrors, hms]
    rfl
  · rw [hwanted] at hlinks
    rw [RootUnit.asked, hr]
    exact List.forall₂_map_left_iff.2 hlinks

/-- What could not be read stops linking. -/
theorem link_of_unread (h : u.Unread) (all : Bool) : ∃ e, u.link all = .error e := by
  rcases h with ⟨e, he⟩ | ⟨r, hr, hne⟩
  · exact ⟨.parse e, by rw [RootUnit.link, he]⟩
  · obtain ⟨e, rest, herrors⟩ := List.exists_cons_of_ne_nil hne
    exact ⟨.parse e, by simp only [RootUnit.link, hr, herrors]⟩

theorem exists_linkedModules {all : Bool}
    (h : ∀ u ∈ units, ∃ ms, u.link all = .ok ms ∧ List.Forall₂ IsLinkOf (u.asked all) ms) :
    ∃ ms, linkedModules all units = .ok ms ∧
      List.Forall₂ IsLinkOf (units.flatMap (RootUnit.asked all)) ms := by
  obtain ⟨mss, hmss, hlinks⟩ := exists_mapM_eq_ok h
  refine ⟨mss.flatten, map_eq_ok_iff.2 ⟨mss, hmss, rfl⟩, ?_⟩
  rw [List.flatMap_def]
  exact List.rel_flatten (List.forall₂_map_left_iff.2 hlinks)

theorem linkedModules_of_error {all : Bool} (h : ∃ u ∈ units, ∃ e, u.link all = .error e) :
    ∃ e, linkedModules all units = .error e := by
  cases hlinked : linkedModules all units with
  | error e => exact ⟨e, rfl⟩
  | ok ms =>
    obtain ⟨mss, hmss, _⟩ := map_eq_ok_iff.1 hlinked
    obtain ⟨u, hu, e, he⟩ := h
    obtain ⟨_, hok⟩ := succeeds_mapM_iff.1 ⟨mss, hmss⟩ u hu
    rw [he] at hok
    cases hok

/-! ### Running -/

theorem exitCode_check :
    (check t units).exitCode = if ∀ u ∈ units, u.problems = [] then 0 else 1 := by
  simp only [check, List.isEmpty_iff, List.flatMap_eq_nil_iff]

theorem units_eq {i : Inputs} {paths : List (List SourcePath)}
    (hsettings : i.settings t = .ok settings) (hroots : i.roots.mapM (rootPaths t) = .ok paths) :
    i.units t = .ok (paths.flatten.map (RootUnit.load settings t)) := by
  rw [Inputs.units, hsettings, hroots]
  rfl

/-- A check succeeds when no unit has a problem. -/
theorem exitCode_run_check {i : Inputs} {paths : List (List SourcePath)}
    (hsettings : i.settings t = .ok settings) (hroots : i.roots.mapM (rootPaths t) = .ok paths) :
    (run t ⟨.check, i⟩).exitCode =
      if ∀ root ∈ paths.flatten, (RootUnit.load settings t root).problems = [] then 0 else 1 := by
  simp only [run, units_eq hsettings hroots, exitCode_check, List.forall_mem_map]

theorem run_resolve {i : Inputs} {paths : List (List SourcePath)}
    (hsettings : i.settings t = .ok settings) (hroots : i.roots.mapM (rootPaths t) = .ok paths)
    (all : Bool) (out : Option String) : run t ⟨.resolve all out, i⟩ =
      resolve t all out (paths.flatten.map (RootUnit.load settings t)) := by
  simp only [run, units_eq hsettings hroots]

/-- Where no double stands in linked modules, their document reads as the list of theirs. -/
theorem ofString_documentOf {ms : List Linked.Module} (h : ∀ M ∈ ms, M.toJson.Exact) :
    Json.Node.ofString (documentOf ms) = .list (ms.map fun M => M.toJson.node) none := by
  have hexact : (Json.Value.list (ms.map Linked.Module.toJson)).Exact :=
    Json.exactItems_iff.2 (List.forall_mem_map.2 h)
  rw [documentOf, Json.ofString_pretty hexact, Json.Value.node, Json.itemNodes_eq_map, List.map_map]
  rfl

/-- **What passes the check is linked.**  Where the settings and the roots of an invocation are
known, its check succeeds exactly when every root and every include is read and no reference fails.
Then the modules of the roots are linked, in the order of the roots, and so are all modules of all
workspaces, in the order of registration.  What is printed is the list of their documents, one value
to a line, and it reads as that list again.  A root or an include that could not be read makes both
fail. -/
theorem passing_check_resolves {i : Inputs} {paths : List (List SourcePath)}
    (hsettings : i.settings t = .ok settings) (hroots : i.roots.mapM (rootPaths t) = .ok paths) :
    ((run t ⟨.check, i⟩).exitCode = 0 ↔ ∀ root ∈ paths.flatten,
        ∃ r, load settings t.toSources root = .ok r ∧ r.errors = [] ∧ r.workspace.check = []) ∧
      ((run t ⟨.check, i⟩).exitCode = 0 → ∀ all, ∃ ms text,
        run t ⟨.resolve all none, i⟩ = ⟨0, [text], [], t⟩ ∧
          text = (Json.Value.list (ms.map Linked.Module.toJson)).pretty ∧
          ((∀ M ∈ ms, M.toJson.Exact) →
            Json.Node.ofString text = .list (ms.map fun M => M.toJson.node) none) ∧
          List.Forall₂ IsLinkOf
            ((paths.flatten.map (RootUnit.load settings t)).flatMap (RootUnit.asked all)) ms) ∧
      ((∃ root ∈ paths.flatten, (RootUnit.load settings t root).Unread) →
        (run t ⟨.check, i⟩).exitCode = 1 ∧
          ∀ all out, (run t ⟨.resolve all out, i⟩).exitCode = 1) := by
  have hcheck := exitCode_run_check hsettings hroots
  refine ⟨?_, fun hpass all => ?_, fun ⟨root, hroot, hunread⟩ => ⟨?_, fun all out => ?_⟩⟩
  · simp only [hcheck, ite_eq_left_iff, Nat.one_ne_zero, imp_false, not_not, problems_eq_nil_iff]
    rfl
  · rw [hcheck, ite_eq_left_iff] at hpass
    have hclean := not_not.1 (mt hpass Nat.one_ne_zero)
    have hlinks : ∀ u ∈ paths.flatten.map (RootUnit.load settings t),
        ∃ ms, u.link all = .ok ms ∧ List.Forall₂ IsLinkOf (u.asked all) ms := by
      rw [List.forall_mem_map]
      exact fun root hroot => exists_link rfl (hclean root hroot) all
    obtain ⟨ms, hms, hforall⟩ := exists_linkedModules hlinks
    refine ⟨ms, documentOf ms, ?_, rfl, ofString_documentOf, hforall⟩
    rw [run_resolve hsettings hroots, resolve, hms]
    rfl
  · rw [hcheck, if_neg fun hclean => problems_ne_nil_of_unread hunread (hclean root hroot)]
  · obtain ⟨e, he⟩ := linkedModules_of_error
      ⟨_, List.mem_map_of_mem hroot, link_of_unread hunread all⟩
    rw [run_resolve hsettings hroots, resolve, he]
    rfl

/-! ### A ferry and its fares in a directory -/

/-- A file with a written schema is parsed as the schema. -/
theorem parse_of_written {p : SourcePath} {schema : Schema}
    (hread : t.read p = .ok (Text.toBytes schema.toText)) (hdouble : NoDoubles schema.references)
    (hdepth : schema.toJson.depth ≤ Json.maxNesting) : t.toSources.parse p = .ok schema := by
  have hschema : Schema.ofBytes (Text.toBytes schema.toText) = .ok schema :=
    (Schema.takes_toJson hdouble hdepth).readText.1
  change t.parse p = _
  rw [FileTree.parse, hread]
  change parsed p (Schema.ofBytes (Text.toBytes schema.toText)) = _
  rw [hschema]
  rfl

/-- A file with a struct, in terms of another file. -/
def ferrySchema : Schema :=
  { Schema.empty with
    namespaces := .ofList [("rs", ⟨"rs", "sea.lines"⟩)]
    includes := ["fare.thrift"]
    structs := .ofList [("Ticket", ⟨"Ticket", .struct,
      [⟨none, .required, .named "fare.Price", "price", none⟩]⟩)] }

def fareSchema : Schema :=
  { Schema.empty with
    typedefs := .ofList [("Price", .list (.primitive .i64))] }

def ferryTree : FileTree :=
  .directory [("fare.thrift", .file (Text.toBytes fareSchema.toText)),
    ("ferry.thrift", .file (Text.toBytes ferrySchema.toText))]

def ferryInputs (roots : List String) : Inputs := ⟨roots, [], none, none, none⟩

/-- The two files loaded, the ferry first. -/
def ferryModules : Workspace :=
  (((new .standard).register ⟨"ferry.thrift"⟩ ferrySchema).register ⟨"fare.thrift"⟩
    fareSchema).refresh

theorem load_ferryTree : load .standard ferryTree.toSources ⟨"ferry.thrift"⟩ =
    .ok ⟨ferryModules, [], [⟨"ferry.thrift"⟩, ⟨"fare.thrift"⟩]⟩ :=
  load_pair (parse_of_written rfl (by decide) (by decide)) rfl (by decide) (by decide)
    (parse_of_written rfl (by decide) (by decide)) rfl

theorem ferryModules_loaded : Loaded .standard ferryTree.toSources ferryModules :=
  .load load_ferryTree

/-- A pattern that only one of the two files matches. -/
theorem rootPaths_ferryTree : rootPaths ferryTree "ferr*" = .ok [⟨"ferry.thrift"⟩] := by
  have hexpand : (match Pattern.ofString "ferr*" with
      | .ok pattern => ferryTree.expand pattern
      | .error _ => []) = [⟨"ferry.thrift"⟩] := by decide +kernel
  rw [rootPaths, if_pos (by decide)]
  cases hpattern : Pattern.ofString "ferr*" with
  | error e =>
    rw [hpattern] at hexpand
    cases hexpand
  | ok pattern =>
    rw [hpattern] at hexpand
    change ferryTree.expand pattern = _ at hexpand
    simp only [hexpand]

/-- The one type that the struct is in terms of. -/
theorem resolveType_price : (Scope.of ferryModules.symbols (some "ferry")).resolveType
    (.named "fare.Price") = .ok (.list (.primitive .i64)) :=
  resolveType_iff_denotes.2 (.typedef rfl (.list .primitive))

theorem ferryModules_clean : ferryModules.Clean := by
  intro m s hs r hr
  rcases cases_of_schemas (rfl : ferryModules.schemas.entries = [("ferry", ferrySchema),
    ("fare", fareSchema)]) hs with ⟨rfl, rfl⟩ | ⟨rfl, rfl⟩
  · obtain rfl : r = .type (.named "fare.Price") := List.mem_singleton.1 hr
    exact Scope.resolves_type.2 ⟨_, resolveType_price⟩
  · obtain rfl : r = .type (.list (.primitive .i64)) := List.mem_singleton.1 hr
    exact Scope.resolves_type.2 ⟨_, resolveType_iff_denotes.2 (.list .primitive)⟩

def ferryLinked : Linked.Module where
  name := "ferry"
  namespaceName := some "sea.lines"
  constantsModule := ⟨["Sea", "Lines", "Ferry"]⟩
  typedefs := []
  enums := []
  records := [⟨"Ticket", .struct, ⟨["Sea", "Lines", "Ticket"]⟩,
    [⟨none, "price", .list (.primitive .i64), .required, none⟩]⟩]
  constants := []
  services := []

def fareLinked : Linked.Module where
  name := "fare"
  namespaceName := none
  constantsModule := ⟨["Fare"]⟩
  typedefs := [("Price", .list (.primitive .i64))]
  enums := []
  records := []
  constants := []
  services := []

theorem link_ferry : ferryModules.link "ferry" = .ok ferryLinked := by
  have hschema : ferryModules.schemas.get? "ferry" = some ferrySchema := rfl
  rw [link_of_mem ferryModules_loaded.reachable.upToDate hschema]
  have hprice := resolveType_price
  -- the name is all that is asked of the scope
  generalize Scope.of ferryModules.symbols (some "ferry") = s at *
  have hfield : s.resolveField ⟨none, .required, .named "fare.Price", "price", none⟩ =
      .ok ⟨none, "price", .list (.primitive .i64), .required, none⟩ :=
    bind_eq_ok_iff.2 ⟨_, hprice, rfl⟩
  have hrecords : (ferrySchema.structs.values ++ ferrySchema.unions.values ++
      ferrySchema.exceptions.values).mapM (ferryModules.linkRecord s "ferry") =
      .ok ferryLinked.records :=
    mapM_cons_eq_ok (bind_eq_ok_iff.2 ⟨_, rfl, bind_eq_ok_iff.2
      ⟨_, mapM_cons_eq_ok hfield List.mapM_nil, rfl⟩⟩) rfl
  exact linkIn_eq_ok_iff.2 ⟨rfl, rfl, rfl, rfl, rfl, hrecords, rfl, rfl⟩

theorem link_fare : ferryModules.link "fare" = .ok fareLinked := by
  have hschema : ferryModules.schemas.get? "fare" = some fareSchema := rfl
  rw [link_of_mem ferryModules_loaded.reachable.upToDate hschema]
  have hprice : (Scope.of ferryModules.symbols (some "fare")).resolveType (.named "Price") =
      .ok (.list (.primitive .i64)) :=
    resolveType_iff_denotes.2 (.typedef rfl (.list .primitive))
  generalize Scope.of ferryModules.symbols (some "fare") = s at *
  have htypedefs : fareSchema.typedefs.keys.mapM (linkTypedef s) = .ok fareLinked.typedefs :=
    mapM_cons_eq_ok (bind_eq_ok_iff.2 ⟨_, hprice, rfl⟩) rfl
  exact linkIn_eq_ok_iff.2 ⟨rfl, rfl, rfl, htypedefs, rfl, rfl, rfl, rfl⟩

/-- What is printed of the ferry, as one of the elements of a list. -/
def ferryText : String :=
  "\x7b
    \"name\": \"ferry\",
    \"namespace\": \"sea.lines\",
    \"constants_module\": [
      \"Sea\",
      \"Lines\",
      \"Ferry\"
    ],
    \"typedefs\": [],
    \"enums\": [],
    \"records\": [
      \x7b
        \"name\": \"Ticket\",
        \"kind\": \"struct\",
        \"dest\": [
          \"Sea\",
          \"Lines\",
          \"Ticket\"
        ],
        \"fields\": [
          \x7b
            \"id\": null,
            \"name\": \"price\",
            \"type\": \x7b
              \"list\": \x7b
                \"primitive\": \"i64\"
              \x7d
            \x7d,
            \"required\": \"required\",
            \"default\": null
          \x7d
        ]
      \x7d
    ],
    \"constants\": [],
    \"services\": []
  \x7d"

def fareText : String :=
  "\x7b
    \"name\": \"fare\",
    \"namespace\": null,
    \"constants_module\": [
      \"Fare\"
    ],
    \"typedefs\": [
      [
        \"Price\",
        \x7b
          \"list\": \x7b
            \"primitive\": \"i64\"
          \x7d
        \x7d
      ]
    ],
    \"enums\": [],
    \"records\": [],
    \"constants\": [],
    \"services\": []
  \x7d"

set_option maxRecDepth 8000 in
theorem text_ferryLinked : String.ofList (ferryLinked.toJson.prettyChars 1) = ferryText := by
  rfl

set_option maxRecDepth 8000 in
theorem text_fareLinked : String.ofList (fareLinked.toJson.prettyChars 1) = fareText := by
  rfl

/-- The ferry, named twice, once by a pattern, passes and is printed twice, with its fares or
without; with a root that is not there both commands fail. -/
theorem ferryTree_passes :
    (run ferryTree ⟨.check, ferryInputs ["ferry.thrift", "ferr*"]⟩).exitCode = 0 ∧
      run ferryTree ⟨.resolve false none, ferryInputs ["ferry.thrift", "ferr*"]⟩ =
        ⟨0, ["[\n  " ++ String.intercalate ",\n  " [ferryText, ferryText] ++ "\n]"], [],
          ferryTree⟩ ∧
      run ferryTree ⟨.resolve true none, ferryInputs ["ferry.thrift", "ferr*"]⟩ =
        ⟨0, ["[\n  " ++ String.intercalate ",\n  " [ferryText, fareText, ferryText, fareText] ++
          "\n]"], [], ferryTree⟩ ∧
      (run ferryTree ⟨.check, ferryInputs ["ferry.thrift", "south.thrift"]⟩).exitCode = 1 ∧
      (run ferryTree ⟨.resolve false none,
        ferryInputs ["ferry.thrift", "south.thrift"]⟩).exitCode = 1 := by
  have hsettings : ∀ roots, (ferryInputs roots).settings ferryTree = .ok .standard :=
    fun roots => rfl
  have hroots : (ferryInputs ["ferry.thrift", "ferr*"]).roots.mapM (rootPaths ferryTree) =
      .ok [[⟨"ferry.thrift"⟩], [⟨"ferry.thrift"⟩]] :=
    mapM_cons_eq_ok rfl (mapM_cons_eq_ok rootPaths_ferryTree rfl)
  obtain ⟨hiff, hlinks, _⟩ := passing_check_resolves (hsettings _) hroots
  have hpass : (run ferryTree ⟨.check, ferryInputs ["ferry.thrift", "ferr*"]⟩).exitCode = 0 := by
    refine hiff.2 fun root hroot => ?_
    obtain rfl : root = ⟨"ferry.thrift"⟩ := by
      simpa using (hroot : root ∈ [(⟨"ferry.thrift"⟩ : SourcePath), ⟨"ferry.thrift"⟩])
    exact ⟨_, load_ferryTree, rfl, check_eq_nil_iff.2 ferryModules_clean⟩
  have hasked : ∀ all, (RootUnit.load .standard ferryTree ⟨"ferry.thrift"⟩).asked all =
      (if all then ["ferry", "fare"] else ["ferry"]).map (ferryModules, ·) := by
    intro all
    rw [RootUnit.asked, RootUnit.load, load_ferryTree]
    rfl
  -- linking has one result, so the modules that are printed can be named
  have hprinted : ∀ all ms, List.Forall₂ IsLinkOf ([⟨"ferry.thrift"⟩, ⟨"ferry.thrift"⟩].flatMap
        fun root => (RootUnit.load .standard ferryTree root).asked all) ms →
      run ferryTree ⟨.resolve all none, ferryInputs ["ferry.thrift", "ferr*"]⟩ =
        ⟨0, [(Json.Value.list (ms.map Linked.Module.toJson)).pretty], [], ferryTree⟩ := by
    intro all ms hms
    obtain ⟨ms', text, hrun, rfl, _, hms'⟩ := hlinks hpass all
    obtain rfl := List.right_unique_forall₂' rightUnique_isLinkOf hms hms'
    exact hrun
  have hferry : IsLinkOf (ferryModules, "ferry") ferryLinked := ⟨link_ferry, rfl⟩
  have hfare : IsLinkOf (ferryModules, "fare") fareLinked := ⟨link_fare, rfl⟩
  have hroot := hprinted false [ferryLinked, ferryLinked] (by
    simp only [List.flatMap_cons, List.flatMap_nil, hasked]
    exact .cons hferry (.cons hferry .nil))
  have hall := hprinted true [ferryLinked, fareLinked, ferryLinked, fareLinked] (by
    simp only [List.flatMap_cons, List.flatMap_nil, hasked]
    exact .cons hferry (.cons hfare (.cons hferry (.cons hfare .nil))))
  have hmissing : (ferryInputs ["ferry.thrift", "south.thrift"]).roots.mapM (rootPaths ferryTree) =
      .ok [[⟨"ferry.thrift"⟩], [⟨"south.thrift"⟩]] := rfl
  have hunread : (RootUnit.load .standard ferryTree ⟨"south.thrift"⟩).Unread := .inl ⟨_, rfl⟩
  obtain ⟨_, _, hfail⟩ := passing_check_resolves (hsettings _) hmissing
  obtain ⟨hcheck, hresolve⟩ := hfail ⟨⟨"south.thrift"⟩, by decide, hunread⟩
  simp only [List.map_cons, List.map_nil, Json.pretty_list_cons, text_ferryLinked, text_fareLinked]
    at hroot hall
  exact ⟨hpass, hroot, hall, hcheck, hresolve false none⟩

end Command

end IdlLink
