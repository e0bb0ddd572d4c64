/-
The order of includes and their repetition.

Files that include the same in another order, or once more, reach the same paths.  Where names are
unambiguous a load takes in what is reached, so it takes in the same files; only the order of its
tables may be another one.  And where no module has a point in its name, no answer depends on that:

* `Rearranged.reaches` — what is reached does not depend on how includes are arranged;
* `Within` — whatever one load holds or reports, the other holds or reports too;
* `Loaded.get?_symbols_iff` — the symbols of a load are those of its files, whatever their order;
* `SameFiles.link_eq`, `SameFiles.mem_check` — so both loads link alike and find the same failures;
* `load_ignores_arrangement` — all of this together.
-/
import IdlLink.Proofs.Loaded
import IdlLink.Proofs.Reaching
import IdlLink.Proofs.Readding
import IdlLink.Proofs.Reporting

namespace IdlLink

open SourcePath Workspace

/-! ### Files with their includes rearranged -/

/-- Two files are one up to the order and the repetition of their includes. -/
def Schema.Rearranged (s s' : Schema) : Prop :=
  ∃ is, s' = { s with includes := is } ∧ ∀ i, i ∈ is ↔ i ∈ s.includes

theorem Schema.Rearranged.symm {s s' : Schema} (h : s.Rearranged s') : s'.Rearranged s := by
  obtain ⟨is, rfl, his⟩ := h
  exact ⟨s.includes, rfl, fun i => (his i).symm⟩

theorem Schema.Rearranged.mem_includes {s s' : Schema} (h : s.Rearranged s') {i : String} :
    i ∈ s'.includes ↔ i ∈ s.includes := by
  obtain ⟨is, rfl, his⟩ := h
  exact his i

/-- The same files, up to the order and the repetition of their includes. -/
structure MemorySources.Rearranged (files files' : MemorySources) : Prop where
  contains_eq : files'.toSources.contains = files.toSources.contains
  ok : ∀ {p s}, files.toSources.parse p = .ok s →
    ∃ s', files'.toSources.parse p = .ok s' ∧ s.Rearranged s'
  error : ∀ {p e}, files.toSources.parse p = .error e → files'.toSources.parse p = .error e

namespace MemorySources.Rearranged

variable {settings : Settings} {files files' : MemorySources} {root p : SourcePath}

theorem symm (h : files.Rearranged files') : files'.Rearranged files where
  contains_eq := h.contains_eq.symm
  ok := by
    intro p s' hs'
    cases hparse : files.toSources.parse p with
    | error e =>
      rw [h.error hparse] at hs'
      cases hs'
    | ok s =>
      obtain ⟨s'', hs'', hrearranged⟩ := h.ok hparse
      obtain rfl : s' = s'' := Except.ok.inj (hs'.symm.trans hs'')
      exact ⟨s, rfl, hrearranged.symm⟩
  error := by
    intro p e he
    cases hparse : files.toSources.parse p with
    | error e' => rw [← he, h.error hparse]
    | ok s =>
      obtain ⟨_, hs', _⟩ := h.ok hparse
      rw [hs'] at he
      cases he

/-- The same paths are reached, in the same spellings. -/
theorem reaches (h : files.Rearranged files') (hp : Reaches settings files.toSources root p) :
    Reaches settings files'.toSources root p := by
  induction hp with
  | root => exact .root
  | @included p s i _ hparse hi ih =>
    obtain ⟨s', hparse', hrearranged⟩ := h.ok hparse
    rw [← Settings.locate_congr h.contains_eq]
    exact .included ih hparse' (hrearranged.mem_includes.2 hi)

theorem refl (files : MemorySources) : files.Rearranged files where
  contains_eq := rfl
  ok h := ⟨_, h, _, rfl, fun _ => Iff.rfl⟩
  error h := h

/-- Putting a file at a path and putting it there with its includes rearranged. -/
theorem insert (h : files.Rearranged files') {s s' : Schema} (hs : s.Rearranged s')
    (path : SourcePath) :
    (files.insert path (.schema s)).Rearranged (files'.insert path (.schema s')) where
  contains_eq := by
    funext p
    rw [Bool.eq_iff_iff, contains_insert, contains_insert, h.contains_eq]
  ok := by
    intro p s₀ hparse
    simp only [toSources, parse_insert_schema] at hparse ⊢
    by_cases hp : p.components = path.components
    · rw [if_pos hp] at hparse ⊢
      cases hparse
      exact ⟨s', rfl, hs⟩
    · rw [if_neg hp] at hparse ⊢
      exact h.ok hparse
  error := by
    intro p e herror
    simp only [toSources, parse_insert_schema] at herror ⊢
    by_cases hp : p.components = path.components
    · rw [if_pos hp] at herror
      cases herror
    · rw [if_neg hp] at herror ⊢
      exact h.error herror

theorem unambiguous {same : SourcePath → SourcePath → Prop} (h : files.Rearranged files')
    (hsame : Unambiguous same settings files.toSources root) :
    Unambiguous same settings files'.toSources root :=
  fun p q hp hq => hsame p q (h.symm.reaches hp) (h.symm.reaches hq)

end MemorySources.Rearranged

/-! ### What both loads hold and report -/

/-- Whatever the one intake holds or reports, the other holds or reports too. -/
structure Within (same : SourcePath → SourcePath → Prop) (r r' : Intake) : Prop where
  holds : ∀ m p s, r.workspace.Holds m p s →
    ∃ p' s', r'.workspace.Holds m p' s' ∧ same p' p ∧ s.Rearranged s'
  failed : ∀ m ∈ r.workspace.failed, m ∈ r'.workspace.failed
  errors : ∀ e ∈ r.errors, ∃ e' ∈ r'.errors, same e'.path e.path ∧ e'.reason = e.reason

section

variable {same : SourcePath → SourcePath → Prop} {settings : Settings}
  {files files' : MemorySources} {root : SourcePath} {r r' : Intake}

theorem TakesIn.within (hfiles : files.Rearranged files')
    (h : TakesIn same settings files.toSources root r)
    (h' : TakesIn same settings files'.toSources root r') : Within same r r' where
  holds := by
    intro m p s hheld
    obtain ⟨hp, rfl, hparse⟩ := h.held m p s hheld
    obtain ⟨s', hparse', hrearranged⟩ := hfiles.ok hparse
    obtain ⟨p', hheld', hsame⟩ := h'.arrived p s' (hfiles.reaches hp) hparse'
    exact ⟨p', s', hheld', hsame, hrearranged⟩
  failed := by
    intro m hm
    obtain ⟨p, e, hp, hname, herror⟩ := (h.failed_iff m).1 hm
    exact (h'.failed_iff m).2 ⟨p, e, hfiles.reaches hp, hname, hfiles.error herror⟩
  errors := by
    intro e he
    obtain ⟨p, hp, herror⟩ := h.refused e he
    exact h'.reported p e (hfiles.reaches hp) (hfiles.error herror)

end

/-! ### Workspaces of the same files -/

/-- Every file of the one workspace is a file of the other, up to its includes. -/
def Workspace.Covers (w' w : Workspace) : Prop :=
  ∀ m s, w.schemas.get? m = some s → ∃ s', w'.schemas.get? m = some s' ∧ s.Rearranged s'

section

variable {settings : Settings} {src src' : Sources} {w w' : Workspace}

theorem Within.covers {same : SourcePath → SourcePath → Prop} {r r' : Intake}
    (h : Within same r r') (hr : Reachable settings r.workspace) :
    r'.workspace.Covers r.workspace := by
  intro m s hs
  obtain ⟨p, s₀, hheld⟩ := hr.exists_holds (OrderedMap.mem_keys_of_get? hs)
  obtain rfl : s = s₀ := Option.some_inj.1 (hs.symm.trans hheld.2)
  obtain ⟨_, s', hheld', _, hrearranged⟩ := h.holds m p s hheld
  exact ⟨s', hheld'.2, hrearranged⟩

theorem Workspace.Covers.mem_keys (h : w'.Covers w) {m : String} (hm : m ∈ w.schemas.keys) :
    m ∈ w'.schemas.keys := by
  obtain ⟨s, hs⟩ := OrderedMap.mem_keys_iff.1 hm
  obtain ⟨s', hs', _⟩ := h m s hs
  exact OrderedMap.mem_keys_of_get? hs'

/-- The symbols of a load are what its files say, whatever their order. -/
theorem Loaded.get?_symbols_iff (h : Loaded settings src w)
    (hplain : ∀ m ∈ w.schemas.keys, '.' ∉ m.toList) {key : String} {symbol : Symbol} :
    w.symbols.get? key = some symbol ↔
      ∃ m s, w.schemas.get? m = some s ∧ (symbolsOf s m).get? key = some symbol := by
  have hreflects := h.reachable.reflects hplain
  constructor
  · intro hk
    obtain ⟨m, s, hs, hentry⟩ := h.declared_of_get? hk
    -- the file declares the key, and what it says last of it is what the table says
    obtain ⟨symbol', hsymbol⟩ := OrderedMap.mem_keys_iff.1
      (OrderedMap.mem_keys_ofList.2 (List.mem_map_of_mem hentry))
    have hk' := hreflects m s hs key symbol' hsymbol
    obtain rfl : symbol = symbol' := Option.some_inj.1 (hk.symm.trans hk')
    exact ⟨m, s, hs, hsymbol⟩
  · rintro ⟨m, s, hs, hsymbol⟩
    exact hreflects m s hs key symbol hsymbol

theorem Workspace.Covers.get?_symbols (hcovers : w'.Covers w) (h : Loaded settings src w)
    (h' : Loaded settings src' w') (hplain : ∀ m ∈ w.schemas.keys, '.' ∉ m.toList)
    (hplain' : ∀ m ∈ w'.schemas.keys, '.' ∉ m.toList) {key : String} {symbol : Symbol}
    (hk : w.symbols.get? key = some symbol) : w'.symbols.get? key = some symbol := by
  obtain ⟨m, s, hs, hsymbol⟩ := (h.get?_symbols_iff hplain).1 hk
  -- what a file declares does not depend on what it includes
  obtain ⟨s', hs', is, rfl, _⟩ := hcovers m s hs
  exact (h'.get?_symbols_iff hplain').2 ⟨m, _, hs', hsymbol⟩

/-- Two loads of the same files, taken in in some order each. -/
structure SameFiles (settings : Settings) (w w' : Workspace) : Prop where
  reachable : Reachable settings w
  reachable' : Reachable settings w'
  covers : w'.Covers w
  covers' : w.Covers w'
  entry : ∀ key, w.symbols.get? key = w'.symbols.get? key

namespace SameFiles

theorem symm (h : SameFiles settings w w') : SameFiles settings w' w :=
  ⟨h.reachable', h.reachable, h.covers', h.covers, fun key => (h.entry key).symm⟩

theorem alike (h : SameFiles settings w w') (m : Option String) :
    (Scope.of w.symbols m).Alike (.of w'.symbols m) := .of_entries h.entry m

theorem get?_schemas_eq_none (h : SameFiles settings w w') {m : String}
    (hm : w.schemas.get? m = none) : w'.schemas.get? m = none := by
  rw [OrderedMap.get?_eq_none_iff] at hm ⊢
  exact fun hm' => hm (h.covers'.mem_keys hm')

theorem namespaces_eq (h : SameFiles settings w w') (m : String) :
    w.namespaces.get? m = w'.namespaces.get? m := by
  rw [h.reachable.upToDate.namespaces_eq, h.reachable'.upToDate.namespaces_eq, namespacesOf,
    namespacesOf, OrderedMap.get?_map, OrderedMap.get?_map, h.reachable.sound.settings_eq,
    h.reachable'.sound.settings_eq]
  cases hs : w.schemas.get? m with
  | none => rw [h.get?_schemas_eq_none hs]
  | some s =>
    obtain ⟨s', hs', is, rfl, _⟩ := h.covers m s hs
    rw [hs']
    rfl

theorem destination_eq (h : SameFiles settings w w') : w.destination = w'.destination := by
  funext name
  simp only [destination, namespaceSegments, h.namespaces_eq]

theorem constantsModule_eq (h : SameFiles settings w w') (m : String) :
    w.constantsModule m = w'.constantsModule m := by
  have hname : w.constantsName m = w'.constantsName m := by
    rw [constantsName, constantsName]
    cases hs : w.schemas.get? m with
    | none => rw [h.get?_schemas_eq_none hs]
    | some s =>
      obtain ⟨s', hs', is, rfl, _⟩ := h.covers m s hs
      rw [hs']
      rfl
  rw [constantsModule, constantsModule, hname, h.destination_eq]

/-- **A module is linked alike.** -/
theorem link_eq (h : SameFiles settings w w') (m : String) : w.link m = w'.link m := by
  cases hs : w.schemas.get? m with
  | none => rw [link_of_not_mem hs, link_of_not_mem (h.get?_schemas_eq_none hs)]
  | some s =>
    obtain ⟨s', hs', is, rfl, _⟩ := h.covers m s hs
    have henum : w.linkEnum m = w'.linkEnum m := by
      funext e
      rw [linkEnum, linkEnum, localDestination, localDestination, h.destination_eq]
    have hrecord : ∀ t, w.linkRecord t m = w'.linkRecord t m := by
      intro t
      funext r
      rw [linkRecord, linkRecord, localDestination, localDestination, h.destination_eq]
    have hservice : ∀ t, w.linkService t m = w'.linkService t m := by
      intro t
      funext v
      rw [linkService, linkService, localDestination, localDestination, h.destination_eq]
    calc w.link m = w.linkIn (.of w.symbols (some m)) m s :=
          link_of_mem h.reachable.upToDate hs
      _ = w.linkIn (.of w'.symbols (some m)) m s := (h.alike _).agrees.linkIn w m s
      _ = w'.linkIn (.of w'.symbols (some m)) m s := by
          rw [linkIn, linkIn, henum, hrecord, hservice, h.constantsModule_eq, h.namespaces_eq]
      _ = w'.link m := (link_of_mem h.reachable'.upToDate hs').symm

/-- **Every failure that is found is found on the other side.** -/
theorem mem_check (h : SameFiles settings w w') {e : ResolveError} (he : e ∈ w.check) :
    e ∈ w'.check := by
  obtain ⟨m, s, hs, r, hr, raw, hfails, hreported⟩ := mem_check_iff.1 he
  obtain ⟨s', hs', is, rfl, _⟩ := h.covers m s hs
  rw [← mem_references_iff] at hr
  rw [(h.alike _).failure?] at hfails
  exact mem_check_iff.2 ⟨m, _, hs', r, mem_references_iff.1 hr, raw, hfails, hreported⟩

end SameFiles

end

/-- **How includes are arranged is no matter where names are unambiguous.**  Let all paths that are
reached under one module name be spellings of one path.  Then a load registers what is reached and
can be read, and fails for what cannot.  Of the same files with includes in another order, or repeated,
it registers the same and reports the same; and if no module has a point in its name, every module is
linked to the same and the same failures are found.  Paths are the same by their components, and by
their spelling too where that is unambiguous. -/
theorem load_ignores_arrangement (settings : Settings) {files : MemorySources} {root : SourcePath}
    {schema : Schema} (hparse : files.toSources.parse root = .ok schema)
    (hplace : Unambiguous SamePlace settings files.toSources root) :
    ∃ r, load settings files.toSources root = .ok r ∧
      (∀ same, Unambiguous same settings files.toSources root →
        TakesIn same settings files.toSources root r) ∧
      ∀ files', files.Rearranged files' → ∃ r', load settings files'.toSources root = .ok r' ∧
        (∀ same, Unambiguous same settings files.toSources root →
          Within same r r' ∧ Within same r' r) ∧
        ((∀ m ∈ r.workspace.schemas.keys, '.' ∉ m.toList) →
          (∀ m, r.workspace.link m = r'.workspace.link m) ∧
            ∀ e, e ∈ r.workspace.check ↔ e ∈ r'.workspace.check) := by
  obtain ⟨r, hload, hclosing, hheld⟩ := exists_load settings hparse
  have htakes : ∀ same, Unambiguous same settings files.toSources root →
      TakesIn same settings files.toSources root r :=
    fun same hsame => (hplace.takesIn hclosing hheld).same hsame
  refine ⟨r, hload, htakes, fun files' hfiles => ?_⟩
  -- the other files reach the same paths, so their names are as unambiguous
  obtain ⟨schema', hparse', _⟩ := hfiles.ok hparse
  obtain ⟨r', hload', hclosing', hheld'⟩ := exists_load settings hparse'
  have htakes' : ∀ same, Unambiguous same settings files.toSources root →
      TakesIn same settings files'.toSources root r' := fun same hsame =>
    ((hfiles.unambiguous hplace).takesIn hclosing' hheld').same (hfiles.unambiguous hsame)
  have hwithin : ∀ same, Unambiguous same settings files.toSources root →
      Within same r r' ∧ Within same r' r := fun same hsame =>
    ⟨(htakes same hsame).within hfiles (htakes' same hsame),
      (htakes' same hsame).within hfiles.symm (htakes same hsame)⟩
  refine ⟨r', hload', hwithin, fun hplain => ?_⟩
  -- both hold the same files, so only the order of the tables can differ
  obtain ⟨hw, hw'⟩ := hwithin SamePlace hplace
  have hloaded : Loaded settings files.toSources r.workspace := .load hload
  have hloaded' : Loaded settings files'.toSources r'.workspace := .load hload'
  have hcovers := hw.covers hloaded.reachable
  have hcovers' := hw'.covers hloaded'.reachable
  have hplain' : ∀ m ∈ r'.workspace.schemas.keys, '.' ∉ m.toList :=
    fun m hm => hplain m (hcovers'.mem_keys hm)
  have hentry : ∀ key, r.workspace.symbols.get? key = r'.workspace.symbols.get? key := by
    intro key
    refine Option.ext fun symbol => ?_
    exact ⟨hcovers.get?_symbols hloaded hloaded' hplain hplain',
      hcovers'.get?_symbols hloaded' hloaded hplain' hplain⟩
  have hsame : SameFiles settings r.workspace r'.workspace :=
    ⟨hloaded.reachable, hloaded'.reachable, hcovers, hcovers', hentry⟩
  exact ⟨hsame.link_eq, fun e => ⟨hsame.mem_check, hsame.symm.mem_check⟩⟩

/-- A file that includes another one in two spellings, and one that is missing. -/
def spelledRoot : Schema :=
  { Schema.empty with
    includes := ["b.thrift", "./b.thrift", "gone.thrift"]
    typedefs := .ofList [("Root", .named "b.Id"), ("Lost", .named "gone.Id")] }

/-- The same in another order, the missing file twice. -/
def spelledLater : Schema :=
  { spelledRoot with includes := ["gone.thrift", "./b.thrift", "gone.thrift", "b.thrift"] }

def spelledLeaf : Schema :=
  { Schema.empty with
    includes := ["a.thrift"]
    typedefs := .ofList [("Id", .primitive .i64)] }

def spelledFiles (root : Schema) : MemorySources :=
  (MemorySources.empty.insert ⟨"x/b.thrift"⟩ (.schema spelledLeaf)).insert ⟨"x/a.thrift"⟩
    (.schema root)

/-- What is reached from the root: the included file in its two spellings, and the missing one. -/
def spelledPaths : List SourcePath :=
  [⟨"x/a.thrift"⟩, ⟨"x/b.thrift"⟩, ⟨"x/./b.thrift"⟩, ⟨"gone.thrift"⟩]

theorem spelled_reached {p : SourcePath}
    (h : Reaches .standard (spelledFiles spelledRoot).toSources ⟨"x/a.thrift"⟩ p) :
    p ∈ spelledPaths := by
  refine h.mem_of_closed (by decide) fun p hp s hparse => ?_
  simp only [spelledPaths, List.mem_cons, List.not_mem_nil, or_false] at hp
  rcases hp with rfl | rfl | rfl | rfl
  · obtain rfl : spelledRoot = s := Except.ok.inj hparse
    decide
  · obtain rfl : spelledLeaf = s := Except.ok.inj hparse
    decide
  · obtain rfl : spelledLeaf = s := Except.ok.inj hparse
    decide
  · cases hparse

/-- The included file may be held in either spelling, and the missing one be found at any time. -/
theorem spelled_rearranged :
    (spelledFiles spelledRoot).toSources.parse ⟨"x/a.thrift"⟩ = .ok spelledRoot ∧
      Unambiguous SamePlace .standard (spelledFiles spelledRoot).toSources ⟨"x/a.thrift"⟩ ∧
      (spelledFiles spelledRoot).Rearranged (spelledFiles spelledLater) ∧
      ∃ r r', load .standard (spelledFiles spelledRoot).toSources ⟨"x/a.thrift"⟩ = .ok r ∧
        load .standard (spelledFiles spelledLater).toSources ⟨"x/a.thrift"⟩ = .ok r' ∧
        Within SamePlace r r' ∧ Within SamePlace r' r ∧
        (∃ q s, r'.workspace.Holds "b" q s ∧ q.SamePlace ⟨"x/b.thrift"⟩ ∧
          spelledLeaf.Rearranged s) ∧
        "gone" ∈ r'.workspace.failed ∧ (∀ m ∈ r.workspace.schemas.keys, '.' ∉ m.toList) ∧
        (∀ m, r.workspace.link m = r'.workspace.link m) ∧
        ∀ e, e ∈ r.workspace.check ↔ e ∈ r'.workspace.check := by
  have hparse : (spelledFiles spelledRoot).toSources.parse ⟨"x/a.thrift"⟩ = .ok spelledRoot := rfl
  have hplace : Unambiguous SamePlace .standard (spelledFiles spelledRoot).toSources
      ⟨"x/a.thrift"⟩ := by
    intro p q hp hq hname
    have hall : ∀ p ∈ spelledPaths, ∀ q ∈ spelledPaths, p.moduleName = q.moduleName →
        p.components = q.components := by decide
    exact hall p (spelled_reached hp) q (spelled_reached hq) hname
  have hincludes : ∀ i, i ∈ spelledLater.includes ↔ i ∈ spelledRoot.includes := by
    have hfrom : ∀ i ∈ spelledLater.includes, i ∈ spelledRoot.includes := by decide
    have hto : ∀ i ∈ spelledRoot.includes, i ∈ spelledLater.includes := by decide
    exact fun i => ⟨hfrom i, hto i⟩
  have hfiles : (spelledFiles spelledRoot).Rearranged (spelledFiles spelledLater) :=
    (MemorySources.Rearranged.refl _).insert ⟨spelledLater.includes, rfl, hincludes⟩ _
  have hreached : ∀ i p, i ∈ spelledRoot.includes →
      Settings.standard.locate (spelledFiles spelledRoot).toSources
        (⟨"x/a.thrift"⟩ : SourcePath).directory ⟨i⟩ = p →
      Reaches .standard (spelledFiles spelledRoot).toSources ⟨"x/a.thrift"⟩ p := by
    rintro i p hi rfl
    exact .included .root hparse hi
  have hleaf := hreached "b.thrift" ⟨"x/b.thrift"⟩ (by decide) (by decide)
  have hgone := hreached "gone.thrift" ⟨"gone.thrift"⟩ (by decide) (by decide)
  obtain ⟨r, hload, htakes, hlater⟩ := load_ignores_arrangement .standard hparse hplace
  obtain ⟨r', hload', hwithin, hsame⟩ := hlater _ hfiles
  have htaken := htakes SamePlace hplace
  obtain ⟨hto, hfrom⟩ := hwithin SamePlace hplace
  have hplain : ∀ m ∈ r.workspace.schemas.keys, '.' ∉ m.toList := by
    intro m hm
    obtain ⟨p, s, hheld⟩ := (Loaded.load hload).reachable.exists_holds hm
    obtain ⟨hp, rfl, _⟩ := htaken.held m p s hheld
    have hall : ∀ p ∈ spelledPaths, '.' ∉ p.moduleName.toList := by decide
    exact hall p (spelled_reached hp)
  refine ⟨hparse, hplace, hfiles, r, r', hload, hload', hto, hfrom, ?_, ?_, hplain,
    (hsame hplain).1, (hsame hplain).2⟩
  · obtain ⟨p, hheld, hp⟩ := htaken.arrived _ spelledLeaf hleaf rfl
    obtain ⟨q, s, hheld', hq, hs⟩ := hto.holds _ p spelledLeaf hheld
    exact ⟨q, s, hheld', hq.trans hp, hs⟩
  · exact hto.failed "gone" ((htaken.failed_iff "gone").2 ⟨_, _, hgone, by decide, rfl⟩)

end IdlLink
