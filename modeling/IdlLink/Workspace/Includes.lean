/-
Following includes.

`add` registers a file and follows what it includes. The includes that are still to be followed form
a list; the first one is located, and if its module is new the file is read and its own includes go
to the front. A module is read at most once, whether that succeeds or not, so the list runs dry: every
file that can be read is one module less to come. `load` starts a workspace from a root file.

`locate` is where an included file is looked for, and `locate_eq_iff` spells out the search.
-/
import IdlLink.Remaining
import IdlLink.Sources
import IdlLink.Workspace.Basic

namespace IdlLink

namespace Settings

/-- The places where an included file may be, in the order in which they are tried. -/
def candidates (c : Settings) (directory written : SourcePath) : List SourcePath :=
  (directory :: c.includePaths.map SourcePath.mk).map fun d => d.join written

/-- The path of an included file: the first place that has a file, else the path as written. -/
def locate (c : Settings) (src : Sources) (directory written : SourcePath) : SourcePath :=
  ((c.candidates directory written).find? src.contains).getD written

/-- Where a file is found depends on which files there are, not on what they hold. -/
theorem locate_congr {src src' : Sources} (h : src'.contains = src.contains) (c : Settings)
    (directory written : SourcePath) :
    c.locate src' directory written = c.locate src directory written := by
  rw [locate, locate, h]

/-- Where an included file is found: beside the file that includes it, or else in the first include
path that has it, or else at the path as written, whether it is there or not. -/
inductive Finds (c : Settings) (src : Sources) (directory written : SourcePath) : SourcePath → Prop
  | beside : src.contains (directory.join written) = true →
      Finds c src directory written (directory.join written)
  | onPath {before after : List String} {d : String} :
      src.contains (directory.join written) = false →
      c.includePaths = before ++ d :: after →
      (∀ d' ∈ before, src.contains (SourcePath.join ⟨d'⟩ written) = false) →
      src.contains (SourcePath.join ⟨d⟩ written) = true →
      Finds c src directory written (SourcePath.join ⟨d⟩ written)
  | asWritten : src.contains (directory.join written) = false →
      (∀ d ∈ c.includePaths, src.contains (SourcePath.join ⟨d⟩ written) = false) →
      Finds c src directory written written

theorem locate_of_contains {c : Settings} {src : Sources} {directory written : SourcePath}
    (h : src.contains (directory.join written) = true) :
    c.locate src directory written = directory.join written := by
  rw [locate, candidates, List.map_cons, List.find?_cons_of_pos h, Option.getD_some]

/-- What is not beside the file that includes it is looked for in the include paths. -/
theorem locate_of_not_contains {c : Settings} {src : Sources} {directory written : SourcePath}
    (h : src.contains (directory.join written) = false) : c.locate src directory written =
      ((c.includePaths.find? fun d => src.contains (SourcePath.join ⟨d⟩ written)).map
        fun d => SourcePath.join ⟨d⟩ written).getD written := by
  have hnot : ¬ src.contains (directory.join written) = true := by rw [h]; exact Bool.false_ne_true
  rw [locate, candidates, List.map_cons, List.find?_cons_of_neg hnot, List.map_map, List.find?_map]
  rfl

/-- The search of an include, spelled out. -/
theorem locate_eq_iff {c : Settings} {src : Sources} {directory written path : SourcePath} :
    c.locate src directory written = path ↔ c.Finds src directory written path := by
  constructor
  · rintro rfl
    cases hbeside : src.contains (directory.join written) with
    | true =>
      rw [locate_of_contains hbeside]
      exact .beside hbeside
    | false =>
      rw [locate_of_not_contains hbeside]
      cases hfind : c.includePaths.find? fun d => src.contains (SourcePath.join ⟨d⟩ written) with
      | none =>
        refine .asWritten hbeside fun d hd => ?_
        simpa using List.find?_eq_none.1 hfind d hd
      | some d =>
        obtain ⟨hd, before, after, hpaths, hbefore⟩ := List.find?_eq_some_iff_append.1 hfind
        exact .onPath hbeside hpaths (fun d' hd' => by simpa using hbefore d' hd') hd
  · intro h
    cases h with
    | beside hbeside => exact locate_of_contains hbeside
    | @onPath before after d hbeside hpaths hbefore hd =>
      have hfind : c.includePaths.find? (fun d => src.contains (SourcePath.join ⟨d⟩ written)) =
          some d :=
        List.find?_eq_some_iff_append.2
          ⟨hd, before, after, hpaths, fun d' hd' => by rw [hbefore d' hd', Bool.not_false]⟩
      rw [locate_of_not_contains hbeside, hfind]
      rfl
    | asWritten hbeside hnone =>
      have hfind : c.includePaths.find? (fun d => src.contains (SourcePath.join ⟨d⟩ written)) =
          none :=
        List.find?_eq_none.2 fun d hd => by rw [hnone d hd]; exact Bool.false_ne_true
      rw [locate_of_not_contains hbeside, hfind]
      rfl

end Settings

/-- An include that is still to be followed. -/
structure Pending where
  /-- The directory of the including file. -/
  directory : SourcePath
  /-- The path as it is written. -/
  written : SourcePath

/-- The includes of a file. -/
def pendingOf (path : SourcePath) (schema : Schema) : List Pending :=
  schema.includes.map fun i => ⟨path.directory, ⟨i⟩⟩

namespace Workspace

/-- How many of the modules that can be read have not been visited. -/
def unvisited (src : Sources) (w : Workspace) : Nat :=
  src.modules.countP fun m => !w.isVisited m

theorem isVisited_iff {w : Workspace} {m : String} :
    w.isVisited m = true ↔ m ∈ w.schemas.keys ∨ m ∈ w.failed := by
  simp only [isVisited, Bool.or_eq_true, OrderedMap.contains_iff, List.contains_iff_mem]

theorem isVisited_eq_false {w : Workspace} {m : String} :
    w.isVisited m = false ↔ m ∉ w.schemas.keys ∧ m ∉ w.failed := by
  rw [← Bool.not_eq_true, isVisited_iff, not_or]

theorem isVisited_register {w : Workspace} {path : SourcePath} {schema : Schema} {m : String} :
    (w.register path schema).isVisited m = true ↔ m = path.moduleName ∨ w.isVisited m = true := by
  simp [isVisited, register, or_assoc]

theorem isVisited_markFailed {w : Workspace} {n m : String} :
    (w.markFailed n).isVisited m = true ↔ m = n ∨ w.isVisited m = true := by
  simp only [isVisited, markFailed, Bool.or_eq_true, List.contains_iff_mem, List.mem_append,
    List.mem_singleton]
  rw [← or_assoc, or_comm]

theorem unvisited_register_lt {src : Sources} {w : Workspace} {path : SourcePath} {schema : Schema}
    (hv : w.isVisited path.moduleName = false) (hm : path.moduleName ∈ src.modules) :
    unvisited src (w.register path schema) < unvisited src w := by
  refine countP_lt_countP hm ?_ ?_ ?_
  · intro m h
    cases hw : w.isVisited m with
    | false => rfl
    | true =>
      have : (w.register path schema).isVisited m = true := isVisited_register.2 (.inr hw)
      simp [this] at h
  · simp [isVisited_register.2 (.inl rfl)]
  · simp [hv]

theorem unvisited_markFailed_le (src : Sources) (w : Workspace) (n : String) :
    unvisited src (w.markFailed n) ≤ unvisited src w := by
  refine List.countP_mono_left fun m _ h => ?_
  cases hw : w.isVisited m with
  | false => rfl
  | true =>
    have : (w.markFailed n).isVisited m = true := isVisited_markFailed.2 (.inr hw)
    simp [this] at h

/-- What adding files comes to: the workspace, the files that could not be read, and the paths that
were read, both in order. -/
structure Intake where
  workspace : Workspace
  errors : List ParseError
  reads : List SourcePath

/-- Follow includes until none is left. -/
def follow (src : Sources) (w : Workspace) : List Pending → Intake
  | [] => ⟨w, [], []⟩
  | p :: rest =>
    let path := w.settings.locate src p.directory p.written
    if _hv : w.isVisited path.moduleName = true then follow src w rest
    else
      match _h : src.parse path with
      | .error e =>
        let r := follow src (w.markFailed path.moduleName) rest
        ⟨r.workspace, e :: r.errors, path :: r.reads⟩
      | .ok schema =>
        let r := follow src (w.register path schema) (pendingOf path schema ++ rest)
        ⟨r.workspace, r.errors, path :: r.reads⟩
termination_by ps => (unvisited src w, ps.length)
decreasing_by
  -- an include of a visited module only shortens the list
  · exact Prod.Lex.right _ (by simp)
  -- a file that cannot be read may be of a module that no file has
  · rcases Nat.lt_or_eq_of_le
      (unvisited_markFailed_le src w
        (w.settings.locate src p.directory p.written).moduleName) with h | h
    · exact Prod.Lex.left _ _ h
    · rw [h]; exact Prod.Lex.right _ (by simp)
  -- a file that is read leaves one module less, however many includes it adds
  · exact Prod.Lex.left _ _
      (unvisited_register_lt (by simpa using _hv) (src.moduleName_mem _h))

/-! One include at a time: its module is there already, or its file is refused, or it is read. -/

section

variable {src : Sources} {w : Workspace} {p : Pending} {rest : List Pending} {path : SourcePath}

@[simp]
theorem follow_nil : follow src w [] = ⟨w, [], []⟩ := by rw [follow]

theorem follow_of_visited (hp : w.settings.locate src p.directory p.written = path)
    (hv : w.isVisited path.moduleName = true) :
    follow src w (p :: rest) = follow src w rest := by
  subst hp
  rw [follow]
  simp only [dif_pos hv]

theorem follow_of_error {e : ParseError} (hp : w.settings.locate src p.directory p.written = path)
    (hv : w.isVisited path.moduleName = false) (h : src.parse path = .error e) :
    follow src w (p :: rest) =
      let r := follow src (w.markFailed path.moduleName) rest
      ⟨r.workspace, e :: r.errors, path :: r.reads⟩ := by
  subst hp
  rw [follow]
  simp only [hv, Bool.false_eq_true, dite_false]
  split
  · rename_i he
    cases h.symm.trans he
    rfl
  · rename_i hs
    cases h.symm.trans hs

theorem follow_of_ok {schema : Schema} (hp : w.settings.locate src p.directory p.written = path)
    (hv : w.isVisited path.moduleName = false) (h : src.parse path = .ok schema) :
    follow src w (p :: rest) =
      let r := follow src (w.register path schema) (pendingOf path schema ++ rest)
      ⟨r.workspace, r.errors, path :: r.reads⟩ := by
  subst hp
  rw [follow]
  simp only [hv, Bool.false_eq_true, dite_false]
  split
  · rename_i he
    cases h.symm.trans he
  · rename_i hs
    cases h.symm.trans hs
    rfl

/-- A file is read, and the rest is followed from there. -/
theorem follow_of_ok_eq {schema : Schema} {pending : List Pending} {r : Intake}
    (hp : w.settings.locate src p.directory p.written = path)
    (hv : w.isVisited path.moduleName = false) (h : src.parse path = .ok schema)
    (hpending : pendingOf path schema ++ rest = pending)
    (hr : follow src (w.register path schema) pending = r) :
    follow src w (p :: rest) = ⟨r.workspace, r.errors, path :: r.reads⟩ := by
  rw [follow_of_ok hp hv h, hpending, hr]

/-- The last include, of a file that includes nothing. -/
theorem follow_last {schema : Schema} (hp : w.settings.locate src p.directory p.written = path)
    (hv : w.isVisited path.moduleName = false) (h : src.parse path = .ok schema)
    (hi : schema.includes = []) :
    follow src w [p] = ⟨w.register path schema, [], [path]⟩ := by
  have hpending : pendingOf path schema ++ [] = [] := by rw [pendingOf, hi]; rfl
  exact follow_of_ok_eq hp hv h hpending follow_nil

/-- The last include, of a file that is refused. -/
theorem follow_last_of_error {e : ParseError} {module : String}
    (hp : w.settings.locate src p.directory p.written = path)
    (hv : w.isVisited path.moduleName = false) (h : src.parse path = .error e)
    (hm : path.moduleName = module) :
    follow src w [p] = ⟨w.markFailed module, [e], [path]⟩ := by
  rw [follow_of_error hp hv h, follow_nil, hm]

end

/-- Add a file. Its includes are followed unless the file's module is already there. -/
def add (w : Workspace) (src : Sources) (path : SourcePath) (schema : Schema) : Intake :=
  let w' := w.register path schema
  let r :=
    if w.schemas.contains path.moduleName then ⟨w', [], []⟩
    else follow src w' (pendingOf path schema)
  ⟨r.workspace.refresh, r.errors, r.reads⟩

theorem add_of_no_includes {w : Workspace} {src : Sources} {path : SourcePath} {schema : Schema}
    (h : schema.includes = []) :
    w.add src path schema = ⟨(w.register path schema).refresh, [], []⟩ := by
  have hpending : pendingOf path schema = [] := by rw [pendingOf, h, List.map_nil]
  simp only [add, hpending, follow_nil, ite_self]

/-- The workspace of a root file. Only a root that cannot be read is fatal. -/
def load (settings : Settings) (src : Sources) (root : SourcePath) : Except ParseError Intake := do
  let schema ← src.parse root
  let r := (new settings).add src root schema
  return ⟨r.workspace, r.errors, root :: r.reads⟩

/-- A root that can be read is registered, and its includes are followed. -/
theorem load_of_ok (settings : Settings) {src : Sources} {root : SourcePath} {schema : Schema}
    (h : src.parse root = .ok schema) :
    load settings src root =
      let r := ((new settings).register root schema).follow src (pendingOf root schema)
      .ok ⟨r.workspace.refresh, r.errors, root :: r.reads⟩ := by
  have hnew : (new settings).schemas.contains root.moduleName = false := rfl
  rw [load, h]
  simp only [add, hnew]
  rfl

/-- A root with one include, of a file that includes nothing. -/
theorem load_pair {settings : Settings} {src : Sources} {root path : SourcePath}
    {schema included : Schema} {i : String} (h : src.parse root = .ok schema)
    (hi : schema.includes = [i]) (hp : settings.locate src root.directory ⟨i⟩ = path)
    (hv : ((new settings).register root schema).isVisited path.moduleName = false)
    (hpath : src.parse path = .ok included) (hnone : included.includes = []) :
    load settings src root =
      .ok ⟨(((new settings).register root schema).register path included).refresh, [],
        [root, path]⟩ := by
  have hpending : pendingOf root schema = [⟨root.directory, ⟨i⟩⟩] := by rw [pendingOf, hi]; rfl
  have hfollow : ((new settings).register root schema).follow src (pendingOf root schema) =
      ⟨((new settings).register root schema).register path included, [], [path]⟩ := by
    rw [hpending]
    exact follow_last hp hv hpath hnone
  have hload := load_of_ok settings h
  rw [hfollow] at hload
  exact hload

end Workspace

end IdlLink
