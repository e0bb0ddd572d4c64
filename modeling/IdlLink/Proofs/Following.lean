/-
Following includes as a sequence of steps.

`Step src t t'` says what following one include does to a traversal: nothing when its module is
there, one error when its file is refused, and otherwise a new module whose own includes come next.
Nothing else happens on the way, which is all that later files need to know of `follow`:

* `follow_steps` — `follow` is a sequence of steps that ends without an include left;
* `Step.invariant` — what every step keeps holds at the end;
* `add_induction` — what registering and marking keep holds of a workspace with one more file.
-/
import IdlLink.Workspace.Includes
import Mathlib.Logic.Relation

open Relation

namespace IdlLink

/-- Includes being followed: what has been taken in so far, and what is still to come. -/
structure Traversal where
  workspace : Workspace
  errors : List ParseError
  reads : List SourcePath
  pending : List Pending

/-- The path of the file that an include stands for. -/
abbrev Pending.path (p : Pending) (settings : Settings) (src : Sources) : SourcePath :=
  settings.locate src p.directory p.written

namespace Traversal

/-- Following the next include. -/
inductive Step (src : Sources) : Traversal → Traversal → Prop
  | visited {w es rs p rest} : w.isVisited (p.path w.settings src).moduleName = true →
      Step src ⟨w, es, rs, p :: rest⟩ ⟨w, es, rs, rest⟩
  | refused {w es rs p rest path e} : p.path w.settings src = path →
      w.isVisited path.moduleName = false → src.parse path = .error e →
      Step src ⟨w, es, rs, p :: rest⟩
        ⟨w.markFailed path.moduleName, es ++ [e], rs ++ [path], rest⟩
  | read {w es rs p rest path schema} : p.path w.settings src = path →
      w.isVisited path.moduleName = false → src.parse path = .ok schema →
      Step src ⟨w, es, rs, p :: rest⟩
        ⟨w.register path schema, es, rs ++ [path], pendingOf path schema ++ rest⟩

/-- The traversal after an intake, with nothing left to follow. -/
def ended (r : Workspace.Intake) (es : List ParseError) (rs : List SourcePath) : Traversal :=
  ⟨r.workspace, es ++ r.errors, rs ++ r.reads, []⟩

/-- **Following includes is a sequence of steps** to a traversal with nothing left to follow. -/
theorem follow_steps (src : Sources) (w : Workspace) (ps : List Pending) (es : List ParseError)
    (rs : List SourcePath) :
    ReflTransGen (Step src) ⟨w, es, rs, ps⟩ (ended (w.follow src ps) es rs) := by
  -- the induction is that of `follow`: what is done first goes in front of what is done after it
  induction w, ps using Workspace.follow.induct src generalizing es rs with
  | case1 w =>
    simp only [Workspace.follow_nil, ended, List.append_nil]
    exact .refl
  | case2 w p rest path hv ih =>
    rw [Workspace.follow_of_visited rfl hv]
    exact (ih es rs).head (.visited hv)
  | case3 w p rest path hv e h ih =>
    have hv' : w.isVisited path.moduleName = false := by simpa using hv
    rw [Workspace.follow_of_error rfl hv' h]
    have hrest := (ih (es ++ [e]) (rs ++ [path])).head (Step.refused rfl hv' h)
    simpa [ended] using hrest
  | case4 w p rest path hv schema h ih =>
    have hv' : w.isVisited path.moduleName = false := by simpa using hv
    rw [Workspace.follow_of_ok rfl hv' h]
    have hrest := (ih es (rs ++ [path])).head (Step.read rfl hv' h)
    simpa [ended] using hrest

/-- What every step keeps holds after any number of them. -/
theorem Step.keeps {src : Sources} {P : Traversal → Prop}
    (hstep : ∀ {t t'}, Step src t t' → P t → P t') {t t' : Traversal}
    (hrun : ReflTransGen (Step src) t t') (h : P t) : P t' := by
  induction hrun with
  | refl => exact h
  | tail _ hlast ih => exact hstep hlast ih

/-- What every step keeps holds once all includes are followed. -/
theorem Step.invariant {src : Sources} {P : Traversal → Prop}
    (hstep : ∀ {t t'}, Step src t t' → P t → P t') {w : Workspace} {ps : List Pending}
    (h : P ⟨w, [], [], ps⟩) : P (ended (w.follow src ps) [] []) :=
  Step.keeps hstep (follow_steps src w ps [] []) h

end Traversal

namespace Workspace

/-- A file is added by registering and marking modules and a last refresh: what these keep holds of
the workspace before the refresh. -/
theorem add_induction {P : Workspace → Prop}
    (hregister : ∀ {w} path schema, P w → P (w.register path schema))
    (hmark : ∀ {w} module, P w → P (w.markFailed module)) {w : Workspace} (hw : P w)
    (src : Sources) (path : SourcePath) (schema : Schema) :
    ∃ w', P w' ∧ (w.add src path schema).workspace = w'.refresh := by
  by_cases hknown : w.schemas.contains path.moduleName = true
  · refine ⟨w.register path schema, hregister path schema hw, ?_⟩
    simp only [add, if_pos hknown]
  · refine ⟨((w.register path schema).follow src (pendingOf path schema)).workspace, ?_, ?_⟩
    · refine Traversal.Step.invariant (P := fun t => P t.workspace) ?_ (hregister path schema hw)
      intro t t' hstep ht
      cases hstep with
      | visited _ => exact ht
      | refused _ _ _ => exact hmark _ ht
      | read _ _ _ => exact hregister _ _ ht
    · simp only [add, if_neg hknown]

end Workspace

/-! ### A ring of includes -/

/-- A file that includes another and one that is not there. -/
def ringRoot : Schema :=
  { Schema.empty with
    namespaces := .ofList [("rs", ⟨"rs", "ring.a"⟩)]
    includes := ["b.thrift", "lost/gone.thrift"]
    typedefs := .ofList [("Root", .named "b.Id")] }

/-- A file that includes the first one back, under another spelling. -/
def ringLeaf : Schema :=
  { Schema.empty with
    namespaces := .ofList [("java", ⟨"java", "com.ring"⟩), ("rs", ⟨"rs", "ring.b"⟩)]
    includes := ["./a.thrift"]
    typedefs := .ofList [("Id", .primitive .i64)] }

def ringSettings : Settings := ⟨[], some "ring", "rs"⟩

def ringFiles : MemorySources :=
  (MemorySources.empty.insert ⟨"a.thrift"⟩ (.schema ringRoot)).insert ⟨"b.thrift"⟩
    (.schema ringLeaf)

/-- The two files, taken in one after the other. -/
def ringModules : Workspace :=
  ((Workspace.new ringSettings).register ⟨"a.thrift"⟩ ringRoot).register ⟨"b.thrift"⟩ ringLeaf

theorem follow_ring :
    ((Workspace.new ringSettings).register ⟨"a.thrift"⟩ ringRoot).follow ringFiles.toSources
        (pendingOf ⟨"a.thrift"⟩ ringRoot) =
      ⟨ringModules.markFailed "gone", [⟨⟨"lost/gone.thrift"⟩, "no such file"⟩],
        [⟨"b.thrift"⟩, ⟨"lost/gone.thrift"⟩]⟩ := by
  have hgone : ringModules.follow ringFiles.toSources [⟨⟨""⟩, ⟨"lost/gone.thrift"⟩⟩] =
      ⟨ringModules.markFailed "gone", [⟨⟨"lost/gone.thrift"⟩, "no such file"⟩],
        [⟨"lost/gone.thrift"⟩]⟩ := by
    have hpath : ringSettings.locate ringFiles.toSources ⟨""⟩ ⟨"lost/gone.thrift"⟩ =
        ⟨"lost/gone.thrift"⟩ := by decide
    exact Workspace.follow_last_of_error hpath (by decide) rfl (by decide)
  have hback : ringModules.follow ringFiles.toSources
        [⟨⟨""⟩, ⟨"./a.thrift"⟩⟩, ⟨⟨""⟩, ⟨"lost/gone.thrift"⟩⟩] =
      ringModules.follow ringFiles.toSources [⟨⟨""⟩, ⟨"lost/gone.thrift"⟩⟩] :=
    Workspace.follow_of_visited rfl (by decide)
  have hpath : ringSettings.locate ringFiles.toSources ⟨""⟩ ⟨"b.thrift"⟩ = ⟨"b.thrift"⟩ := by
    decide
  exact Workspace.follow_of_ok_eq hpath (by decide) rfl rfl (hback.trans hgone)

/-- Each of the two files is taken in once, and the missing one is reported. -/
theorem add_ring :
    (Workspace.new ringSettings).add ringFiles.toSources ⟨"a.thrift"⟩ ringRoot =
      ⟨(ringModules.markFailed "gone").refresh, [⟨⟨"lost/gone.thrift"⟩, "no such file"⟩],
        [⟨"b.thrift"⟩, ⟨"lost/gone.thrift"⟩]⟩ := by
  have hnew : ¬ (Workspace.new ringSettings).schemas.contains
      (⟨"a.thrift"⟩ : SourcePath).moduleName = true := by decide
  simp only [Workspace.add, if_neg hnew, follow_ring]

end IdlLink
