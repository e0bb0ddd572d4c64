/-
Which files an addition reads.

Includes may lead round in circles, name one file in many spellings and name files that are not
there, so what is followed is no tree.  What is read is still one file for each module at most:

* `step_wellFounded` — no run of steps goes on for ever: every file that is read leaves one module
  less to come, and any other step one include less;
* `Reading.step` — what has been read so far are files of different modules, all of them visited by
  now and none of them visited at the start;
* `follow_congr` — nothing else is read: sources that agree about the files that were read, and about
  which files there are, lead to the same;
* `each_module_read_once` — the three together, for an addition and for a load.
-/
import IdlLink.Proofs.Following

open Relation

namespace IdlLink

open Workspace

variable {src src' : Sources} {w w₀ : Workspace}

/-! ### Every run comes to an end -/

/-- One step leaves fewer modules to come, or as many and fewer includes. -/
theorem Traversal.Step.decreases {t t' : Traversal} (h : t.Step src t') :
    Prod.Lex (· < ·) (· < ·) (unvisited src t'.workspace, t'.pending.length)
      (unvisited src t.workspace, t.pending.length) := by
  cases h with
  | visited _ => exact .right _ (Nat.lt_succ_self _)
  | @refused w _ _ _ _ path _ _ _ _ =>
    -- the module that failed may be one that no file has
    rcases Nat.lt_or_eq_of_le (unvisited_markFailed_le src w path.moduleName) with hlt | heq
    · exact .left _ _ hlt
    · rw [heq]
      exact .right _ (Nat.lt_succ_self _)
  | read _ hv hparse => exact .left _ _ (unvisited_register_lt hv (src.moduleName_mem hparse))

/-- There is no endless run of steps, whatever the files include. -/
theorem step_wellFounded (src : Sources) : WellFounded (flip (Traversal.Step src)) := by
  have hlex : WellFounded (Prod.Lex (· < · : Nat → Nat → Prop) (· < · : Nat → Nat → Prop)) :=
    (Prod.lex Nat.lt_wfRel Nat.lt_wfRel).wf
  have hmeasure := InvImage.wf
    (fun t : Traversal => (unvisited src t.workspace, t.pending.length)) hlex
  exact Subrelation.wf (fun h => Traversal.Step.decreases h) hmeasure

/-- Where an addition starts: the file is taken in, and its includes are pending unless its module
was there. -/
def Traversal.start (w : Workspace) (path : SourcePath) (schema : Schema) : Traversal :=
  ⟨w.register path schema, [], [],
    if w.schemas.contains path.moduleName then [] else pendingOf path schema⟩

/-- An addition is a run of steps until no include is left, and a refresh. -/
theorem add_runs (w : Workspace) (src : Sources) (path : SourcePath) (schema : Schema) :
    ∃ t, ReflTransGen (Traversal.Step src) (.start w path schema) t ∧ t.pending = [] ∧
      w.add src path schema = ⟨t.workspace.refresh, t.errors, t.reads⟩ := by
  have hrun := Traversal.follow_steps src (w.register path schema)
    (Traversal.start w path schema).pending [] []
  refine ⟨_, hrun, rfl, ?_⟩
  by_cases hknown : w.schemas.contains path.moduleName = true
  · simp only [add, Traversal.start, Traversal.ended, if_pos hknown, follow_nil, List.append_nil]
  · simp only [add, Traversal.start, Traversal.ended, if_neg hknown, List.nil_append]

/-! ### No module twice -/

/-- What has been read since some workspace: files of different modules, which were not visited then
and are now. -/
structure Reading (w₀ : Workspace) (t : Traversal) : Prop where
  nodup : (t.reads.map SourcePath.moduleName).Nodup
  visited : ∀ p ∈ t.reads, t.workspace.isVisited p.moduleName = true
  fresh : ∀ p ∈ t.reads, w₀.isVisited p.moduleName = false
  kept : ∀ m, w₀.isVisited m = true → t.workspace.isVisited m = true

namespace Reading

theorem start (w : Workspace) (ps : List Pending) : Reading w ⟨w, [], [], ps⟩ :=
  ⟨List.nodup_nil, fun _ hp => (by cases hp), fun _ hp => (by cases hp), fun _ hm => hm⟩

/-- A file of a module that was not visited is read, and the module is visited then. -/
theorem read {t : Traversal} (h : Reading w₀ t) {path : SourcePath} {w : Workspace}
    (hv : t.workspace.isVisited path.moduleName = false)
    (hafter : ∀ m, w.isVisited m = true ↔ m = path.moduleName ∨ t.workspace.isVisited m = true)
    (es : List ParseError) (ps : List Pending) : Reading w₀ ⟨w, es, t.reads ++ [path], ps⟩ where
  nodup := by
    rw [List.map_append, List.nodup_append]
    refine ⟨h.nodup, by simp, fun m hm m' hm' he => ?_⟩
    -- what was read before is visited, and this is not
    obtain ⟨p, hp, rfl⟩ := List.mem_map.1 hm
    have hvisited := h.visited p hp
    rw [he, List.mem_singleton.1 hm', hv] at hvisited
    cases hvisited
  visited p hp := by
    rcases List.mem_append.1 hp with hp | hp
    · exact (hafter _).2 (.inr (h.visited p hp))
    · exact (hafter _).2 (.inl (by rw [List.mem_singleton.1 hp]))
  fresh p hp := by
    rcases List.mem_append.1 hp with hp | hp
    · exact h.fresh p hp
    · rw [List.mem_singleton.1 hp, ← Bool.not_eq_true]
      intro hv₀
      rw [h.kept _ hv₀] at hv
      cases hv
  kept m hm := (hafter m).2 (.inr (h.kept m hm))

theorem step {t t' : Traversal} (hstep : t.Step src t') (h : Reading w₀ t) : Reading w₀ t' := by
  cases hstep with
  | visited _ => exact ⟨h.nodup, h.visited, h.fresh, h.kept⟩
  | refused _ hv _ => exact h.read hv (fun _ => isVisited_markFailed) _ _
  | read _ hv _ => exact h.read hv (fun _ => isVisited_register) _ _

end Reading

/-- The files that adding a module reads are of different modules, none of which was held, had failed
or is the one that is added. -/
structure ReadOnce (w : Workspace) (module : String) (reads : List SourcePath) : Prop where
  nodup : (reads.map SourcePath.moduleName).Nodup
  not_held : ∀ p ∈ reads, p.moduleName ∉ w.schemas.keys
  not_failed : ∀ p ∈ reads, p.moduleName ∉ w.failed
  not_added : ∀ p ∈ reads, p.moduleName ≠ module

theorem readOnce_add (w : Workspace) (src : Sources) (path : SourcePath) (schema : Schema) :
    ReadOnce w path.moduleName (w.add src path schema).reads := by
  obtain ⟨t, hrun, _, hadd⟩ := add_runs w src path schema
  have hreading : Reading (w.register path schema) t :=
    Traversal.Step.keeps Reading.step hrun (.start _ _)
  -- taking the file in visits its module and leaves no other one out
  have hunvisited : ∀ p ∈ t.reads, ¬ (p.moduleName = path.moduleName ∨
      p.moduleName ∈ w.schemas.keys ∨ p.moduleName ∈ w.failed) := by
    intro p hp hm
    have hv : (w.register path schema).isVisited p.moduleName = true :=
      isVisited_register.2 (hm.imp_right isVisited_iff.2)
    rw [hreading.fresh p hp] at hv
    cases hv
  rw [hadd]
  exact ⟨hreading.nodup, fun p hp hm => hunvisited p hp (.inr (.inl hm)),
    fun p hp hm => hunvisited p hp (.inr (.inr hm)), fun p hp hm => hunvisited p hp (.inl hm)⟩

/-! ### Nothing else is read -/

/-- Following depends on what the files are that it reads, and on which files there are. -/
theorem follow_congr (hcontains : src'.contains = src.contains) (w : Workspace) (ps : List Pending)
    (hparse : ∀ p ∈ (w.follow src ps).reads, src'.parse p = src.parse p) :
    w.follow src' ps = w.follow src ps := by
  have hlocate := Settings.locate_congr hcontains
  induction w, ps using Workspace.follow.induct src with
  | case1 w => rw [follow_nil, follow_nil]
  | case2 w p rest path hv ih =>
    rw [follow_of_visited rfl hv] at hparse ⊢
    rw [follow_of_visited (hlocate _ _ _) hv, ih hparse]
  | case3 w p rest path hv e h ih =>
    have hv' : w.isVisited path.moduleName = false := by simpa using hv
    rw [follow_of_error rfl hv' h] at hparse ⊢
    have h' : src'.parse path = .error e := (hparse path List.mem_cons_self).trans h
    rw [follow_of_error (hlocate _ _ _) hv' h', ih fun p hp => hparse p (List.mem_cons_of_mem _ hp)]
  | case4 w p rest path hv schema h ih =>
    have hv' : w.isVisited path.moduleName = false := by simpa using hv
    rw [follow_of_ok rfl hv' h] at hparse ⊢
    have h' : src'.parse path = .ok schema := (hparse path List.mem_cons_self).trans h
    rw [follow_of_ok (hlocate _ _ _) hv' h', ih fun p hp => hparse p (List.mem_cons_of_mem _ hp)]

theorem add_congr (hcontains : src'.contains = src.contains) (w : Workspace) (path : SourcePath)
    (schema : Schema)
    (hparse : ∀ p ∈ (w.add src path schema).reads, src'.parse p = src.parse p) :
    w.add src' path schema = w.add src path schema := by
  by_cases hknown : w.schemas.contains path.moduleName = true
  · simp only [add, if_pos hknown]
  · simp only [add, if_neg hknown] at hparse ⊢
    rw [follow_congr hcontains _ _ hparse]

/-- **Adding a file comes to an end and reads each module once at most.**  Whatever the files
include, there is no endless run of steps, and an addition is a run to where nothing is pending.  The
files that it reads are of different modules, and never of one that was held or had failed before nor
of the one that is added; other files are not asked for.  A load reads the root and then the same
way. -/
theorem each_module_read_once (src : Sources) :
    WellFounded (flip (Traversal.Step src)) ∧
    (∀ w path schema,
      (∃ t, ReflTransGen (Traversal.Step src) (.start w path schema) t ∧ t.pending = [] ∧
        w.add src path schema = ⟨t.workspace.refresh, t.errors, t.reads⟩) ∧
      ReadOnce w path.moduleName (w.add src path schema).reads ∧
      ∀ src' : Sources, src'.contains = src.contains →
        (∀ p ∈ (w.add src path schema).reads, src'.parse p = src.parse p) →
          w.add src' path schema = w.add src path schema) ∧
    ∀ settings root r, load settings src root = .ok r →
      ∃ rest, r.reads = root :: rest ∧ ReadOnce (new settings) root.moduleName rest := by
  refine ⟨step_wellFounded src, fun w path schema => ⟨add_runs w src path schema,
    readOnce_add w src path schema, fun src' hcontains => add_congr hcontains w path schema⟩, ?_⟩
  intro settings root r hload
  cases hparse : src.parse root with
  | error e =>
    rw [load, hparse] at hload
    cases hload
  | ok schema =>
    rw [load, hparse] at hload
    cases hload
    exact ⟨_, rfl, readOnce_add _ src root schema⟩

/-- Loading the ring reads its two files and looks for the third, although the second file leads back
to the first one. -/
theorem ring_read_once :
    ∃ r, load ringSettings ringFiles.toSources ⟨"a.thrift"⟩ = .ok r ∧
      r.reads = [⟨"a.thrift"⟩, ⟨"b.thrift"⟩, ⟨"lost/gone.thrift"⟩] ∧
      ReadOnce (new ringSettings) "a" [⟨"b.thrift"⟩, ⟨"lost/gone.thrift"⟩] := by
  have hparse : ringFiles.toSources.parse ⟨"a.thrift"⟩ = .ok ringRoot := rfl
  have hload := load_of_ok ringSettings hparse
  rw [follow_ring] at hload
  obtain ⟨rest, hreads, hrest⟩ := (each_module_read_once ringFiles.toSources).2.2 _ _ _ hload
  obtain ⟨_, rfl⟩ := List.cons.inj hreads
  exact ⟨_, hload, rfl, hrest⟩

end IdlLink
