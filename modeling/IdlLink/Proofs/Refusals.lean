/-
What a file that cannot be read keeps out.

Files are searched by path and remembered by module, also those that could not be read, so that each
is tried once.  An include can therefore be passed over although its file is fine, and the only
reason is another file of the same module name:

* `Accounted.step` — a module fails by a file of its name that was read and refused, and only so;
* `include_read_unless_refused` — so an include that can be read is taken in, unless such a file came
  before it;
* `twin_kept_out` — and it does come before it where two directories have a file of one name.
-/
import IdlLink.Proofs.Closure
import IdlLink.Proofs.Reading
import Mathlib.Data.List.Nodup

open Relation

namespace IdlLink

open Workspace

variable {settings : Settings} {src : Sources} {root : SourcePath} {m : String}

/-- Modules that failed and files that were refused answer to each other. -/
structure Accounted (settings : Settings) (src : Sources) (t : Traversal) : Prop where
  /-- For every module that failed, a file of its name that an include led to was read and
  refused. -/
  refused : ∀ m ∈ t.workspace.failed, ∃ q ∈ t.reads, ∃ e ∈ t.errors, q.moduleName = m ∧
    src.parse q = .error e ∧ ∃ m₀, Includes settings src t.workspace m₀ q
  /-- For every file that was read and refused, its error is there and its module failed. -/
  reported : ∀ q ∈ t.reads, ∀ e, src.parse q = .error e →
    e ∈ t.errors ∧ q.moduleName ∈ t.workspace.failed

theorem Accounted.step {t t' : Traversal} (hstep : t.Step src t')
    (hclosing : Closing settings src root t) (h : Accounted settings src t) :
    Accounted settings src t' := by
  cases hstep with
  | visited _ => exact ⟨h.refused, h.reported⟩
  | @refused w es rs p rest path e hpath hv hparse =>
    refine ⟨fun m hm => ?_, fun q hq e' he' => ?_⟩
    · rcases List.mem_append.1 hm with hm | hm
      · obtain ⟨q, hq, e', he', hname, hparse', hincluded⟩ := h.refused m hm
        exact ⟨q, List.mem_append_left _ hq, e', List.mem_append_left _ he', hname, hparse',
          hincluded⟩
      · -- the module that fails now has the name of the file that was just refused
        obtain ⟨m₀, hm₀⟩ := hclosing.included p List.mem_cons_self
        obtain rfl := hclosing.settings_eq
        rw [hpath] at hm₀
        exact ⟨path, List.mem_append_right _ (List.mem_singleton_self _), e,
          List.mem_append_right _ (List.mem_singleton_self _), (List.mem_singleton.1 hm).symm,
          hparse, m₀, hm₀⟩
    · rcases List.mem_append.1 hq with hq | hq
      · obtain ⟨herror, hfailed⟩ := h.reported q hq e' he'
        exact ⟨List.mem_append_left _ herror, List.mem_append_left _ hfailed⟩
      · obtain rfl := List.mem_singleton.1 hq
        obtain rfl : e = e' := Except.error.inj (hparse.symm.trans he')
        exact ⟨List.mem_append_right _ (List.mem_singleton_self _),
          List.mem_append_right _ (List.mem_singleton_self _)⟩
  | @read w es rs p rest path schema hpath hv hparse =>
    refine ⟨fun m hm => ?_, fun q hq e he => ?_⟩
    · obtain ⟨q, hq, e, he, hname, hparse', m₀, hm₀⟩ := h.refused m hm
      obtain ⟨hnew, _⟩ := isVisited_eq_false.1 hv
      exact ⟨q, List.mem_append_left _ hq, e, he, hname, hparse', m₀, hm₀.register hnew⟩
    · rcases List.mem_append.1 hq with hq | hq
      · exact h.reported q hq e he
      · -- the file that was just read was not refused
        rw [List.mem_singleton.1 hq, hparse] at he
        cases he

/-- A load is a run that starts with the root alone and ends with nothing pending. -/
theorem load_runs {r : Intake} (h : load settings src root = .ok r) :
    ∃ schema t, src.parse root = .ok schema ∧
      ReflTransGen (Traversal.Step src)
        ⟨(new settings).register root schema, [], [], pendingOf root schema⟩ t ∧
      t.pending = [] ∧ r = ⟨t.workspace.refresh, t.errors, root :: t.reads⟩ := by
  cases hparse : src.parse root with
  | error e =>
    rw [load_eq_error_iff.2 hparse] at h
    cases h
  | ok schema =>
    obtain ⟨t, hrun, hpending, hadd⟩ := add_runs (new settings) src root schema
    rw [load, hparse] at h
    cases h
    exact ⟨schema, t, rfl, hrun, hpending, by rw [hadd]⟩

/-- The files that a load reads are of different modules. -/
theorem nodup_reads_of_load {r : Intake} (h : load settings src root = .ok r) :
    (r.reads.map SourcePath.moduleName).Nodup := by
  cases hparse : src.parse root with
  | error e =>
    rw [load_eq_error_iff.2 hparse] at h
    cases h
  | ok schema =>
    rw [load, hparse] at h
    cases h
    have hreads := readOnce_add (new settings) src root schema
    refine List.nodup_cons.2 ⟨fun hmem => ?_, hreads.nodup⟩
    obtain ⟨p, hp, hname⟩ := List.mem_map.1 hmem
    exact hreads.not_added p hp hname

/-- What is closed and accounted for at the end of a load. -/
theorem exists_accounted {r : Intake} (h : load settings src root = .ok r) :
    ∃ schema t, src.parse root = .ok schema ∧ Closing settings src root t ∧
      Accounted settings src t ∧ t.pending = [] ∧
      r = ⟨t.workspace.refresh, t.errors, root :: t.reads⟩ := by
  obtain ⟨schema, t, hroot, hrun, hpending, hr⟩ := load_runs h
  have hstart : Accounted settings src
      ⟨(new settings).register root schema, [], [], pendingOf root schema⟩ :=
    { refused := fun _ hm => absurd hm List.not_mem_nil
      reported := fun _ hq => absurd hq List.not_mem_nil }
  obtain ⟨hclosing, haccounted⟩ := Traversal.Step.keeps
    (P := fun t => Closing settings src root t ∧ Accounted settings src t)
    (fun hstep ht => ⟨ht.1.step hstep, ht.2.step hstep ht.1⟩) hrun
    ⟨closing_root settings hroot, hstart⟩
  exact ⟨schema, t, hroot, hclosing, haccounted, hpending, hr⟩

/-- **An include that can be read is taken in, unless a file of the same module name was refused.**
That file was found by an include as well, it was read, and its error is reported; the include that
could have been read is then not looked at.  Any file of the name that is refused has this effect. -/
theorem include_read_unless_refused {r : Intake} (h : load settings src root = .ok r)
    {path : SourcePath} (hincluded : Includes settings src r.workspace m path) {schema : Schema}
    (hparse : src.parse path = .ok schema) :
    (path.moduleName ∈ r.workspace.schemas.keys ∨
      path.moduleName ∉ r.workspace.schemas.keys ∧ path ∉ r.reads ∧
        ∃ q ∈ r.reads, ∃ e ∈ r.errors, q.moduleName = path.moduleName ∧ src.parse q = .error e ∧
          ∃ m₀, Includes settings src r.workspace m₀ q) ∧
      ∀ q ∈ r.reads, ∀ e, q.moduleName = path.moduleName → src.parse q = .error e →
        e ∈ r.errors ∧ path.moduleName ∉ r.workspace.schemas.keys ∧ path ∉ r.reads := by
  obtain ⟨rootSchema, t, hroot, hclosing, haccounted, hpending, rfl⟩ := exists_accounted h
  have hunread : ∀ q ∈ root :: t.reads, ∀ e, q.moduleName = path.moduleName →
      src.parse q = .error e → path ∉ root :: t.reads := by
    intro q hq e hname hq' hread
    -- the files read are of different modules, so the two would be one
    have hsame : path = q := List.inj_on_of_nodup_map (nodup_reads_of_load h) hread hq hname.symm
    rw [hsame, hq'] at hparse
    cases hparse
  refine ⟨?_, fun q hq e hname hq' => ?_⟩
  · rcases hclosing.followed m path hincluded with hheld | hfailed | ⟨p, hp, _⟩
    · exact .inl hheld
    · obtain ⟨q, hq, e, he, hname, hq', m₀, hm₀⟩ := haccounted.refused _ hfailed
      have hread : q ∈ root :: t.reads := List.mem_cons_of_mem _ hq
      exact .inr ⟨hclosing.reported.not_held _ hfailed, hunread q hread e hname hq',
        q, hread, e, he, hname, hq', m₀, hm₀⟩
    · rw [hpending] at hp
      cases hp
  · rcases List.mem_cons.1 hq with rfl | hq₀
    · rw [hroot] at hq'
      cases hq'
    · obtain ⟨herror, hfailed⟩ := haccounted.reported q hq₀ e hq'
      rw [hname] at hfailed
      exact ⟨herror, hclosing.reported.not_held _ hfailed, hunread q hq e hname hq'⟩

/-! ### Two files of one name -/

/-- A file that includes two of one name from different directories. -/
def twinRoot : Schema :=
  { Schema.empty with includes := ["north/common.thrift", "south/common.thrift"] }

def twinShared : Schema := { Schema.empty with typedefs := .ofList [("Id", .primitive .i64)] }

/-- Only the second of the two is there. -/
def twinFiles : MemorySources :=
  (MemorySources.empty.insert ⟨"main.thrift"⟩ (.schema twinRoot)).insert ⟨"south/common.thrift"⟩
    (.schema twinShared)

def twinIntake : Intake :=
  ⟨(((new .standard).register ⟨"main.thrift"⟩ twinRoot).markFailed "common").refresh,
    [⟨⟨"north/common.thrift"⟩, "no such file"⟩], [⟨"main.thrift"⟩, ⟨"north/common.thrift"⟩]⟩

theorem load_twin : load .standard twinFiles.toSources ⟨"main.thrift"⟩ = .ok twinIntake := by
  have hroot : twinFiles.toSources.parse ⟨"main.thrift"⟩ = .ok twinRoot := rfl
  have hnorth : Settings.standard.locate twinFiles.toSources ⟨""⟩ ⟨"north/common.thrift"⟩ =
      ⟨"north/common.thrift"⟩ := by decide
  have hname : (⟨"north/common.thrift"⟩ : SourcePath).moduleName = "common" := by decide
  have hfollow : ((new .standard).register ⟨"main.thrift"⟩ twinRoot).follow twinFiles.toSources
        (pendingOf ⟨"main.thrift"⟩ twinRoot) =
      ⟨((new .standard).register ⟨"main.thrift"⟩ twinRoot).markFailed "common",
        [⟨⟨"north/common.thrift"⟩, "no such file"⟩], [⟨"north/common.thrift"⟩]⟩ := by
    calc ((new .standard).register ⟨"main.thrift"⟩ twinRoot).follow twinFiles.toSources
          [⟨⟨""⟩, ⟨"north/common.thrift"⟩⟩, ⟨⟨""⟩, ⟨"south/common.thrift"⟩⟩]
        = _ := follow_of_error hnorth (by decide) rfl
      _ = _ := by rw [hname, follow_of_visited rfl (by decide), follow_nil]
  have hload := load_of_ok .standard hroot
  rw [hfollow] at hload
  exact hload

theorem twin_includes_south :
    Includes .standard twinFiles.toSources twinIntake.workspace "main" ⟨"south/common.thrift"⟩ :=
  ⟨⟨"main.thrift"⟩, twinRoot, ⟨rfl, rfl⟩, "south/common.thrift", by decide, by decide⟩

/-- The missing file of the north is the reason that the one of the south is not looked at. -/
theorem twin_refused_first :
    load .standard twinFiles.toSources ⟨"main.thrift"⟩ = .ok twinIntake ∧
      Includes .standard twinFiles.toSources twinIntake.workspace "main" ⟨"south/common.thrift"⟩ ∧
      twinFiles.toSources.parse ⟨"south/common.thrift"⟩ = .ok twinShared ∧
      (⟨"south/common.thrift"⟩ : SourcePath) ∉ twinIntake.reads ∧
      (∃ q ∈ twinIntake.reads, ∃ e ∈ twinIntake.errors, q.moduleName = "common" ∧
        twinFiles.toSources.parse q = .error e) ∧
      (⟨⟨"north/common.thrift"⟩, "no such file"⟩ : ParseError) ∈ twinIntake.errors ∧
      "common" ∉ twinIntake.workspace.schemas.keys := by
  have hparse : twinFiles.toSources.parse ⟨"south/common.thrift"⟩ = .ok twinShared := rfl
  have hname : (⟨"south/common.thrift"⟩ : SourcePath).moduleName = "common" := by decide
  obtain ⟨hread, hrefused⟩ := include_read_unless_refused load_twin twin_includes_south hparse
  rw [hname] at hread hrefused
  -- the file of the north was read, and there is none
  obtain ⟨herror, hunheld, hreads⟩ := hrefused ⟨"north/common.thrift"⟩ (by decide)
    ⟨⟨"north/common.thrift"⟩, "no such file"⟩ (by decide) rfl
  obtain ⟨_, _, q, hq, e, he, hqname, hq', _⟩ := hread.resolve_left hunheld
  exact ⟨load_twin, twin_includes_south, hparse, hreads, ⟨q, hq, e, he, hqname, hq'⟩, herror,
    hunheld⟩

/-- The file of the south is there and can be read, and its module is not taken in. -/
theorem twin_kept_out :
    ∃ r, load .standard twinFiles.toSources ⟨"main.thrift"⟩ = .ok r ∧
      Includes .standard twinFiles.toSources r.workspace "main" ⟨"south/common.thrift"⟩ ∧
      twinFiles.toSources.contains ⟨"south/common.thrift"⟩ = true ∧
      (∃ schema, twinFiles.toSources.parse ⟨"south/common.thrift"⟩ = .ok schema) ∧
      (⟨"south/common.thrift"⟩ : SourcePath).moduleName ∉ r.workspace.schemas.keys :=
  ⟨twinIntake, load_twin, twin_includes_south, by decide, ⟨twinShared, rfl⟩, by decide⟩

end IdlLink
