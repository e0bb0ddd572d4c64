/-
What a load reaches.

A path is reached when it is the root, or when an include of a file that is reached leads to it.
Which of these files a load takes in is in general a matter of order: of several paths with one module
name the first one counts.  Where all paths with one module name are spellings of one path, order is
no matter:

* `HoldsReached.step` — only files that are reached are taken in, whatever the names are;
* `Unambiguous.visited` — every path that is reached is held or has failed, under its module's name;
* `Unambiguous.takesIn` — both together: the files of the workspace are the paths that are reached and
  can be read, and its failures the ones that cannot.

Design notes: the second point is an induction along the includes, not along the load.  The file that
is held need not have the spelling that the induction came by, and that is where `SamePlace.locate`
comes in.
-/
import IdlLink.Proofs.Closure
import IdlLink.Proofs.Paths

namespace IdlLink

open SourcePath Workspace

/-- The paths that includes lead to, from a root. -/
inductive Reaches (settings : Settings) (src : Sources) (root : SourcePath) : SourcePath → Prop
  | root : Reaches settings src root root
  | included {p s i} : Reaches settings src root p → src.parse p = .ok s → i ∈ s.includes →
      Reaches settings src root (settings.locate src p.directory ⟨i⟩)

/-- Paths that are reached under one module name are the same path, in some sense of being the same:
that of their components, or also that of their spelling. -/
def Unambiguous (same : SourcePath → SourcePath → Prop) (settings : Settings) (src : Sources)
    (root : SourcePath) : Prop :=
  ∀ p q, Reaches settings src root p → Reaches settings src root q →
    p.moduleName = q.moduleName → same p q

/-- Each file of a workspace is one that is reached, as it was read and under its module's name. -/
def HoldsReached (settings : Settings) (src : Sources) (root : SourcePath) (w : Workspace) : Prop :=
  ∀ m p s, w.Holds m p s →
    Reaches settings src root p ∧ p.moduleName = m ∧ src.parse p = .ok s

/-- What was taken in is what is reached: the files, and the failures with their errors.  A path that
was reached before stands for all that are the `same`. -/
structure TakesIn (same : SourcePath → SourcePath → Prop) (settings : Settings) (src : Sources)
    (root : SourcePath) (r : Intake) : Prop where
  held : HoldsReached settings src root r.workspace
  arrived : ∀ p s, Reaches settings src root p → src.parse p = .ok s →
    ∃ q, r.workspace.Holds p.moduleName q s ∧ same q p
  failed_iff : ∀ m, m ∈ r.workspace.failed ↔
    ∃ p e, Reaches settings src root p ∧ p.moduleName = m ∧ src.parse p = .error e
  refused : ∀ e ∈ r.errors, ∃ p, Reaches settings src root p ∧ src.parse p = .error e
  reported : ∀ p e, Reaches settings src root p → src.parse p = .error e →
    ∃ e' ∈ r.errors, same e'.path e.path ∧ e'.reason = e.reason

variable {settings : Settings} {src : Sources} {root path : SourcePath} {w : Workspace}
  {schema : Schema}

/-- Paths that are closed under includes are all that is reached from one of them. -/
theorem Reaches.mem_of_closed {paths : List SourcePath} (hroot : root ∈ paths)
    (hclosed : ∀ p ∈ paths, ∀ s, src.parse p = .ok s → ∀ i ∈ s.includes,
      settings.locate src p.directory ⟨i⟩ ∈ paths) (h : Reaches settings src root path) :
    path ∈ paths := by
  induction h with
  | root => exact hroot
  | included _ hparse hi ih => exact hclosed _ ih _ hparse _ hi

/-! ### Only what is reached -/

theorem HoldsReached.reaches_of_includes (h : HoldsReached settings src root w) {m : String}
    (hi : Includes settings src w m path) : Reaches settings src root path := by
  obtain ⟨p, s, hheld, i, hmem, rfl⟩ := hi
  obtain ⟨hreached, _, hparse⟩ := h m p s hheld
  exact .included hreached hparse hmem

theorem HoldsReached.register (hreached : Reaches settings src root path)
    (hparse : src.parse path = .ok schema) (h : HoldsReached settings src root w) :
    HoldsReached settings src root (w.register path schema) := by
  intro m p s hheld
  by_cases hm : m = path.moduleName
  · subst hm
    have hnew := holds_register w path schema
    obtain rfl : p = path := Option.some_inj.1 (hheld.1.symm.trans hnew.1)
    obtain rfl : s = schema := Option.some_inj.1 (hheld.2.symm.trans hnew.2)
    exact ⟨hreached, rfl, hparse⟩
  · exact h m p s ((holds_register_of_ne hm).1 hheld)

/-- What is pending is an include of a file that is held, so a new file is reached too. -/
theorem HoldsReached.step {t t' : Traversal} (hstep : t.Step src t')
    (hclosing : Closing settings src root t) (h : HoldsReached settings src root t.workspace) :
    HoldsReached settings src root t'.workspace := by
  cases hstep with
  | visited _ => exact h
  | refused _ _ _ => exact h
  | @read w es rs p rest path schema hpath hv hparse =>
    obtain ⟨rfl, _, _, _, hincluded⟩ := hclosing
    obtain ⟨m, hm⟩ := hincluded p List.mem_cons_self
    rw [hpath] at hm
    exact HoldsReached.register (h.reaches_of_includes hm) hparse h

/-- A load ends closed, with nothing but what is reached. -/
theorem exists_load (settings : Settings) (hparse : src.parse root = .ok schema) :
    ∃ r, load settings src root = .ok r ∧
      Closing settings src root ⟨r.workspace, r.errors, r.reads, []⟩ ∧
      HoldsReached settings src root r.workspace := by
  have hroot : HoldsReached settings src root ((new settings).register root schema) :=
    HoldsReached.register .root hparse fun _ _ _ hheld => by cases hheld.1
  obtain ⟨⟨hsettings, hgathered, hreported, hfollowed, hincluded⟩, hheld⟩ :=
    Traversal.Step.invariant
      (P := fun t => Closing settings src root t ∧ HoldsReached settings src root t.workspace)
      (fun hstep h => ⟨Closing.step hstep h.1, HoldsReached.step hstep h.1 h.2⟩)
      ⟨closing_root settings hparse, hroot⟩
  -- a refresh touches neither the files nor the symbols
  exact ⟨_, load_of_ok settings hparse, ⟨hsettings,
    ⟨hgathered.first, hgathered.root_held, hgathered.found, hgathered.symbols_eq⟩,
    ⟨hreported.not_held, hreported.nodup, hreported.refused⟩, hfollowed, hincluded⟩, hheld⟩

/-! ### All that is reached -/

/-- A module that is there has a path and a file. -/
theorem Gathered.exists_holds (h : Gathered settings src root w) {m : String}
    (hm : m ∈ w.schemas.keys) : ∃ p s, w.Holds m p s := by
  by_cases hroot : m = root.moduleName
  · obtain ⟨s, hheld, _⟩ := h.root_held
    exact ⟨root, s, hroot ▸ hheld⟩
  · obtain ⟨p, s, hheld, _⟩ := h.found m hm hroot
    exact ⟨p, s, hheld⟩

theorem exists_of_forall₂_left {α β : Type} {R : α → β → Prop} {xs : List α} {ys : List β}
    (h : List.Forall₂ R xs ys) {x : α} (hx : x ∈ xs) : ∃ y ∈ ys, R x y := by
  induction h with
  | nil => cases hx
  | cons hr _ ih =>
    rcases List.mem_cons.1 hx with rfl | hx
    · exact ⟨_, List.mem_cons_self, hr⟩
    · obtain ⟨y, hy, hr⟩ := ih hx
      exact ⟨y, List.mem_cons_of_mem _ hy, hr⟩

theorem exists_of_forall₂_right {α β : Type} {R : α → β → Prop} {xs : List α} {ys : List β}
    (h : List.Forall₂ R xs ys) {y : β} (hy : y ∈ ys) : ∃ x ∈ xs, R x y :=
  exists_of_forall₂_left (R := flip R) h.flip hy

/-- A failed module has its error, from a path that is reached. -/
theorem HoldsReached.exists_error (hheld : HoldsReached settings src root w)
    {errors : List ParseError} (h : Reported settings src w errors) {m : String}
    (hm : m ∈ w.failed) :
    ∃ q, ∃ e ∈ errors, Reaches settings src root q ∧ q.moduleName = m ∧ src.parse q = .error e := by
  obtain ⟨e, he, _, q, hi, hname, hparse⟩ := exists_of_forall₂_left h.refused hm
  exact ⟨q, e, he, hheld.reaches_of_includes hi, hname, hparse⟩

/-- An error comes from a path that is reached, and its module has failed. -/
theorem HoldsReached.exists_refused (hheld : HoldsReached settings src root w)
    {errors : List ParseError} (h : Reported settings src w errors) {e : ParseError}
    (he : e ∈ errors) :
    ∃ q, Reaches settings src root q ∧ q.moduleName ∈ w.failed ∧ src.parse q = .error e := by
  obtain ⟨m, hm, _, q, hi, rfl, hparse⟩ := exists_of_forall₂_right h.refused he
  exact ⟨q, hheld.reaches_of_includes hi, hm, hparse⟩

section

variable {files : MemorySources} {errors : List ParseError} {reads : List SourcePath}
  {p q : SourcePath} {s : Schema} {e : ParseError}

namespace Unambiguous

/-- Two paths that are reached under one module name are read alike. -/
theorem parse_eq (h : Unambiguous SamePlace settings files.toSources root)
    (hp : Reaches settings files.toSources root p) (hq : Reaches settings files.toSources root q)
    (hname : p.moduleName = q.moduleName) :
    files.toSources.parse q = (files.toSources.parse p).mapError fun e => ⟨q, e.reason⟩ :=
  (h p q hp hq hname).parse_eq

/-- A path that can be read has no rival that has failed. -/
theorem not_failed (h : Unambiguous SamePlace settings files.toSources root)
    (hheld : HoldsReached settings files.toSources root w)
    (hreported : Reported settings files.toSources w errors)
    (hp : Reaches settings files.toSources root p) (hparse : files.toSources.parse p = .ok s) :
    p.moduleName ∉ w.failed := by
  intro hfailed
  obtain ⟨q, e, _, hq, hname, herror⟩ := hheld.exists_error hreported hfailed
  have hsame := h.parse_eq hp hq hname.symm
  rw [hparse, herror] at hsame
  cases hsame

/-- A path that is held is held in some spelling, as the file that all spellings lead to. -/
theorem exists_held (h : Unambiguous SamePlace settings files.toSources root)
    (hclosing : Closing settings files.toSources root ⟨w, errors, reads, []⟩)
    (hheld : HoldsReached settings files.toSources root w)
    (hp : Reaches settings files.toSources root p) (hm : p.moduleName ∈ w.schemas.keys) :
    ∃ q s, w.Holds p.moduleName q s ∧ q.SamePlace p ∧
      files.toSources.parse p = .ok s := by
  obtain ⟨q, s, hholds⟩ := hclosing.gathered.exists_holds hm
  obtain ⟨hq, hname, hparse⟩ := hheld _ q s hholds
  have hsame := h.parse_eq hq hp hname
  rw [hparse] at hsame
  exact ⟨q, s, hholds, h q p hq hp hname, hsame⟩

/-- **Whatever is reached has been visited**: its module is held or has failed. -/
theorem visited (h : Unambiguous SamePlace settings files.toSources root)
    (hclosing : Closing settings files.toSources root ⟨w, errors, reads, []⟩)
    (hheld : HoldsReached settings files.toSources root w)
    (hp : Reaches settings files.toSources root p) :
    p.moduleName ∈ w.schemas.keys ∨ p.moduleName ∈ w.failed := by
  induction hp with
  | root =>
    obtain ⟨_, hroot, _⟩ := hclosing.gathered.root_held
    exact .inl hroot.mem_keys
  | @included p s i hp hparse hi ih =>
    have hm : p.moduleName ∈ w.schemas.keys :=
      ih.resolve_right (h.not_failed hheld hclosing.reported hp hparse)
    -- the file is held in some spelling, and what its includes lead to has been visited
    obtain ⟨q, s', hholds, hplace, hparse'⟩ := h.exists_held hclosing hheld hp hm
    obtain rfl : s = s' := Except.ok.inj (hparse.symm.trans hparse')
    rw [← (hplace.locate settings ⟨i⟩).moduleName_eq]
    rcases hclosing.followed _ _ ⟨q, s, hholds, i, hi, rfl⟩ with hk | hf | ⟨_, hnone, _⟩
    · exact .inl hk
    · exact .inr hf
    · cases hnone

/-- A path that cannot be read has failed. -/
theorem failed (h : Unambiguous SamePlace settings files.toSources root)
    (hclosing : Closing settings files.toSources root ⟨w, errors, reads, []⟩)
    (hheld : HoldsReached settings files.toSources root w)
    (hp : Reaches settings files.toSources root p) (herror : files.toSources.parse p = .error e) :
    p.moduleName ∈ w.failed := by
  refine (h.visited hclosing hheld hp).resolve_left fun hm => ?_
  obtain ⟨_, _, _, _, hparse⟩ := h.exists_held hclosing hheld hp hm
  rw [herror] at hparse
  cases hparse

/-- **Where names are unambiguous, what is taken in is what is reached**: in particular it does not
depend on the way by which a path is reached first. -/
theorem takesIn (h : Unambiguous SamePlace settings files.toSources root) {r : Intake}
    (hclosing : Closing settings files.toSources root ⟨r.workspace, r.errors, r.reads, []⟩)
    (hheld : HoldsReached settings files.toSources root r.workspace) :
    TakesIn SamePlace settings files.toSources root r where
  held := hheld
  arrived := by
    intro p s hp hparse
    have hm : p.moduleName ∈ r.workspace.schemas.keys :=
      (h.visited hclosing hheld hp).resolve_right (h.not_failed hheld hclosing.reported hp hparse)
    obtain ⟨q, s', hholds, hplace, hparse'⟩ := h.exists_held hclosing hheld hp hm
    obtain rfl : s = s' := Except.ok.inj (hparse.symm.trans hparse')
    exact ⟨q, hholds, hplace⟩
  failed_iff := by
    intro m
    constructor
    · intro hm
      obtain ⟨p, e, _, hp, hname, herror⟩ := hheld.exists_error hclosing.reported hm
      exact ⟨p, e, hp, hname, herror⟩
    · rintro ⟨p, e, hp, rfl, herror⟩
      exact h.failed hclosing hheld hp herror
  refused := by
    intro e he
    obtain ⟨p, hp, _, herror⟩ := hheld.exists_refused hclosing.reported he
    exact ⟨p, hp, herror⟩
  reported := by
    intro p e hp herror
    have hm := h.failed hclosing hheld hp herror
    obtain ⟨q, e', he', hq, hname, herror'⟩ := hheld.exists_error hclosing.reported hm
    have hsame := h.parse_eq hp hq hname.symm
    rw [herror, herror'] at hsame
    obtain rfl : e' = ⟨q, e.reason⟩ := Except.error.inj hsame
    refine ⟨_, he', ?_, rfl⟩
    rw [MemorySources.path_of_parse_error herror]
    exact h q p hq hp hname

end Unambiguous

/-- What is taken in is the same in every sense in which names are unambiguous. -/
theorem TakesIn.same {same : SourcePath → SourcePath → Prop} {r : Intake}
    (hsame : Unambiguous same settings files.toSources root)
    (h : TakesIn SamePlace settings files.toSources root r) :
    TakesIn same settings files.toSources root r where
  held := h.held
  arrived := by
    intro p s hp hparse
    obtain ⟨q, hholds, _⟩ := h.arrived p s hp hparse
    obtain ⟨hq, hname, _⟩ := h.held _ q s hholds
    exact ⟨q, hholds, hsame q p hq hp hname⟩
  failed_iff := h.failed_iff
  refused := h.refused
  reported := by
    intro p e hp herror
    obtain ⟨e', he', hplace, hreason⟩ := h.reported p e hp herror
    obtain ⟨q, hq, herror'⟩ := h.refused e' he'
    rw [MemorySources.path_of_parse_error herror', MemorySources.path_of_parse_error herror] at hplace
    refine ⟨e', he', ?_, hreason⟩
    rw [MemorySources.path_of_parse_error herror', MemorySources.path_of_parse_error herror]
    exact hsame q p hq hp hplace.moduleName_eq

end

end IdlLink
