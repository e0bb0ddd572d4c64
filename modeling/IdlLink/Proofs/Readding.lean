/-
Adding a file that is there already.

Calls may have replaced the file since it was first added, and may have added any others after it.
Adding it once more, as it is held, still writes only what stands there:

* `Workspace.Reflects` — of every file that is held the table of symbols says what the file says,
  whatever else it holds from files that were replaced (`Reachable.reflects`);
* `register_of_holds` — so entering the file again writes over nothing;
* `refresh_of_upToDate` — and the views are what working them out again gives;
* `readding_changes_nothing` — both together: the workspace stays as it is, and nothing is read.

Design notes: this rests on the keys of one module not being those of another, which takes names of
modules without points.  An addition goes through many workspaces and only the last is known to have
such names; as modules are never taken away the earlier ones have them too.
-/
import IdlLink.Proofs.Closure
import IdlLink.Proofs.History

namespace IdlLink

open Workspace

variable {settings : Settings} {w : Workspace}

/-! ### The table says what the files say -/

/-- Of every file that is held, the table of symbols says what the file says. -/
def Workspace.Reflects (w : Workspace) : Prop :=
  ∀ m s, w.schemas.get? m = some s → ∀ key symbol,
    (symbolsOf s m).get? key = some symbol → w.symbols.get? key = some symbol

theorem Workspace.Reflects.register (h : w.Reflects) {path : SourcePath} {schema : Schema}
    (hplain : ∀ m ∈ (w.register path schema).schemas.keys, '.' ∉ m.toList) :
    (w.register path schema).Reflects := by
  intro m s hs key symbol hkey
  have hm : m ∈ (w.register path schema).schemas.keys := OrderedMap.mem_keys_of_get? hs
  simp only [Workspace.register, OrderedMap.get?_insert] at hs
  by_cases hmodule : m = path.moduleName
  · rw [if_pos hmodule, Option.some_inj] at hs
    subst hmodule hs
    exact OrderedMap.get?_extend_of_mem (OrderedMap.nodup _) (OrderedMap.get?_eq_some_iff.1 hkey)
  · rw [if_neg hmodule] at hs
    -- a key of another module is none of the new file's
    have hother : key ∉ (symbolsOf schema path.moduleName).keys := by
      intro hnew
      obtain ⟨name, rfl⟩ := mem_keys_symbolsOf (OrderedMap.mem_keys_of_get? hkey)
      obtain ⟨name', hname⟩ := mem_keys_symbolsOf hnew
      have hpath : path.moduleName ∈ (w.register path schema).schemas.keys :=
        OrderedMap.mem_keys_insert.2 (.inl rfl)
      exact hmodule (qualify_inj (hplain m hm) (hplain _ hpath) hname).1
    have hkept : (w.register path schema).symbols.get? key = w.symbols.get? key :=
      OrderedMap.get?_extend_of_not_mem hother
    rw [hkept]
    exact h m s hs key symbol hkey

theorem Reachable.reflects (h : Reachable settings w)
    (hplain : ∀ m ∈ w.schemas.keys, '.' ∉ m.toList) : w.Reflects := by
  refine h.tables_induction (P := fun w => (∀ m ∈ w.schemas.keys, '.' ∉ m.toList) → w.Reflects)
    (fun _ _ _ hs => by cases hs) (fun {w} path schema ih hplain => ?_) (fun _ _ _ _ hw => hw)
    hplain
  have hbefore : w.Reflects :=
    ih fun m hm => hplain m (OrderedMap.mem_keys_insert.2 (.inr hm))
  exact hbefore.register hplain

/-- Every module is held under the name that its path gives it. -/
theorem Reachable.moduleName_of_path (h : Reachable settings w) {m : String} {p : SourcePath}
    (hp : w.paths.get? m = some p) : p.moduleName = m := by
  refine h.tables_induction (P := fun w => ∀ m p, w.paths.get? m = some p → p.moduleName = m)
    (fun _ _ hp => by cases hp) (fun path schema ih m p hp => ?_) (fun _ _ _ _ hw => hw) m p hp
  simp only [Workspace.register, OrderedMap.get?_insert] at hp
  by_cases hm : m = path.moduleName
  · rw [if_pos hm, Option.some_inj] at hp
    rw [← hp, hm]
  · rw [if_neg hm] at hp
    exact ih m p hp

/-- A module that is there has a path and a file. -/
theorem Reachable.exists_holds (h : Reachable settings w) {m : String} (hm : m ∈ w.schemas.keys) :
    ∃ p s, w.Holds m p s := by
  obtain ⟨s, hs⟩ := OrderedMap.mem_keys_iff.1 hm
  obtain ⟨p, hp⟩ := OrderedMap.mem_keys_iff.1 (h.sound.paths_keys ▸ hm)
  exact ⟨p, s, hp, hs⟩

/-! ### The same file once more -/

/-- Entering a file that is held writes over nothing. -/
theorem register_of_holds (h : Reachable settings w) (hreflects : w.Reflects) {m : String}
    {p : SourcePath} {s : Schema} (hheld : w.Holds m p s) : w.register p s = w := by
  obtain rfl : p.moduleName = m := h.moduleName_of_path hheld.1
  have hschemas : w.schemas.insert p.moduleName s = w.schemas := OrderedMap.insert_of_get? hheld.2
  have hpaths : w.paths.insert p.moduleName p = w.paths := OrderedMap.insert_of_get? hheld.1
  have hsymbols : w.symbols.extend (symbolsOf s p.moduleName).entries = w.symbols :=
    OrderedMap.extend_of_get? fun e he => hreflects _ s hheld.2 _ _ (OrderedMap.get?_eq_some_iff.2 he)
  have hinitial : w.initial.or (some p.moduleName) = w.initial := by
    -- there is a first module, since there is this one
    obtain ⟨m₀, hm₀⟩ : ∃ m₀, w.schemas.keys.head? = some m₀ := by
      cases hkeys : w.schemas.keys with
      | nil =>
        have hmem := hheld.mem_keys
        rw [hkeys] at hmem
        cases hmem
      | cons m₀ _ => exact ⟨m₀, rfl⟩
    rw [h.sound.initial_eq, hm₀, Option.some_or]
  rw [Workspace.register]
  simp only [hschemas, hpaths, hsymbols, hinitial]

/-- Views that are up to date stay as they are when they are worked out again. -/
theorem refresh_of_upToDate (h : UpToDate w) : w.refresh = w := by
  have haliases : w.refresh.aliases = w.aliases := by
    cases hc : w.current with
    | none => simp only [refresh, hc]
    | some m => simp only [refresh, hc, h.aliases_eq hc]
  have hnamespaces : w.refresh.namespaces = w.namespaces := h.namespaces_eq.symm
  calc w.refresh
      = { w with aliases := w.refresh.aliases, namespaces := w.refresh.namespaces } := rfl
    _ = w := by rw [haliases, hnamespaces]

/-- **Adding a file again changes nothing.**  Whatever calls have led to a workspace, each of its
files can be added once more, with any sources at hand: nothing is read, there is no error, and no
part of the workspace is another one after it. -/
theorem readding_changes_nothing (h : Reachable settings w)
    (hplain : ∀ m ∈ w.schemas.keys, '.' ∉ m.toList) {m : String} (hm : m ∈ w.schemas.keys) :
    ∃ p s, w.Holds m p s ∧ ∀ src, w.add src p s = ⟨w, [], []⟩ := by
  obtain ⟨p, s, hheld⟩ := h.exists_holds hm
  refine ⟨p, s, hheld, fun src => ?_⟩
  have hknown : w.schemas.contains p.moduleName = true := by
    rw [h.moduleName_of_path hheld.1]
    exact OrderedMap.contains_iff.2 hm
  have hregister : w.register p s = w := register_of_holds h (h.reflects hplain) hheld
  simp only [add, if_pos hknown, hregister, refresh_of_upToDate h.upToDate]

/-- The first file of the ring was replaced in the end; its last form is what can be added again,
here with no file at hand and another module current. -/
theorem ringHistory_readding :
    Reachable ringSettings ringHistory ∧ (∀ m ∈ ringHistory.schemas.keys, '.' ∉ m.toList) ∧
      "a" ∈ ringHistory.schemas.keys ∧ ringHistory.current = some "b" ∧
      ringHistory.add MemorySources.empty.toSources ⟨"a.thrift"⟩ ringLater =
        ⟨ringHistory, [], []⟩ := by
  have hreachable := reachable_ringHistory
  have hplain : ∀ m ∈ ringHistory.schemas.keys, '.' ∉ m.toList := by
    rw [ringHistory_eq]
    decide
  have hmem : "a" ∈ ringHistory.schemas.keys := by
    rw [ringHistory_eq]
    decide
  have hcurrent : ringHistory.current = some "b" := by
    rw [ringHistory_eq]
    decide
  have hlast : ringHistory.Holds "a" ⟨"a.thrift"⟩ ringLater := by
    rw [ringHistory_eq]
    exact ⟨rfl, rfl⟩
  obtain ⟨p, s, hheld, hadd⟩ := readding_changes_nothing hreachable hplain hmem
  obtain rfl : p = ⟨"a.thrift"⟩ := Option.some_inj.1 (hheld.1.symm.trans hlast.1)
  obtain rfl : s = ringLater := Option.some_inj.1 (hheld.2.symm.trans hlast.2)
  exact ⟨hreachable, hplain, hmem, hcurrent, hadd _⟩

end IdlLink
