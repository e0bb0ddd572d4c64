/-
The one spelling of a cycle is a normal form.

A chain runs into a cycle from outside and goes around it once.  Whatever leads there, and wherever
the cycle is entered, its spelling says which cycle it is, and no more:

* `rotateToLeast_eq_iff` — two cycles have one turn to the least name if they are one cycle;
* `canonical_canonical` — what is in the one spelling stays there, for errors of any kind and chains
  of any form;
* `RunsInto.canonical` — a chain is reduced to the turn of its cycle;
* `canonical_normal_form` — the properties of a normal form.
-/
import IdlLink.Proofs.Cycles

open scoped List

namespace IdlLink

variable {loop rotated : List String}

/-! ### Turning to the least name, once and again -/

theorem rotateToLeast_of_leastFirst (h : LeastFirst loop) : rotateToLeast loop = loop := by
  cases loop with
  | nil => rfl
  | cons first rest =>
    obtain ⟨least, hleast⟩ : ∃ least, leastName (first :: rest) = some least := ⟨_, rfl⟩
    obtain ⟨hmem, hle⟩ := leastName_spec hleast
    -- neither of the two is less than the other
    have hsame : first = least :=
      String.le_antisymm (h first rfl least hmem) (hle first List.mem_cons_self)
    subst hsame
    have hdrop : (first :: rest).dropWhile (· ≠ first) = first :: rest :=
      List.dropWhile_cons_of_neg (by simp)
    have htake : (first :: rest).takeWhile (· ≠ first) = [] :=
      List.takeWhile_cons_of_neg (by simp)
    rw [rotateToLeast, hleast]
    simp only [hdrop, htake, List.append_nil]

/-- The turn of a cycle to its least name tells which cycle it is. -/
theorem rotateToLeast_eq_iff (hnodup : loop.Nodup) :
    rotateToLeast loop = rotateToLeast rotated ↔ loop ~r rotated := by
  have hloop := rotateToLeast_isRotated loop
  have hrotated := rotateToLeast_isRotated rotated
  constructor
  · intro h
    rw [← h] at hrotated
    exact hloop.trans hrotated.symm
  · intro h
    exact eq_of_isRotated ((hloop.symm.trans h).trans hrotated) (hloop.nodup_iff.1 hnodup)
      (leastFirst_rotateToLeast loop) (leastFirst_rotateToLeast rotated)

/-- A cycle in its one spelling is spelled so again. -/
theorem canonicalChain_closeLoop (h : LeastFirst loop) :
    canonicalChain (closeLoop loop) = closeLoop loop := by
  cases loop with
  | nil => rfl
  | cons first rest =>
    have hchain := canonicalChain_append_closeLoop (List.cons_ne_nil first rest)
      (List.disjoint_nil_left (first :: rest))
    rw [List.nil_append, rotateToLeast_of_leastFirst h] at hchain
    exact hchain

/-- Any list of names is spelled as some cycle that starts at its least name. -/
theorem exists_canonicalChain_eq (chain : List String) :
    ∃ loop, LeastFirst loop ∧ canonicalChain chain = closeLoop loop := by
  rw [canonicalChain]
  split
  · exact ⟨[], fun first hfirst => by simp at hfirst, rfl⟩
  · exact ⟨_, leastFirst_rotateToLeast _, rfl⟩

/-- The one spelling is kept, for errors of every kind and chains of every form. -/
theorem canonical_canonical (e : ResolveError) : e.canonical.canonical = e.canonical := by
  cases e with
  | cyclic chain =>
    obtain ⟨loop, hleast, hloop⟩ := exists_canonicalChain_eq chain
    rw [ResolveError.canonical, hloop, ResolveError.canonical, canonicalChain_closeLoop hleast]
  | _ => rfl

/-! ### Chains that run into a cycle -/

/-- A chain that leads into a cycle from outside and goes around it once, from wherever it enters. -/
def RunsInto (chain cycle : List String) : Prop :=
  ∃ lead entered, entered ~r cycle ∧ lead.Disjoint cycle ∧ chain = lead ++ closeLoop entered

/-- Such a chain is reduced to the cycle, turned to its least name. -/
theorem RunsInto.canonical {chain cycle : List String} (h : RunsInto chain cycle) (hne : cycle ≠ [])
    (hnodup : cycle.Nodup) :
    (ResolveError.cyclic chain).canonical = .cyclic (closeLoop (rotateToLeast cycle)) := by
  obtain ⟨lead, entered, hentered, hlead, rfl⟩ := h
  have hentered_ne : entered ≠ [] := by
    rintro rfl
    exact hne (List.isRotated_nil_iff'.1 hentered).symm
  have hdisjoint : lead.Disjoint entered := fun k hk hk' => hlead hk (hentered.mem_iff.1 hk')
  rw [ResolveError.canonical, canonicalChain_append_closeLoop hentered_ne hdisjoint,
    (rotateToLeast_eq_iff (hentered.nodup_iff.2 hnodup)).2 hentered]

/-- **The one spelling of cycles is a normal form.**  All chains that run into one cycle are spelled
alike: the cycle itself, from its least name and with this name again at its end, which is spelled so
again.  Chains that run into different cycles are spelled differently, and errors of another kind are
left as they are. -/
theorem canonical_normal_form {cycle : List String} (hne : cycle ≠ []) (hnodup : cycle.Nodup) :
    (∃ least rest, least :: rest ~r cycle ∧ (∀ k ∈ cycle, least ≤ k) ∧
      (∀ chain, RunsInto chain cycle →
        (ResolveError.cyclic chain).canonical = .cyclic (least :: rest ++ [least])) ∧
      (ResolveError.cyclic (least :: rest ++ [least])).canonical =
        .cyclic (least :: rest ++ [least])) ∧
    (∀ other, other ≠ [] → other.Nodup → ∀ chain chain', RunsInto chain cycle →
      RunsInto chain' other →
      ((ResolveError.cyclic chain).canonical = (ResolveError.cyclic chain').canonical ↔
        cycle ~r other)) ∧
    ∀ e : ResolveError, (∀ chain, e ≠ .cyclic chain) → e.canonical = e := by
  have hturned := rotateToLeast_isRotated cycle
  refine ⟨?_, ?_, ?_⟩
  · obtain ⟨least, rest, hform⟩ : ∃ least rest, rotateToLeast cycle = least :: rest := by
      refine List.exists_cons_of_ne_nil fun hnil => hne ?_
      rw [hnil] at hturned
      exact List.isRotated_nil_iff.1 hturned
    have hleast := leastFirst_rotateToLeast cycle
    rw [hform] at hturned hleast
    have hchain : ∀ chain, RunsInto chain cycle →
        (ResolveError.cyclic chain).canonical = .cyclic (least :: rest ++ [least]) := by
      intro chain hruns
      rw [hruns.canonical hne hnodup, hform, closeLoop_cons]
    refine ⟨least, rest, hturned.symm, fun k hk => hleast least rfl k (hturned.mem_iff.1 hk),
      hchain, ?_⟩
    have hself : (ResolveError.cyclic (closeLoop cycle)).canonical =
        .cyclic (least :: rest ++ [least]) :=
      hchain _ ⟨[], cycle, .refl cycle, List.disjoint_nil_left cycle, rfl⟩
    rw [← hself]
    exact canonical_canonical _
  · intro other hother hother_nodup chain chain' hruns hruns'
    rw [hruns.canonical hne hnodup, hruns'.canonical hother hother_nodup,
      ← rotateToLeast_eq_iff hnodup, ResolveError.cyclic.injEq, closeLoop_injective.eq_iff]
  · intro e hother
    cases e with
    | cyclic chain => exact absurd rfl (hother chain)
    | _ => rfl

/-- A cycle that is entered in its middle, by way of a name that comes twice, and one of the same names
in the other order. -/
theorem winding_normal_form :
    RunsInto ["x", "x", "c", "a", "b", "c"] ["b", "c", "a"] ∧
      RunsInto ["b", "a", "c", "b"] ["c", "b", "a"] ∧
      (ResolveError.cyclic ["x", "x", "c", "a", "b", "c"]).canonical =
        .cyclic ["a", "b", "c", "a"] ∧
      (ResolveError.cyclic ["x", "x", "c", "a", "b", "c"]).canonical ≠
        (ResolveError.cyclic ["b", "a", "c", "b"]).canonical := by
  have hforth : RunsInto ["x", "x", "c", "a", "b", "c"] ["b", "c", "a"] :=
    ⟨["x", "x"], ["c", "a", "b"], by decide, by simp, rfl⟩
  have hback : RunsInto ["b", "a", "c", "b"] ["c", "b", "a"] :=
    ⟨[], ["b", "a", "c"], by decide, List.disjoint_nil_left _, rfl⟩
  have hclosed : RunsInto ["a", "b", "c", "a"] ["b", "c", "a"] :=
    ⟨[], ["a", "b", "c"], by decide, List.disjoint_nil_left _, rfl⟩
  obtain ⟨_, hsame, _⟩ := canonical_normal_form (by decide : ["b", "c", "a"] ≠ []) (by decide)
  refine ⟨hforth, hback, ?_, fun heq => ?_⟩
  · rw [(hsame _ (by decide) (by decide) _ _ hforth hclosed).2 (.refl _)]
    decide
  · have hrotated := (hsame _ (by decide) (by decide) _ _ hforth hback).1 heq
    exact absurd hrotated (by decide)

end IdlLink
