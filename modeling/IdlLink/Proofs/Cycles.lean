/-
Loops of names, and one spelling for each.

A chain of typedefs that comes back is a way in, a loop, and the first name of the loop again.  Where
the loop is entered is an accident of where the chain started, and `canonicalChain` takes that away:

* `canonicalChain_append_closeLoop` — the way in is dropped and the loop turned to its least name;
* `rotateToLeast_isRotated`, `leastFirst_rotateToLeast` — the loop is the same one up to its start,
  and starts at its least name;
* `eq_of_isRotated` — that determines it: two loops without repetitions that start at their least
  names are equal as soon as one is a rotation of the other;
* `isChain_closeLoop_rotated` — what links each name of a loop to the next one links them from
  wherever the loop starts.
-/
import IdlLink.Workspace.Check
import Mathlib.Data.List.Cycle

open scoped List

namespace IdlLink

/-- A loop with its first name again at its end. -/
def closeLoop (loop : List String) : List String := loop ++ loop.head?.toList

/-- No name of a loop is less than the one it starts at. -/
def LeastFirst (loop : List String) : Prop := ∀ first ∈ loop.head?, ∀ k ∈ loop, first ≤ k

variable {loop rotated : List String}

theorem closeLoop_cons (first : String) (rest : List String) :
    closeLoop (first :: rest) = first :: rest ++ [first] := rfl

theorem dropLast_closeLoop (loop : List String) : (closeLoop loop).dropLast = loop := by
  cases loop with
  | nil => rfl
  | cons first rest => rw [closeLoop_cons, List.dropLast_concat]

theorem closeLoop_injective : Function.Injective closeLoop :=
  Function.LeftInverse.injective dropLast_closeLoop

/-! ### The least name -/

/-- The least of a list that starts with some name is one of its names and less than none. -/
theorem foldl_least (n : String) (ns : List String) :
    ns.foldl (fun least m => if m < least then m else least) n ∈ n :: ns ∧
      ∀ k ∈ n :: ns, ns.foldl (fun least m => if m < least then m else least) n ≤ k := by
  induction ns generalizing n with
  | nil =>
    refine ⟨List.mem_cons_self, fun k hk => ?_⟩
    rw [List.mem_singleton.1 hk]
    exact String.le_refl n
  | cons m rest ih =>
    rw [List.foldl_cons]
    by_cases hm : m < n
    · rw [if_pos hm]
      obtain ⟨hmem, hle⟩ := ih m
      refine ⟨List.mem_cons_of_mem _ hmem, fun k hk => ?_⟩
      rcases List.mem_cons.1 hk with rfl | hk
      · exact String.le_trans (hle m List.mem_cons_self) (Std.le_of_lt hm)
      · exact hle k hk
    · rw [if_neg hm]
      obtain ⟨hmem, hle⟩ := ih n
      refine ⟨List.cons_subset_cons n (List.subset_cons_self m rest) hmem, fun k hk => ?_⟩
      rcases List.mem_cons.1 hk with rfl | hk
      · exact hle k List.mem_cons_self
      · rcases List.mem_cons.1 hk with rfl | hk
        · exact String.le_trans (hle n List.mem_cons_self) (String.not_lt.1 hm)
        · exact hle k (List.mem_cons_of_mem _ hk)

theorem leastName_spec {least : String} (h : leastName loop = some least) :
    least ∈ loop ∧ ∀ k ∈ loop, least ≤ k := by
  cases loop with
  | nil => cases h
  | cons n ns =>
    obtain rfl := Option.some_inj.1 h
    exact foldl_least n ns

/-! ### Turning a loop to its least name -/

theorem rotateToLeast_isRotated (loop : List String) : loop ~r rotateToLeast loop := by
  unfold rotateToLeast
  split
  · rename_i hnone
    cases loop with
    | nil => rfl
    | cons n ns => cases hnone
  · rename_i least _
    have happend : loop.takeWhile (· ≠ least) ++ loop.dropWhile (· ≠ least) = loop :=
      List.takeWhile_append_dropWhile
    calc loop
        = loop.takeWhile (· ≠ least) ++ loop.dropWhile (· ≠ least) := happend.symm
      _ ~r loop.dropWhile (· ≠ least) ++ loop.takeWhile (· ≠ least) := List.isRotated_append

theorem head?_rotateToLeast (loop : List String) : (rotateToLeast loop).head? = leastName loop := by
  unfold rotateToLeast
  split
  · rename_i hnone
    exact hnone.symm
  · rename_i least hleast
    -- the least name stands in the loop, and what is passed over is something else
    obtain ⟨before, after, hloop⟩ := List.append_of_mem (leastName_spec hleast).1
    have hdrop : ∃ rest, loop.dropWhile (· ≠ least) = least :: rest := by
      rw [hloop]
      clear hloop
      induction before with
      | nil => exact ⟨after, by simp⟩
      | cons b before ih =>
        by_cases hb : b = least
        · exact ⟨before ++ least :: after, by simp [hb]⟩
        · obtain ⟨rest, hrest⟩ := ih
          exact ⟨rest, by simpa [hb] using hrest⟩
    obtain ⟨rest, hrest⟩ := hdrop
    rw [hrest, hleast]
    rfl

theorem leastFirst_rotateToLeast (loop : List String) : LeastFirst (rotateToLeast loop) := by
  intro first hfirst k hk
  rw [head?_rotateToLeast] at hfirst
  exact (leastName_spec hfirst).2 k ((rotateToLeast_isRotated loop).mem_iff.2 hk)

/-! ### One loop, one spelling -/

/-- Rotations of one loop that start at the same name are equal, if no name comes twice. -/
theorem eq_of_isRotated_of_head? (h : loop ~r rotated) (hnodup : loop.Nodup)
    (hhead : loop.head? = rotated.head?) : loop = rotated := by
  obtain ⟨n, rfl⟩ := h
  cases hloop : loop with
  | nil => rw [List.rotate_nil]
  | cons first rest =>
    rw [← hloop]
    have hpos : 0 < loop.length := by
      rw [hloop]
      exact Nat.succ_pos _
    have hlt : n % loop.length < loop.length := Nat.mod_lt n hpos
    -- the name that the rotation starts at stands at one place of the loop only
    have hsame : loop[n % loop.length]? = loop[0]? := by
      rw [← List.head?_rotate hlt, List.rotate_mod, ← hhead, List.head?_eq_getElem?]
    have hzero : n % loop.length = 0 := (List.getElem?_inj hlt hnodup).1 hsame
    exact (hnodup.rotate_eq_self_iff.2 (.inl hzero)).symm

theorem head?_eq_of_leastFirst (h : loop ~r rotated) (hl : LeastFirst loop)
    (hr : LeastFirst rotated) : loop.head? = rotated.head? := by
  cases hloop : loop with
  | nil =>
    rw [hloop, List.isRotated_nil_iff'] at h
    rw [← h]
  | cons a as =>
    cases hrotated : rotated with
    | nil =>
      rw [hrotated, List.isRotated_nil_iff] at h
      rw [h] at hloop
      cases hloop
    | cons b bs =>
      -- each start is a name of the other loop, so neither is less
      have ha : a ∈ loop.head? := by rw [hloop]; rfl
      have hb : b ∈ rotated.head? := by rw [hrotated]; rfl
      have hab : a ≤ b := hl a ha b (h.mem_iff.2 (List.mem_of_mem_head? hb))
      have hba : b ≤ a := hr b hb a (h.mem_iff.1 (List.mem_of_mem_head? ha))
      rw [String.le_antisymm hab hba]
      rfl

/-- **A loop has one spelling that starts at its least name.** -/
theorem eq_of_isRotated (h : loop ~r rotated) (hnodup : loop.Nodup) (hl : LeastFirst loop)
    (hr : LeastFirst rotated) : loop = rotated :=
  eq_of_isRotated_of_head? h hnodup (head?_eq_of_leastFirst h hl hr)

/-- A chain that runs into a loop from outside is reduced to the loop. -/
theorem canonicalChain_append_closeLoop {lead : List String} (hne : loop ≠ [])
    (hdisjoint : lead.Disjoint loop) :
    canonicalChain (lead ++ closeLoop loop) = closeLoop (rotateToLeast loop) := by
  obtain ⟨first, rest, rfl⟩ := List.exists_cons_of_ne_nil hne
  have hchain : lead ++ closeLoop (first :: rest) = (lead ++ first :: rest) ++ [first] := by
    rw [closeLoop_cons, List.append_assoc]
  have hlead : ∀ k ∈ lead, decide (k ≠ first) = true := by
    intro k hk
    have hother : k ≠ first := fun he => hdisjoint (he ▸ hk) List.mem_cons_self
    exact decide_eq_true hother
  have hloop : (lead ++ first :: rest).dropWhile (· ≠ first) = first :: rest := by
    rw [List.dropWhile_append_of_pos hlead, List.dropWhile_cons_of_neg (by simp)]
  rw [canonicalChain, hchain, List.getLast?_concat, List.dropLast_concat]
  simp only [hloop, closeLoop]

/-! ### Links along a loop -/

theorem isChain_closeLoop_iff {R : String → String → Prop} :
    (closeLoop loop).IsChain R ↔ Cycle.Chain R (loop : Cycle String) := by
  cases loop with
  | nil => exact ⟨fun _ => Cycle.Chain.nil R, fun _ => .nil⟩
  | cons first rest => exact (Cycle.chain_coe_cons R first rest).symm

/-- A loop is linked from wherever it starts. -/
theorem isChain_closeLoop_rotated {R : String → String → Prop} (h : loop ~r rotated) :
    (closeLoop loop).IsChain R ↔ (closeLoop rotated).IsChain R := by
  rw [isChain_closeLoop_iff, isChain_closeLoop_iff, Cycle.coe_eq_coe.2 h]

end IdlLink
