/-
Counting what is left to do.

Following typedefs and following includes both end because something finite is used up: the names
that have not been entered, the modules that have not been visited. `countP_lt_countP` says that such
a count falls as soon as one element is used up and none comes back.
-/

namespace IdlLink

/-- A stronger condition counts less when some element tells the two apart. -/
theorem countP_lt_countP {α : Type} {p q : α → Bool} {x : α} {xs : List α} (hx : x ∈ xs)
    (himp : ∀ a, p a = true → q a = true) (hp : p x = false) (hq : q x = true) :
    xs.countP p < xs.countP q := by
  induction xs with
  | nil => cases hx
  | cons a rest ih =>
    have hle : rest.countP p ≤ rest.countP q := List.countP_mono_left fun b _ => himp b
    rcases List.mem_cons.1 hx with rfl | hr
    · -- the element itself is counted on the right only
      rw [List.countP_cons_of_neg (by simp [hp]), List.countP_cons_of_pos hq]
      omega
    · -- it comes later, and the head is never counted on the left alone
      have hlt := ih hr
      by_cases hpa : p a = true
      · rw [List.countP_cons_of_pos hpa, List.countP_cons_of_pos (himp a hpa)]
        omega
      · rw [List.countP_cons_of_neg hpa]
        by_cases hqa : q a = true
        · rw [List.countP_cons_of_pos hqa]; omega
        · rw [List.countP_cons_of_neg hqa]; exact hlt

end IdlLink
