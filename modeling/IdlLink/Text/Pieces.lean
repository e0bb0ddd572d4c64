/-
Cutting names at separators.

`splitOnce` cuts at the first separator, `splitLast` at the last, and `pieces` at every one; a
qualified name is taken apart with the first two and a dotted namespace with the third.
-/

namespace IdlLink.Text

/-- The characters before and after the first `sep`. -/
def splitOnceChars (sep : Char) : List Char → Option (List Char × List Char)
  | [] => none
  | c :: rest =>
    if c = sep then some ([], rest)
    else (splitOnceChars sep rest).map fun p => (c :: p.1, p.2)

/-- The text before and after the first `sep`, if there is one. -/
def splitOnce (sep : Char) (s : String) : Option (String × String) :=
  (splitOnceChars sep s.toList).map fun p => (String.ofList p.1, String.ofList p.2)

/-- The text before and after the last `sep`, if there is one. -/
def splitLast (sep : Char) (s : String) : Option (String × String) :=
  (splitOnceChars sep s.toList.reverse).map fun p =>
    (String.ofList p.2.reverse, String.ofList p.1.reverse)

/-- The texts between the occurrences of `sep`; a text without one is its own only piece. -/
def pieces (sep : Char) (s : String) : List String :=
  (s.toList.splitOn sep).map String.ofList

/-- What follows `lead` in a text that starts with it. -/
def afterLead (lead s : String) : Option String :=
  (lead.toList.isPrefixOf? s.toList).map String.ofList

/-- A text without the ending `tail`, once, if it ends so. -/
def dropTail (tail s : String) : String :=
  match tail.toList.reverse.isPrefixOf? s.toList.reverse with
  | some rest => String.ofList rest.reverse
  | none => s

/-! ### The cut is at the first separator -/

theorem splitOnceChars_append {sep : Char} {a b : List Char} (h : sep ∉ a) :
    splitOnceChars sep (a ++ sep :: b) = some (a, b) := by
  induction a with
  | nil => simp [splitOnceChars]
  | cons c rest ih =>
    simp only [List.mem_cons, not_or] at h
    have hc : ¬ c = sep := fun e => h.1 e.symm
    simp [splitOnceChars, hc, ih h.2]

theorem splitOnceChars_eq_none_iff {sep : Char} {cs : List Char} :
    splitOnceChars sep cs = none ↔ sep ∉ cs := by
  induction cs with
  | nil => simp [splitOnceChars]
  | cons c rest ih =>
    by_cases hc : c = sep
    · simp [splitOnceChars, hc]
    · have hc' : ¬ sep = c := fun e => hc e.symm
      simp [splitOnceChars, hc, hc', ih]

theorem splitOnce_eq_none_iff {sep : Char} {s : String} :
    splitOnce sep s = none ↔ sep ∉ s.toList := by
  rw [splitOnce, Option.map_eq_none_iff, splitOnceChars_eq_none_iff]

/-- A text is cut behind a part without separators. -/
theorem splitOnce_of_toList_eq {sep : Char} {s a b : String}
    (hs : s.toList = a.toList ++ sep :: b.toList) (ha : sep ∉ a.toList) :
    splitOnce sep s = some (a, b) := by
  rw [splitOnce, hs, splitOnceChars_append ha, Option.map_some, String.ofList_toList,
    String.ofList_toList]

/-- A text is cut in front of a part without separators. -/
theorem splitLast_of_toList_eq {sep : Char} {s a b : String}
    (hs : s.toList = a.toList ++ sep :: b.toList) (hb : sep ∉ b.toList) :
    splitLast sep s = some (a, b) := by
  have hreverse : s.toList.reverse = b.toList.reverse ++ sep :: a.toList.reverse := by
    rw [hs, List.reverse_append, List.reverse_cons, List.append_assoc, List.singleton_append]
  have hb' : sep ∉ b.toList.reverse := by rwa [List.mem_reverse]
  rw [splitLast, hreverse, splitOnceChars_append hb', Option.map_some, List.reverse_reverse,
    List.reverse_reverse, String.ofList_toList, String.ofList_toList]

/-! ### The pieces between separators -/

/-- A character that is no separator goes to the front of the first piece. -/
theorem splitOn_cons_of_ne {sep c : Char} (hc : c ≠ sep) (rest : List Char) :
    ∃ first others, rest.splitOn sep = first :: others ∧
      (c :: rest).splitOn sep = (c :: first) :: others := by
  obtain ⟨first, others, hsplit⟩ := List.exists_cons_of_ne_nil (List.splitOn_ne_nil sep rest)
  refine ⟨first, others, hsplit, ?_⟩
  rw [List.splitOn_cons_eq_if_modifyHead, if_neg (by simp [hc]), hsplit, List.modifyHead_cons]

/-- A piece has no other characters than the text, and no separator. -/
theorem mem_and_ne_of_mem_splitOn {sep d : Char} {cs piece : List Char}
    (h : piece ∈ cs.splitOn sep) (hd : d ∈ piece) : d ∈ cs ∧ d ≠ sep := by
  induction cs generalizing piece with
  | nil =>
    rw [List.splitOn_nil, List.mem_singleton] at h
    exact absurd (h ▸ hd) List.not_mem_nil
  | cons c rest ih =>
    by_cases hc : c = sep
    · rw [List.splitOn_cons_eq_if_modifyHead, if_pos (by simp [hc]), List.mem_cons] at h
      rcases h with rfl | h
      · exact absurd hd List.not_mem_nil
      · exact (ih h hd).imp_left (List.mem_cons_of_mem c)
    · obtain ⟨first, others, hrest, hsplit⟩ := splitOn_cons_of_ne hc rest
      rw [hrest] at ih
      rw [hsplit, List.mem_cons] at h
      rcases h with rfl | h
      · rcases List.mem_cons.1 hd with rfl | hd
        · exact ⟨List.mem_cons_self, hc⟩
        · exact (ih List.mem_cons_self hd).imp_left (List.mem_cons_of_mem c)
      · exact (ih (List.mem_cons_of_mem first h) hd).imp_left (List.mem_cons_of_mem c)

theorem not_mem_of_mem_splitOn {sep : Char} {cs piece : List Char} (h : piece ∈ cs.splitOn sep) :
    sep ∉ piece :=
  fun hsep => (mem_and_ne_of_mem_splitOn h hsep).2 rfl

/-! ### A text and its lead -/

theorem isPrefixOf?_eq_some_iff {lead cs rest : List Char} :
    lead.isPrefixOf? cs = some rest ↔ cs = lead ++ rest := by
  induction lead generalizing cs with
  | nil =>
    change some cs = some rest ↔ cs = rest
    exact Option.some_inj
  | cons c lead ih =>
    cases cs with
    | nil =>
      change none = some rest ↔ [] = c :: (lead ++ rest)
      simp
    | cons d cs =>
      change (if c == d then lead.isPrefixOf? cs else none) = some rest ↔
        d :: cs = c :: (lead ++ rest)
      by_cases hd : c = d
      · subst hd
        simp [ih]
      · have hd' : ¬ d = c := fun h => hd h.symm
        simp [hd, hd']

/-- What follows a lead is the text that completes it. -/
theorem afterLead_eq_some_iff {lead s rest : String} :
    afterLead lead s = some rest ↔ s = lead ++ rest := by
  unfold afterLead
  constructor
  · intro h
    obtain ⟨cs, hcs, rfl⟩ := Option.map_eq_some_iff.1 h
    rw [isPrefixOf?_eq_some_iff] at hcs
    rw [← String.toList_inj, String.toList_append, String.toList_ofList, hcs]
  · rintro rfl
    refine Option.map_eq_some_iff.2 ⟨rest.toList, ?_, String.ofList_toList⟩
    rw [isPrefixOf?_eq_some_iff, String.toList_append]

end IdlLink.Text
