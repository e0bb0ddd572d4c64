/-
A directory with all that is below it, as a value.

Names lead from the top downwards; the entries of a directory stand in the order of their names. What
is below a directory is listed in pre-order, each directory before its contents.
-/
import IdlLink.Text.Pieces

namespace IdlLink

/-- A file, or a directory with its named entries. -/
inductive FileTree where
  | file (bytes : List UInt8)
  | directory (entries : List (String × FileTree))

namespace FileTree

/-- A directory without entries. -/
def empty : FileTree := .directory []

instance : Inhabited FileTree := ⟨empty⟩

/-- The entries of a directory; a file has none. -/
def entries : FileTree → List (String × FileTree)
  | .file _ => []
  | .directory es => es

/-- Whether this is a directory. -/
def isDirectory : FileTree → Bool
  | .file _ => false
  | .directory _ => true

/-- The entry of a name. -/
def child? (t : FileTree) (name : String) : Option FileTree :=
  (t.entries.find? fun e => e.1 = name).map Prod.snd

/-- What some names lead to, one after the other. -/
def find? (t : FileTree) : List String → Option FileTree
  | [] => some t
  | n :: ns => (t.child? n).bind fun u => u.find? ns

/-- Put an entry at its place in the order, or in the place of the one that has its name. -/
def putEntry (name : String) (node : FileTree) :
    List (String × FileTree) → List (String × FileTree)
  | [] => [(name, node)]
  | (n, t) :: rest =>
    if n = name then (n, node) :: rest
    else if name < n then (name, node) :: (n, t) :: rest
    else (n, t) :: putEntry name node rest

/-- Put a node where some names lead, with the directories on the way. -/
def insert (node : FileTree) : List String → FileTree → FileTree
  | [], _ => node
  | n :: ns, t => .directory (putEntry n (insert node ns ((t.child? n).getD empty)) t.entries)

mutual

/-- Everything below a node in pre-order, under the names that lead there. -/
def descendants : FileTree → List (List String × FileTree)
  | .file _ => []
  | .directory es => entryDescendants es

/-- The entries of a directory, each with everything below it. -/
def entryDescendants : List (String × FileTree) → List (List String × FileTree)
  | [] => []
  | (n, t) :: rest =>
    ([n], t) :: (t.descendants.map fun d => (n :: d.1, d.2)) ++ entryDescendants rest

end

/-- The files below a node with the names that lead there. -/
def files (t : FileTree) : List (List String × List UInt8) :=
  t.descendants.filterMap fun d =>
    match d.2 with
    | .file bytes => some (d.1, bytes)
    | .directory _ => none

/-! ### What names lead to is listed -/

theorem mem_entryDescendants {es : List (String × FileTree)} {n : String} {t : FileTree}
    (h : (es.find? fun e => e.1 = n).map Prod.snd = some t) :
    ([n], t) ∈ entryDescendants es ∧
      ∀ d ∈ t.descendants, (n :: d.1, d.2) ∈ entryDescendants es := by
  induction es with
  | nil => simp at h
  | cons e rest ih =>
    obtain ⟨m, u⟩ := e
    by_cases hm : m = n
    · subst hm
      simp only [List.find?_cons, decide_true, Option.map_some, Option.some.injEq] at h
      subst h
      refine ⟨by simp [entryDescendants], fun d hd => ?_⟩
      simp only [entryDescendants, List.cons_append, List.mem_cons, List.mem_append,
        List.mem_map]
      exact .inr (.inl ⟨d, hd, rfl⟩)
    · simp only [List.find?_cons, hm, decide_false] at h
      obtain ⟨h1, h2⟩ := ih h
      simp only [entryDescendants, List.cons_append, List.mem_cons, List.mem_append]
      exact ⟨.inr (.inr h1), fun d hd => .inr (.inr (h2 d hd))⟩

theorem mem_descendants_of_child? {t u : FileTree} {n : String} (h : t.child? n = some u) :
    ([n], u) ∈ t.descendants ∧ ∀ d ∈ u.descendants, (n :: d.1, d.2) ∈ t.descendants := by
  cases t with
  | file bytes => simp [child?, entries] at h
  | directory es =>
    simp only [descendants]
    exact mem_entryDescendants h

theorem mem_descendants_of_find? {t u : FileTree} {ns : List String} (hne : ns ≠ [])
    (h : t.find? ns = some u) : (ns, u) ∈ t.descendants := by
  induction ns generalizing t with
  | nil => exact absurd rfl hne
  | cons n ns ih =>
    obtain ⟨v, hv, hu⟩ := Option.bind_eq_some_iff.1 h
    obtain ⟨h1, h2⟩ := mem_descendants_of_child? hv
    cases ns with
    | nil =>
      simp only [find?, Option.some.injEq] at hu
      exact hu ▸ h1
    | cons m ms => exact h2 _ (ih (by simp) hu)

theorem find?_append (t : FileTree) (ns ms : List String) :
    t.find? (ns ++ ms) = (t.find? ns).bind fun u => u.find? ms := by
  induction ns generalizing t with
  | nil => rfl
  | cons n ns ih =>
    simp only [List.cons_append, find?]
    cases t.child? n with
    | none => rfl
    | some u => exact ih u

theorem isDirectory_of_child? {t u : FileTree} {n : String} (h : t.child? n = some u) :
    t.isDirectory = true := by
  cases t with
  | file bytes => simp [child?, entries] at h
  | directory es => rfl

/-- What leads to a node leads through directories. -/
theorem isDirectory_of_find?_append {t u : FileTree} {ns : List String} {n : String}
    (h : t.find? (ns ++ [n]) = some u) :
    ∃ v, t.find? ns = some v ∧ v.isDirectory = true := by
  rw [find?_append] at h
  obtain ⟨v, hv, hu⟩ := Option.bind_eq_some_iff.1 h
  obtain ⟨w, hw, _⟩ := Option.bind_eq_some_iff.1 hu
  exact ⟨v, hv, isDirectory_of_child? hw⟩

end FileTree

end IdlLink
