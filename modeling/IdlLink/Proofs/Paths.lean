/-
Paths by their components.

A path keeps its spelling, and many spellings name one place.  Going to the directory of a file and
seeing a path from there work on the spelling; what they come to depends on the components alone:

* `components_directory` — the directory of a file has its components without the last one;
* `components_join` — a path seen from a directory has the directory's components in front;
* `SamePlace.locate`, `SamePlace.parse_eq` — so an include is found at one place from all spellings of
  a file, and there is one file to be read from them.

Design notes: a text is taken apart at its separators into pieces.  Everything rests on
`componentsOf_append`, that what comes after a separator only adds the components of its own pieces;
the front of a text is special, and it stays what it is.
-/
import IdlLink.Workspace.Includes

namespace IdlLink

namespace SourcePath

/-- The components that pieces name. -/
def named (pieces : List (List Char)) : List Component :=
  (pieces.filter fun piece => !isBlankPiece piece).map pieceComponent

/-- The components of a text. -/
def componentsOf (cs : List Char) : List Component :=
  headComponent (cutHead cs).1 ++ named ((cutHead cs).2.splitOn '/')

theorem components_eq (p : SourcePath) : p.components = componentsOf p.text.toList := rfl

/-! ### Pieces -/

@[simp]
theorem named_nil : named [] = [] := rfl

@[simp]
theorem named_append (ps qs : List (List Char)) : named (ps ++ qs) = named ps ++ named qs := by
  simp [named]

theorem named_eq_nil_iff {ps : List (List Char)} :
    named ps = [] ↔ ∀ p ∈ ps, isBlankPiece p = true := by
  simp [named]

theorem named_singleton {piece : List Char} (h : isBlankPiece piece = false) :
    named [piece] = [pieceComponent piece] := by
  simp [named, h]

theorem trimPieces_append (ps : List (List Char)) :
    ∃ blanks, ps = trimPieces ps ++ blanks ∧ ∀ p ∈ blanks, isBlankPiece p = true := by
  refine ⟨(ps.reverse.takeWhile isBlankPiece).reverse, ?_, fun p hp => ?_⟩
  · rw [trimPieces, ← List.reverse_append, List.takeWhile_append_dropWhile, List.reverse_reverse]
  · exact List.all_eq_true.1 (List.all_takeWhile) p (List.mem_reverse.1 hp)

theorem named_trimPieces (ps : List (List Char)) : named (trimPieces ps) = named ps := by
  obtain ⟨blanks, hps, hblanks⟩ := trimPieces_append ps
  calc named (trimPieces ps) = named (trimPieces ps) ++ named blanks := by
        rw [named_eq_nil_iff.2 hblanks, List.append_nil]
    _ = named (trimPieces ps ++ blanks) := (named_append _ _).symm
    _ = named ps := by rw [← hps]

/-- Trimmed pieces end with one that names something. -/
theorem not_blank_of_trimPieces {ps kept : List (List Char)} {last : List Char}
    (h : trimPieces ps = kept ++ [last]) : isBlankPiece last = false := by
  have hreversed : ps.reverse.dropWhile isBlankPiece = last :: kept.reverse := by
    rw [← List.reverse_reverse (List.dropWhile _ _), ← trimPieces, h, List.reverse_append]
    rfl
  have hhead := List.head?_dropWhile_not isBlankPiece ps.reverse
  rw [hreversed] at hhead
  simpa using hhead

/-! ### The front of a text -/

theorem append_cutHead (cs : List Char) : (cutHead cs).1 ++ (cutHead cs).2 = cs := by
  fun_cases cutHead cs <;> rfl

theorem cutHead_fst_cases (cs : List Char) :
    (cutHead cs).1 = ['/'] ∨ (cutHead cs).1 = ['.'] ∨ (cutHead cs).1 = [] := by
  fun_cases cutHead cs <;> simp

/-- What is in front of a separator decides how the text starts. -/
theorem cutHead_append {d : List Char} (hd : d ≠ []) (q : List Char) :
    cutHead (d ++ '/' :: q) = ((cutHead d).1, (cutHead d).2 ++ '/' :: q) := by
  fun_cases cutHead d with
  | case1 rest => rfl
  | case2 => rfl
  | case3 rest => rfl
  | case4 cs hroot hpoint hhere =>
    obtain ⟨c, d, rfl⟩ := List.exists_cons_of_ne_nil hd
    rw [cutHead]
    · intro rest he
      exact hroot d (by rw [(List.cons.inj he).1])
    · intro he
      cases d <;> cases he
    · intro rest he
      obtain rfl : c = '.' := (List.cons.inj he).1
      cases d with
      | nil => exact hpoint rfl
      | cons c' d => exact hhere d (by rw [(List.cons.inj (List.cons.inj he).2).1])

/-! ### Components -/

/-- What comes after a separator adds the components of its pieces. -/
theorem componentsOf_append {d : List Char} (hd : d ≠ []) (q : List Char) :
    componentsOf (d ++ '/' :: q) = componentsOf d ++ named (q.splitOn '/') := by
  rw [componentsOf, cutHead_append hd, List.splitOn_append_cons_self, named_append,
    ← List.append_assoc]
  rfl

/-- A separator at the end changes nothing, also where it is all there is. -/
theorem componentsOf_slash_append (d q : List Char) :
    componentsOf (d ++ '/' :: q) = componentsOf (d ++ ['/']) ++ named (q.splitOn '/') := by
  cases d with
  | nil => rfl
  | cons c d =>
    have hblank : named (([] : List Char).splitOn '/') = [] := by
      rw [List.splitOn_nil]
      rfl
    rw [componentsOf_append (List.cons_ne_nil c d), componentsOf_append (List.cons_ne_nil c d),
      hblank, List.append_nil]

/-- Only the empty text has no components. -/
theorem componentsOf_eq_nil_iff {cs : List Char} : componentsOf cs = [] ↔ cs = [] := by
  constructor
  · intro h
    obtain ⟨hhead, hnamed⟩ := List.append_eq_nil_iff.1 h
    have hcut : (cutHead cs).1 = [] := by
      rcases cutHead_fst_cases cs with he | he | he
      · rw [he] at hhead
        cases hhead
      · rw [he] at hhead
        cases hhead
      · exact he
    have hall : (cutHead cs).2 = cs := by
      have happend := append_cutHead cs
      rwa [hcut, List.nil_append] at happend
    rw [hall, named_eq_nil_iff] at hnamed
    cases cs with
    | nil => rfl
    | cons c rest =>
      have hc : c ≠ '/' := by
        rintro rfl
        cases hcut
      obtain ⟨first, others, hrest, hsplit⟩ := Text.splitOn_cons_of_ne hc rest
      -- the first piece is blank and not empty, so it is a point, and that is cut off
      have hpoint : c = '.' ∧ first = [] := by
        simpa [isBlankPiece] using hnamed (c :: first) (hsplit ▸ List.mem_cons_self)
      obtain ⟨rfl, rfl⟩ := hpoint
      cases rest with
      | nil => cases hcut
      | cons c' rest =>
        by_cases hc' : c' = '/'
        · rw [hc'] at hcut
          cases hcut
        · obtain ⟨_, _, _, hsplit'⟩ := Text.splitOn_cons_of_ne hc' rest
          rw [hrest] at hsplit'
          cases hsplit'
  · rintro rfl
    rfl

/-- The text up to a separator has the components of the pieces up to it. -/
theorem componentsOf_kept {cs : List Char} {kept more : List (List Char)}
    (hpieces : (cutHead cs).2.splitOn '/' = kept ++ more) (hmore : more ≠ [])
    (hkept : ∀ init last, kept = init ++ [last] → isBlankPiece last = false) :
    componentsOf ((cutHead cs).1 ++ List.intercalate ['/'] kept) =
      headComponent (cutHead cs).1 ++ named kept := by
  have hplain : ∀ piece ∈ kept ++ more, '/' ∉ piece := fun piece h =>
    Text.not_mem_of_mem_splitOn (hpieces ▸ h)
  cases hk : kept with
  | nil =>
    rw [List.intercalate_nil, List.append_nil, named_nil, List.append_nil]
    rcases cutHead_fst_cases cs with he | he | he
    · rw [he]
      rfl
    · rw [he]
      rfl
    · rw [he]
      rfl
  | cons first others =>
    have hne : kept ≠ [] := hk ▸ List.cons_ne_nil first others
    rw [← hk]
    generalize hbody : List.intercalate ['/'] kept = body
    generalize htail : List.intercalate ['/'] more = tail
    have hsplit : body.splitOn '/' = kept := by
      rw [← hbody]
      exact List.splitOn_intercalate '/' (fun piece h => hplain piece (List.mem_append_left _ h)) hne
    have hsplit' : tail.splitOn '/' = more := by
      rw [← htail]
      exact List.splitOn_intercalate '/' (fun piece h => hplain piece (List.mem_append_right _ h))
        hmore
    have hrest : (cutHead cs).2 = body ++ '/' :: tail := by
      calc (cutHead cs).2 = List.intercalate ['/'] ((cutHead cs).2.splitOn '/') :=
            (List.intercalate_splitOn '/').symm
        _ = List.intercalate ['/'] ((body ++ '/' :: tail).splitOn '/') := by
            rw [hpieces, List.splitOn_append_cons_self, hsplit, hsplit']
        _ = body ++ '/' :: tail := List.intercalate_splitOn '/'
    have hfront : (cutHead cs).1 ++ body ≠ [] := by
      intro hnil
      rw [(List.append_eq_nil_iff.1 hnil).2, List.splitOn_nil] at hsplit
      cases hkept [] [] hsplit.symm
    have hall : cs = ((cutHead cs).1 ++ body) ++ '/' :: tail := by
      rw [List.append_assoc, ← hrest, append_cutHead]
    have hcomponents : componentsOf ((cutHead cs).1 ++ body) ++ named more =
        headComponent (cutHead cs).1 ++ named kept ++ named more := by
      calc componentsOf ((cutHead cs).1 ++ body) ++ named more
          = componentsOf (((cutHead cs).1 ++ body) ++ '/' :: tail) := by
            rw [componentsOf_append hfront, hsplit']
        _ = componentsOf cs := by rw [← hall]
        _ = headComponent (cutHead cs).1 ++ named kept ++ named more := by
            rw [componentsOf, hpieces, named_append, List.append_assoc]
    exact List.append_cancel_right hcomponents

/-! ### Directories -/

/-- **The directory of a path** has the components of the path without the last one. -/
theorem components_directory (p : SourcePath) : p.directory.components = p.components.dropLast := by
  generalize hcut : cutHead p.text.toList = cut
  have hcomponents : p.components =
      headComponent cut.1 ++ named (trimPieces (cut.2.splitOn '/')) := by
    rw [named_trimPieces, ← hcut]
    rfl
  rcases List.eq_nil_or_concat (trimPieces (cut.2.splitOn '/')) with htrim | ⟨init, last, htrim⟩
  · -- all that there may be is the front, and then there is no directory but the empty one
    have hdirectory : p.directory = ⟨""⟩ := by
      simp only [directory, parent?, hcut, htrim]
      split <;> rfl
    have hfront : (headComponent cut.1).dropLast = [] := by
      rcases cutHead_fst_cases p.text.toList with he | he | he <;> rw [hcut] at he <;> rw [he] <;> rfl
    rw [hdirectory, hcomponents, htrim, named_nil, List.append_nil, hfront]
    rfl
  · have hdirectory : p.directory =
        ⟨String.ofList (cut.1 ++ List.intercalate ['/'] (trimPieces init))⟩ := by
      obtain ⟨piece, rest, hcons⟩ := List.exists_cons_of_ne_nil (List.concat_ne_nil last init)
      have hinit : (piece :: rest).dropLast = init := by
        rw [← hcons, List.dropLast_concat]
      rw [List.concat_eq_append, hcons] at htrim
      simp only [directory, parent?, hcut, htrim, hinit, Option.getD_some]
    rw [List.concat_eq_append] at htrim
    obtain ⟨blanks, hpieces, _⟩ := trimPieces_append (cut.2.splitOn '/')
    obtain ⟨blanks', hinit, _⟩ := trimPieces_append init
    have hsplit : (cutHead p.text.toList).2.splitOn '/' =
        trimPieces init ++ (blanks' ++ [last] ++ blanks) := by
      calc (cutHead p.text.toList).2.splitOn '/' = init ++ [last] ++ blanks := by
            rw [hcut, hpieces, htrim]
        _ = trimPieces init ++ blanks' ++ [last] ++ blanks := by rw [← hinit]
        _ = trimPieces init ++ (blanks' ++ [last] ++ blanks) := by simp only [List.append_assoc]
    calc p.directory.components
        = componentsOf (cut.1 ++ List.intercalate ['/'] (trimPieces init)) := by
          rw [hdirectory, components_eq, String.toList_ofList]
      _ = headComponent cut.1 ++ named init := by
          rw [← hcut, componentsOf_kept hsplit (by simp) fun _ _ => not_blank_of_trimPieces,
            named_trimPieces]
      _ = p.components.dropLast := by
          rw [hcomponents, htrim, named_append, named_singleton (not_blank_of_trimPieces htrim),
            ← List.append_assoc, List.dropLast_concat]

/-- **A path seen from a directory** has the components of the directory in front of its own, unless
it is absolute or the directory is the empty one. -/
theorem components_join (dir p : SourcePath) : (dir.join p).components =
    if p.isAbsolute = true ∨ dir.components = [] then p.components
    else dir.components ++ named (p.text.toList.splitOn '/') := by
  unfold join
  by_cases habsolute : p.isAbsolute = true
  · rw [if_pos habsolute, if_pos (.inl habsolute)]
  · rw [if_neg habsolute]
    by_cases hempty : dir.text = ""
    · have hnone : dir.components = [] := by
        rw [components_eq, hempty]
        rfl
      have hall : (dir.text.isEmpty || dir.text.toList.getLast? == some '/') = true := by
        rw [hempty]
        rfl
      rw [if_pos hall, if_pos (.inr hnone), hempty, String.empty_append]
    · have hsome : dir.text.toList ≠ [] := by
        simpa using hempty
      have hcomponents : dir.components ≠ [] := by
        rwa [components_eq, Ne, componentsOf_eq_nil_iff]
      have hnot : ¬ (p.isAbsolute = true ∨ dir.components = []) := by
        rintro (h | h)
        · exact habsolute h
        · exact hcomponents h
      rw [if_neg hnot]
      by_cases hslash : dir.text.toList.getLast? = some '/'
      · -- the separator is there already
        obtain ⟨d, hd⟩ := List.getLast?_eq_some_iff.1 hslash
        rw [if_pos (by simp [hslash]), components_eq, components_eq, String.toList_append, hd,
          List.append_assoc]
        exact componentsOf_slash_append d _
      · have hplain : ¬ (dir.text.isEmpty || dir.text.toList.getLast? == some '/') = true := by
          simp [hempty, hslash]
        rw [if_neg hplain, components_eq, components_eq, String.toList_append, String.toList_append,
          List.append_assoc]
        exact componentsOf_append hsome _

/-! ### Spellings of one path -/

/-- Two spellings of one path. -/
def SamePlace (p q : SourcePath) : Prop := p.components = q.components

namespace SamePlace

variable {p q : SourcePath}

theorem join (h : p.SamePlace q) (written : SourcePath) :
    (p.join written).SamePlace (q.join written) := by
  rw [SamePlace, components_join, components_join, show p.components = q.components from h]

theorem directory (h : p.SamePlace q) : p.directory.SamePlace q.directory := by
  rw [SamePlace, components_directory, components_directory,
    show p.components = q.components from h]

theorem moduleName_eq (h : p.SamePlace q) : p.moduleName = q.moduleName := congrArg moduleOf h

variable {files : MemorySources}

/-- An include is found at one place from all spellings of the including file. -/
theorem locate (h : p.SamePlace q) (settings : Settings) (written : SourcePath) :
    (settings.locate files.toSources p.directory written).SamePlace
      (settings.locate files.toSources q.directory written) := by
  have hfirst := h.directory.join written
  have hcontains : files.toSources.contains (p.directory.join written) =
      files.toSources.contains (q.directory.join written) := congrArg files.files.contains hfirst
  simp only [Settings.locate, Settings.candidates, List.map_cons, List.find?_cons, hcontains]
  -- the directories that come after that of the file do not depend on the file
  cases files.toSources.contains (q.directory.join written) with
  | true => exact hfirst
  | false => exact rfl

/-- A file is the same from all its spellings; only an error names the one that was used. -/
theorem parse_eq (h : p.SamePlace q) :
    files.parse q = (files.parse p).mapError fun e => ⟨q, e.reason⟩ := by
  rw [MemorySources.parse, MemorySources.parse, show p.components = q.components from h]
  cases files.files.get? q.components with
  | none => rfl
  | some body =>
    cases body with
    | schema s => rfl
    | text t =>
      simp only [parsed]
      cases Schema.ofText t with
      | error f => rfl
      | ok s => rfl

end SamePlace

end SourcePath

theorem MemorySources.path_of_parse_error {files : MemorySources} {p : SourcePath} {e : ParseError}
    (h : files.parse p = .error e) : e.path = p := by
  have hself : files.parse p = (files.parse p).mapError fun e => ⟨p, e.reason⟩ :=
    SourcePath.SamePlace.parse_eq rfl
  rw [h] at hself
  exact congrArg ParseError.path (Except.error.inj hself)

end IdlLink
