/-
A tree of files as the place where schemas come from.

Every name below the top may be that of a module, and no other module has a file: a path that leads
to a file ends in that file's name (`getLast?_components_of_read`).
-/
import IdlLink.Files.Lookup
import IdlLink.Sources

namespace IdlLink

namespace SourcePath

/-- What a path names last is what stands after its last separator, unless that is blank. -/
theorem getLast?_components {p : SourcePath} {piece : List Char}
    (hl : (p.text.toList.splitOn '/').getLast? = some piece) (hb : isBlankPiece piece = false) :
    p.components.getLast? = some (pieceComponent piece) := by
  -- blank pieces are dropped, and the last one is not blank
  have hfilter : ∀ (head : List Component) (ps : List (List Char)), ps.getLast? = some piece →
      (head ++ (ps.filter fun q => !isBlankPiece q).map pieceComponent).getLast?
        = some (pieceComponent piece) := by
    intro head ps hps
    obtain ⟨init, rfl⟩ := List.getLast?_eq_some_iff.1 hps
    simp [List.filter_append, hb]
  have hsep : ∀ cs : List Char, ('/' :: cs).splitOn '/' = [] :: cs.splitOn '/' := by
    intro cs
    simp [List.splitOn, List.splitOnP_cons_eq_if_modifyHead]
  unfold components
  refine hfilter _ _ ?_
  revert hl
  generalize p.text.toList = cs
  intro hl
  -- a separator or a leading `.` at the head is a piece in front of the last one
  unfold cutHead
  split
  · rename_i rest
    rw [hsep] at hl
    rwa [List.getLast?_cons_of_ne_nil (List.splitOn_ne_nil _ _)] at hl
  · simp [List.splitOn, List.splitOnP_cons_eq_if_modifyHead] at hl
    subst hl
    simp [isBlankPiece] at hb
  · rename_i rest
    have hdot : ('.' :: '/' :: rest).splitOn '/' = ['.'] :: rest.splitOn '/' := by
      simp [List.splitOn, List.splitOnP_cons_eq_if_modifyHead]
    rw [hdot, List.getLast?_cons_of_ne_nil (List.splitOn_ne_nil _ _)] at hl
    rwa [hsep, List.getLast?_cons_of_ne_nil (List.splitOn_ne_nil _ _)]
  · exact hl

end SourcePath

namespace FileTree

/-- A piece that leads to a file is that file's name. -/
theorem eq_name_of_follow {t : FileTree} {place : Place} {piece : List Char} {names : List String}
    (h : t.follow place piece = .ok (.below names)) (hf : t.hasDirectory (.below names) = false) :
    SourcePath.isBlankPiece piece = false ∧
      ∃ n, SourcePath.pieceComponent piece = .name n ∧ names.getLast? = some n := by
  unfold follow at h
  split at h
  case isFalse => cases h
  case isTrue hd =>
    split at h
    case isTrue =>
      -- a blank piece stays in a directory, which is no file
      cases h
      rw [hd] at hf
      cases hf
    case isFalse hb =>
      refine ⟨by simpa using hb, ?_⟩
      split at h
      case h_1 n hn =>
        refine ⟨n, hn, ?_⟩
        unfold enterName at h
        split at h
        · cases h
        · cases place with
          | outside => cases h
          | below ms =>
            simp only at h
            split at h
            · cases h
              simp
            · cases h
      case h_2 =>
        -- one step up from a directory leads to a directory
        simp only [Except.ok.injEq] at h
        unfold above at h
        split at h
        · cases h
        · cases h
        · rename_i ms hne
          cases h
          have hms : ms ≠ [] := fun e => hne (by rw [e])
          rw [← List.dropLast_concat_getLast hms] at hd
          cases hu : t.find? (ms.dropLast ++ [ms.getLast hms]) with
          | none => simp [hasDirectory, hu] at hd
          | some u =>
            obtain ⟨v, hv, hvd⟩ := isDirectory_of_find?_append hu
            simp [hasDirectory, hv, hvd] at hf

theorem eq_name_of_followAll {t : FileTree} {place : Place} {pieces : List (List Char)}
    {names : List String} (hne : pieces ≠ [])
    (h : t.followAll place pieces = .ok (.below names))
    (hf : t.hasDirectory (.below names) = false) :
    ∃ piece, pieces.getLast? = some piece ∧ SourcePath.isBlankPiece piece = false ∧
      ∃ n, SourcePath.pieceComponent piece = .name n ∧ names.getLast? = some n := by
  induction pieces generalizing place with
  | nil => exact absurd rfl hne
  | cons piece rest ih =>
    simp only [followAll] at h
    split at h
    case h_2 => cases h
    case h_1 next hnext =>
      cases rest with
      | nil =>
        simp only [followAll, Except.ok.injEq] at h
        subst h
        exact ⟨piece, rfl, eq_name_of_follow hnext hf⟩
      | cons q rest =>
        obtain ⟨l, hl, hr⟩ := ih (by simp) h
        exact ⟨l, by rw [List.getLast?_cons_of_ne_nil (by simp)]; exact hl, hr⟩

theorem exists_file_of_read {t : FileTree} {p : SourcePath} {bytes : List UInt8}
    (h : t.read p = .ok bytes) :
    ∃ names, t.locate p = .ok (.below names) ∧ t.find? names = some (.file bytes) := by
  unfold read at h
  split at h
  case h_2 => cases h
  case h_1 place hp =>
    unfold bytesAt at h
    split at h
    · cases h
    · rename_i names
      split at h
      · rename_i hb
        cases h
        exact ⟨names, hp, hb⟩
      · cases h
      · cases h

/-- A path that leads to a file names that file last. -/
theorem getLast?_components_of_read {t : FileTree} {p : SourcePath} {bytes : List UInt8}
    (h : t.read p = .ok bytes) :
    ∃ names n, t.find? names = some (.file bytes) ∧ names.getLast? = some n ∧
      p.components.getLast? = some (.name n) := by
  obtain ⟨names, hl, hfile⟩ := exists_file_of_read h
  unfold locate at hl
  split at hl
  · cases hl
  · obtain ⟨piece, hp, hb, n, hn, hlast⟩ :=
      eq_name_of_followAll (List.splitOn_ne_nil _ _) hl
        (by simp [hasDirectory, hfile, isDirectory])
    exact ⟨names, n, hfile, hlast, hn ▸ SourcePath.getLast?_components hp hb⟩

/-- The names below the top of a tree, as names of modules. -/
def moduleNames (t : FileTree) : List String :=
  (t.descendants.filterMap fun d => d.1.getLast?).map (Text.dropTail SourcePath.suffix)

/-- The schema in the file that a path leads to. -/
def parse (t : FileTree) (p : SourcePath) : Except ParseError Schema :=
  match t.read p with
  | .error f => .error ⟨p, f.message⟩
  | .ok bytes => parsed p (Schema.ofBytes bytes)

theorem moduleName_mem {t : FileTree} {p : SourcePath} {s : Schema} (h : t.parse p = .ok s) :
    p.moduleName ∈ t.moduleNames := by
  unfold parse at h
  split at h
  · cases h
  · rename_i bytes hr
    obtain ⟨names, n, hfile, hlast, hc⟩ := getLast?_components_of_read hr
    have hne : names ≠ [] := by rintro rfl; cases hlast
    refine List.mem_map.2 ⟨n, List.mem_filterMap.2 ⟨_, mem_descendants_of_find? hne hfile, hlast⟩, ?_⟩
    simp [SourcePath.moduleName, SourcePath.moduleOf, SourcePath.fileName?, hc]

/-- The files of a tree as sources. -/
def toSources (t : FileTree) : Sources where
  contains := t.isFileAt
  parse := t.parse
  modules := t.moduleNames
  moduleName_mem := moduleName_mem

end FileTree

end IdlLink
