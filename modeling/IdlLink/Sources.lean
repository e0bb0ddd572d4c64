/-
Where files come from.

`Sources` is all that a workspace asks of the outside: whether there is a file at a path, and what
schema it holds. Only finitely many modules have a file that can be read, and `modules` lists them;
that is what bounds the following of includes. `MemorySources` holds its files itself.
-/
import IdlLink.ResolveError
import IdlLink.Schema.Reader

namespace IdlLink

/-- Files to read schemas from. -/
structure Sources where
  /-- Whether there is a file at a path. -/
  contains : SourcePath → Bool
  /-- The schema of the file at a path. -/
  parse : SourcePath → Except ParseError Schema
  /-- The modules whose files can be read, and maybe others. -/
  modules : List String
  /-- No other module has a file that can be read. -/
  moduleName_mem : ∀ {p s}, parse p = .ok s → p.moduleName ∈ modules

/-- The schema of a file's text; a failure names the file. -/
def parsed (p : SourcePath) (r : Except Json.Failure Schema) : Except ParseError Schema :=
  r.mapError fun f => ⟨p, f.message⟩

/-- What is kept of a file in memory. -/
inductive Body where
  | schema (s : Schema)
  | text (s : String)

/-- Files in memory, under their components. -/
structure MemorySources where
  files : OrderedMap (List Component) Body

namespace MemorySources

/-- No files. -/
def empty : MemorySources := ⟨∅⟩

/-- Put a file at a path, in place of one that is there. -/
def insert (m : MemorySources) (p : SourcePath) (b : Body) : MemorySources :=
  ⟨m.files.insert p.components b⟩

/-- The schema of the file at a path. A text is read each time it is asked for. -/
def parse (m : MemorySources) (p : SourcePath) : Except ParseError Schema :=
  match m.files.get? p.components with
  | some (.schema s) => .ok s
  | some (.text t) => parsed p (Schema.ofText t)
  | none => .error ⟨p, "no such file"⟩

theorem mem_keys_of_parse {m : MemorySources} {p : SourcePath} {s : Schema}
    (h : m.parse p = .ok s) : p.components ∈ m.files.keys := by
  refine OrderedMap.mem_keys_iff.2 ?_
  unfold parse at h
  cases hg : m.files.get? p.components with
  | none => rw [hg] at h; cases h
  | some b => exact ⟨b, rfl⟩

/-- A schema that is put at a path is what all spellings of the path read. -/
theorem parse_insert_schema (m : MemorySources) (p : SourcePath) (s : Schema) (q : SourcePath) :
    (m.insert p (.schema s)).parse q =
      if q.components = p.components then .ok s else m.parse q := by
  simp only [parse, insert, OrderedMap.get?_insert]
  by_cases h : q.components = p.components
  · rw [if_pos h, if_pos h]
  · rw [if_neg h, if_neg h]

/-- The files in memory as sources. -/
def toSources (m : MemorySources) : Sources where
  contains p := m.files.contains p.components
  parse := m.parse
  modules := m.files.keys.map SourcePath.moduleOf
  moduleName_mem h := List.mem_map.2 ⟨_, mem_keys_of_parse h, rfl⟩

theorem contains_insert {m : MemorySources} {p q : SourcePath} {b : Body} :
    (m.insert p b).toSources.contains q = true ↔
      q.components = p.components ∨ m.toSources.contains q = true := by
  simp only [toSources, insert, OrderedMap.contains_iff, OrderedMap.mem_keys_insert]

end MemorySources

end IdlLink
