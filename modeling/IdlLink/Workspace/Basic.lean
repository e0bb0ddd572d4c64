/-
Files merged into one symbol table.

A workspace keeps every file under the name of its module, with the path that it was read from, and
the symbols of all files in one table, which only ever grows. Names without a qualifier are reachable
for one current module at a time, through `aliases`; these and `namespaces` are worked out again by
`refresh` after every change. `view` lists what can be named, and `scope` is how names are looked up
from inside a module.
-/
import IdlLink.Scope
import IdlLink.Settings
import IdlLink.SourcePath

namespace IdlLink

/-- Files merged into one symbol table. -/
structure Workspace where
  settings : Settings
  /-- The module of the first file. -/
  initial : Option String
  schemas : OrderedMap String Schema
  /-- The path that each module was read from. -/
  paths : OrderedMap String SourcePath
  /-- The modules whose included file could not be read, in the order in which that was found. -/
  failed : List String
  /-- Every symbol of every module, under its qualified name. -/
  symbols : SymbolTable
  /-- The module whose names are reachable without a qualifier. -/
  current : Option String
  /-- The unqualified names of the current module with their qualified names. -/
  aliases : OrderedMap String String
  /-- The namespace of each module for the target of the settings. -/
  namespaces : OrderedMap String (Option String)

/-- The unqualified names of a module with their qualified names, in the order of the table. -/
def aliasesOf (table : SymbolTable) (module : String) : OrderedMap String String :=
  .ofList (table.keys.filterMap fun key =>
    (Text.afterLead (module ++ ".") key).map fun name => (name, key))

/-- The namespace of each module: the one it declares for the target, else the fallback. -/
def namespacesOf (schemas : OrderedMap String Schema) (target : String)
    (fallback : Option String) : OrderedMap String (Option String) :=
  schemas.map fun s => (s.namespaceFor target).or fallback

/-- The unqualified names are the completions of the module's name to a key of the table. -/
theorem get?_aliasesOf {table : SymbolTable} {module x k : String} :
    (aliasesOf table module).get? x = some k ↔ k = qualify module x ∧ k ∈ table.keys := by
  have hmem : ∀ {x k}, (x, k) ∈ (table.keys.filterMap fun key =>
        (Text.afterLead (module ++ ".") key).map fun name => (name, key)) ↔
      k = qualify module x ∧ k ∈ table.keys := by
    intro x k
    simp only [List.mem_filterMap, Option.map_eq_some_iff, Text.afterLead_eq_some_iff,
      Prod.mk.injEq, qualify]
    constructor
    · rintro ⟨key, hkey, name, hname, rfl, rfl⟩
      exact ⟨hname, hkey⟩
    · rintro ⟨hname, hkey⟩
      exact ⟨k, hkey, x, hname, rfl, rfl⟩
  rw [aliasesOf, OrderedMap.get?_ofList_eq_some_iff, hmem]
  intro x k k' h h'
  rw [(hmem.1 h).1, (hmem.1 h').1]

@[simp]
theorem keys_namespacesOf (schemas : OrderedMap String Schema) (target : String)
    (fallback : Option String) : (namespacesOf schemas target fallback).keys = schemas.keys :=
  OrderedMap.keys_map _ _

theorem get?_namespacesOf {schemas : OrderedMap String Schema} {m : String} {s : Schema}
    (h : schemas.get? m = some s) (target : String) (fallback : Option String) :
    (namespacesOf schemas target fallback).get? m =
      some ((s.namespaceFor target).or fallback) := by
  rw [namespacesOf, OrderedMap.get?_map, h]
  rfl

namespace Workspace

/-- A workspace without files. -/
def new (settings : Settings) : Workspace :=
  ⟨settings, none, ∅, ∅, [], ∅, none, ∅, ∅⟩

/-- Whether a module's file has been read, or has failed to be. -/
def isVisited (w : Workspace) (module : String) : Bool :=
  w.schemas.contains module || w.failed.contains module

/-- Enter a file's symbols and the file itself, over what its module had before. -/
def register (w : Workspace) (path : SourcePath) (schema : Schema) : Workspace :=
  let module := path.moduleName
  { w with
    initial := w.initial.or (some module)
    schemas := w.schemas.insert module schema
    paths := w.paths.insert module path
    symbols := w.symbols.extend (symbolsOf schema module).entries }

/-- Remember that a module's file could not be read. -/
def markFailed (w : Workspace) (module : String) : Workspace :=
  { w with failed := w.failed ++ [module] }

/-- Work out the current module's names and the namespaces again. -/
def refresh (w : Workspace) : Workspace :=
  { w with
    aliases := match w.current with
      | some m => aliasesOf w.symbols m
      | none => w.aliases
    namespaces := namespacesOf w.schemas w.settings.target w.settings.fallbackNamespace }

/-! ### The current module and scopes -/

/-- Make the names of a module reachable without a qualifier. -/
def setCurrent (w : Workspace) (module : String) : Except ResolveError Workspace :=
  if w.schemas.contains module then .ok { w with current := some module }.refresh
  else .error (.unknownModule module)

/-- Every qualified name with its symbol, then the unqualified names of the current module. -/
def view (w : Workspace) : List (String × Symbol) :=
  w.symbols.entries
    ++ w.aliases.entries.filterMap fun a => (w.symbols.get? a.2).map fun s => (a.1, s)

/-- The scope of the current module. -/
def currentScope (w : Workspace) : Scope :=
  ⟨w.symbols, w.current, if w.current.isSome then some w.aliases else none⟩

/-- The scope of a module. -/
def scope (w : Workspace) (module : String) : Except ResolveError Scope :=
  if w.current = some module then .ok w.currentScope
  else if w.schemas.contains module then .ok (.of w.symbols (some module))
  else .error (.unknownModule module)

end Workspace

end IdlLink
