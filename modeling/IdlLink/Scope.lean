/-
What names mean inside a module.

A scope is a view of the symbol table from one module: a name `X` means `M.X` when the module `M`
declares it, and otherwise the qualified name `X` itself. A typedef is followed in the scope of the
module that declares it, so its meaning does not depend on where it is used. Following typedefs ends
because no typedef is entered twice; one that would be is the end of a cycle, and the error lists the
way that led there.

The table of a group's current module comes with its unqualified names worked out in advance, as
`aliases`.
-/
import IdlLink.Linked.Basic
import IdlLink.Remaining
import IdlLink.ResolveError

namespace IdlLink

/-- A view of the symbols from inside a module, or from no module. -/
structure Scope where
  table : SymbolTable
  module : Option String
  /-- The unqualified names of the module with their qualified names, when they are worked out. -/
  aliases : Option (OrderedMap String String)

namespace SymbolTable

/-- A key of the table with its symbol. -/
def pair? (t : SymbolTable) (key : String) : Option (String × Symbol) :=
  (t.get? key).map fun s => (key, s)

theorem get?_of_pair? {t : SymbolTable} {k key : String} {symbol : Symbol}
    (h : pair? t k = some (key, symbol)) : t.get? key = some symbol := by
  obtain ⟨_, hs, he⟩ := Option.map_eq_some_iff.1 h
  cases he
  exact hs

/-- How many keys of the table a chain of typedefs has not entered. -/
def unentered (t : SymbolTable) (chain : List String) : Nat :=
  t.keys.countP fun k => !chain.contains k

theorem unentered_lt {t : SymbolTable} {chain : List String} {key : String}
    (hk : key ∈ t.keys) (hc : key ∉ chain) :
    unentered t (chain ++ [key]) < unentered t chain := by
  refine countP_lt_countP hk ?_ (by simp) (by simpa using hc)
  intro k h
  simp only [List.contains_append, Bool.not_or, Bool.and_eq_true] at h
  exact h.1

end SymbolTable

namespace Scope

/-- The scope of a module, or of no module, without anything worked out in advance. -/
def of (table : SymbolTable) (module : Option String) : Scope := ⟨table, module, none⟩

/-- The symbol that the module itself declares under a name. -/
def lookupLocal (s : Scope) (name : String) : Option (String × Symbol) :=
  match s.aliases, s.module with
  | some aliases, _ => (aliases.get? name).bind (SymbolTable.pair? s.table)
  | none, some m => SymbolTable.pair? s.table (qualify m name)
  | none, none => none

/-- The symbol that a name stands for, with its qualified name. -/
def lookup (s : Scope) (name : String) : Option (String × Symbol) :=
  (s.lookupLocal name).or (SymbolTable.pair? s.table name)

/-- The scope of the module that declares a typedef. -/
def enter (s : Scope) (module : String) : Scope :=
  if s.module = some module then s else of s.table (some module)

@[simp]
theorem table_enter (s : Scope) (module : String) : (s.enter module).table = s.table := by
  unfold enter; split <;> rfl

@[simp]
theorem enter_of (table : SymbolTable) (m : Option String) (module : String) :
    (of table m).enter module = of table (some module) := by
  unfold enter
  by_cases h : (of table m).module = some module
  · rw [if_pos h, ← h]
    rfl
  · rw [if_neg h]
    rfl

/-- A lookup finds an entry of the table. -/
theorem get?_of_lookup {s : Scope} {name key : String} {symbol : Symbol}
    (h : s.lookup name = some (key, symbol)) : s.table.get? key = some symbol := by
  unfold lookup at h
  rcases Option.or_eq_some_iff.1 h with h | ⟨_, h⟩
  · unfold lookupLocal at h
    split at h
    · obtain ⟨_, _, hk⟩ := Option.bind_eq_some_iff.1 h
      exact SymbolTable.get?_of_pair? hk
    · exact SymbolTable.get?_of_pair? h
    · cases h
  · exact SymbolTable.get?_of_pair? h

/-- What the module declares under a name is what the name stands for. -/
theorem lookup_of_get?_qualify {table : SymbolTable} {m name : String} {symbol : Symbol}
    (h : table.get? (qualify m name) = some symbol) :
    (of table (some m)).lookup name = some (qualify m name, symbol) := by
  have hlocal : (of table (some m)).lookupLocal name = some (qualify m name, symbol) := by
    simp only [lookupLocal, of, SymbolTable.pair?, h, Option.map_some]
  rw [lookup, hlocal, Option.some_or]

/-- A name that the module does not declare is looked up as it is. -/
theorem lookup_of_not_mem {table : SymbolTable} {m name : String} (h : qualify m name ∉ table.keys) :
    (of table (some m)).lookup name = SymbolTable.pair? table name := by
  have hlocal : (of table (some m)).lookupLocal name = none := by
    simp only [lookupLocal, of, SymbolTable.pair?, OrderedMap.get?_eq_none_iff.2 h, Option.map_none]
  rw [lookup, hlocal, Option.none_or]
  rfl

theorem mem_keys_of_lookup {s : Scope} {name : String} {e : String × Symbol}
    (h : s.lookup name = some e) : e.1 ∈ s.table.keys :=
  OrderedMap.mem_keys_of_get? (get?_of_lookup h)

/-- The error for a name that stands for nothing here. -/
def unresolved {α : Type} (s : Scope) (name : String) : Except ResolveError α :=
  .error (.unresolved name s.module)

/-! ### Types -/

/-- The type that a written type stands for, while the typedefs of `chain` are being followed. -/
def resolveTypeIn (s : Scope) (chain : List String) :
    TypeExpr → Except ResolveError Linked.Ty
  | .primitive p => .ok (.primitive p)
  | .list t => Linked.Ty.list <$> s.resolveTypeIn chain t
  | .set t => Linked.Ty.set <$> s.resolveTypeIn chain t
  | .map k v => do
    let key ← s.resolveTypeIn chain k
    let value ← s.resolveTypeIn chain v
    return .map key value
  | .named name =>
    match _h : s.lookup name with
    | none => s.unresolved name
    | some (key, symbol) =>
      if _hc : key ∈ chain then .error (.cyclic (chain ++ [key]))
      else
        match symbol with
        | .definition e => .ok (.named e)
        | .alias m target => (s.enter m).resolveTypeIn (chain ++ [key]) target
termination_by t => (SymbolTable.unentered s.table chain, sizeOf t)
decreasing_by
  -- inside a type the chain stays and the type gets smaller
  · exact Prod.Lex.right _ (by simp +arith)
  · exact Prod.Lex.right _ (by simp +arith)
  · exact Prod.Lex.right _ (by simp +arith)
  · exact Prod.Lex.right _ (by simp +arith)
  -- a typedef may have any target, but one key less is left to enter
  · rw [table_enter]
    exact Prod.Lex.left _ _ (SymbolTable.unentered_lt (mem_keys_of_lookup _h) _hc)

section

variable {s : Scope} {chain : List String} {name key m : String} {target : TypeExpr}
  {symbol : Symbol} {e : Entity}

/-- A name in one step: what it stands for decides, and whether its typedef is entered. -/
theorem resolveTypeIn_named : s.resolveTypeIn chain (.named name) =
    match s.lookup name with
    | none => .error (.unresolved name s.module)
    | some (key, symbol) =>
      if key ∈ chain then .error (.cyclic (chain ++ [key]))
      else
        match symbol with
        | .definition e => .ok (.named e)
        | .alias m target => (s.enter m).resolveTypeIn (chain ++ [key]) target := by
  rw [resolveTypeIn]
  split
  · rename_i h
    rw [h]
    rfl
  · rename_i key symbol h
    by_cases hc : key ∈ chain
    · simp only [h, dif_pos hc, if_pos hc]
    · simp only [h, dif_neg hc, if_neg hc]
      cases symbol <;> rfl

theorem resolveTypeIn_of_unknown (h : s.lookup name = none) :
    s.resolveTypeIn chain (.named name) = .error (.unresolved name s.module) := by
  rw [resolveTypeIn_named, h]

theorem resolveTypeIn_of_entered (h : s.lookup name = some (key, symbol)) (hc : key ∈ chain) :
    s.resolveTypeIn chain (.named name) = .error (.cyclic (chain ++ [key])) := by
  rw [resolveTypeIn_named, h]
  simp only [if_pos hc]

theorem resolveTypeIn_of_definition (h : s.lookup name = some (key, .definition e))
    (hc : key ∉ chain) : s.resolveTypeIn chain (.named name) = .ok (.named e) := by
  rw [resolveTypeIn_named, h]
  simp only [if_neg hc]

theorem resolveTypeIn_of_alias (h : s.lookup name = some (key, .alias m target))
    (hc : key ∉ chain) :
    s.resolveTypeIn chain (.named name) = (s.enter m).resolveTypeIn (chain ++ [key]) target := by
  rw [resolveTypeIn_named, h]
  simp only [if_neg hc]

end

/-- The type that a written type stands for. -/
def resolveType (s : Scope) (t : TypeExpr) : Except ResolveError Linked.Ty := s.resolveTypeIn [] t

theorem resolveType_primitive (s : Scope) (p : Primitive) :
    s.resolveType (.primitive p) = .ok (.primitive p) := by
  rw [resolveType, resolveTypeIn]

theorem resolveType_list (s : Scope) (t : TypeExpr) :
    s.resolveType (.list t) = Linked.Ty.list <$> s.resolveType t := by
  rw [resolveType, resolveTypeIn, resolveType]

theorem resolveType_set (s : Scope) (t : TypeExpr) :
    s.resolveType (.set t) = Linked.Ty.set <$> s.resolveType t := by
  rw [resolveType, resolveTypeIn, resolveType]

theorem resolveType_map (s : Scope) (k v : TypeExpr) :
    s.resolveType (.map k v) = do
      let key ← s.resolveType k
      let value ← s.resolveType v
      return .map key value := by
  rw [resolveType, resolveTypeIn, resolveType, resolveType]

/-- The type that a name stands for. -/
def resolveName (s : Scope) (name : String) : Except ResolveError Linked.Ty :=
  s.resolveType (.named name)

/-! ### Values -/

mutual

/-- The value that a written constant stands for; a typedef names a type and never a value. -/
def resolveValue (s : Scope) : ConstExpr → Except ResolveError Linked.Value
  | .bool b => .ok (.bool b)
  | .int i => .ok (.int i)
  | .double x => .ok (.double x)
  | .string t => .ok (.string t)
  | .list items => Linked.Value.list <$> s.resolveItems items
  | .map entries => Linked.Value.map <$> s.resolveEntries entries
  | .named name =>
    match s.lookup name with
    | some (_, .definition e) => .ok (.named e)
    | some (_, .alias _ _) => s.unresolved name
    | none => s.unresolved name

/-- The elements of a list, first to last. -/
def resolveItems (s : Scope) : List ConstExpr → Except ResolveError (List Linked.Value)
  | [] => .ok []
  | c :: rest => do
    let v ← s.resolveValue c
    let vs ← s.resolveItems rest
    return v :: vs

/-- The entries of a map, first to last and each key before its value. -/
def resolveEntries (s : Scope) :
    List (ConstExpr × ConstExpr) → Except ResolveError (List (Linked.Value × Linked.Value))
  | [] => .ok []
  | (k, v) :: rest => do
    let key ← s.resolveValue k
    let value ← s.resolveValue v
    let vs ← s.resolveEntries rest
    return (key, value) :: vs

end

/-- A name has a value where it stands for a definition. -/
theorem resolveValue_named_eq_ok_iff {s : Scope} {n : String} {v : Linked.Value} :
    s.resolveValue (.named n) = .ok v ↔
      ∃ key e, s.lookup n = some (key, .definition e) ∧ v = .named e := by
  rw [resolveValue]
  constructor
  · intro h
    split at h
    · rename_i key e hlook
      cases h
      exact ⟨key, e, hlook, rfl⟩
    · cases h
    · cases h
  · rintro ⟨key, e, hlook, rfl⟩
    rw [hlook]

/-! ### Declarations -/

/-- Resolve what may be absent. -/
def resolveOption {α β : Type} (f : α → Except ResolveError β) :
    Option α → Except ResolveError (Option β)
  | none => .ok none
  | some a => some <$> f a

/-- A field with its references resolved, the type first. -/
def resolveField (s : Scope) (f : Field) : Except ResolveError Linked.Field := do
  let type ← s.resolveType f.type
  let default ← resolveOption s.resolveValue f.default
  return ⟨f.id, f.name, type, f.requiredness, default⟩

/-- Fields with their references resolved. -/
def resolveFields (s : Scope) (fs : List Field) : Except ResolveError (List Linked.Field) :=
  fs.mapM s.resolveField

/-- A function with its references resolved: result, parameters, exceptions. -/
def resolveFunction (s : Scope) (f : Function) : Except ResolveError Linked.Function := do
  let result ← resolveOption s.resolveType f.result
  let params ← s.resolveFields f.params
  let exceptions ← s.resolveFields f.exceptions
  return ⟨f.name, f.oneway, result, params, exceptions⟩

/-- The service that a name stands for; a name of anything else counts as unresolved. -/
def resolveService (s : Scope) (name : String) : Except ResolveError Entity := do
  match ← s.resolveName name with
  | .named e => if e.kind = .service then return e else s.unresolved name
  | _ => s.unresolved name

/-- The service that a service extends. -/
def resolveBase (s : Scope) (v : Service) : Except ResolveError (Option Entity) :=
  resolveOption s.resolveService v.base

end Scope

end IdlLink
