/-
The symbols that one file declares.

A symbol is either a definition, addressed by its qualified name, or a typedef, which is transparent:
it only says which type to read on with, and in which module. `symbolsOf` lists the symbols of a
schema in the order constants, services, structs, exceptions, unions, typedefs, enums, enum members;
where a name is declared twice the later one in this order counts, at the place of the first.
-/
import IdlLink.Schema.Basic
import IdlLink.Text.Pieces

namespace IdlLink

/-- What kind of thing a definition is. -/
inductive EntityKind where
  | record (kind : RecordKind)
  | enum
  | enumMember (value : Int64)
  | service
  | constant
  deriving DecidableEq, Repr

/-- A definition by its qualified name, `module.Name` or `module.Enum.MEMBER`. -/
structure Entity where
  name : String
  kind : EntityKind
  deriving DecidableEq, Repr

namespace Entity

/-- The module that owns a definition. -/
def module (e : Entity) : String :=
  match Text.splitOnce '.' e.name with
  | some p => p.1
  | none => e.name

/-- The name of a definition inside its module. -/
def localName (e : Entity) : String :=
  match Text.splitOnce '.' e.name with
  | some p => p.2
  | none => e.name

end Entity

/-- What kind of thing a definition is, in words. -/
def EntityKind.describe : EntityKind → String
  | record .struct => "struct"
  | record .union => "union"
  | record .exception => "exception"
  | enum => "enum"
  | enumMember _ => "enum value"
  | service => "service"
  | constant => "const"

/-- A definition in words. -/
def Entity.describe (e : Entity) : String := e.kind.describe ++ " " ++ e.name

/-- What a qualified name stands for. -/
inductive Symbol where
  /-- A typedef: its target is read in the module that declares it. -/
  | alias (module : String) (target : TypeExpr)
  | definition (entity : Entity)
  deriving DecidableEq, Repr

/-- Symbols under their qualified names. -/
abbrev SymbolTable := OrderedMap String Symbol

/-- A name with its module in front. -/
def qualify (module name : String) : String := module ++ "." ++ name

/-- A name of an enum member with its enum in front. -/
def memberName (enum member : String) : String := enum ++ "." ++ member

theorem toList_qualify (module name : String) :
    (qualify module name).toList = module.toList ++ '.' :: name.toList := by
  rw [qualify, String.toList_append, String.toList_append, List.append_assoc]
  rfl

/-- A name can be taken apart again when its module has no point. -/
theorem splitOnce_qualify {module : String} (h : '.' ∉ module.toList) (name : String) :
    Text.splitOnce '.' (qualify module name) = some (module, name) :=
  Text.splitOnce_of_toList_eq (toList_qualify module name) h

theorem splitOnce_memberName {enum : String} (h : '.' ∉ enum.toList) (member : String) :
    Text.splitOnce '.' (memberName enum member) = some (enum, member) :=
  splitOnce_qualify h member

/-- A member is told from its enum when its own name has no point. -/
theorem splitLast_qualify_memberName {member : String} (h : '.' ∉ member.toList)
    (module enum : String) :
    Text.splitLast '.' (qualify module (memberName enum member)) =
      some (qualify module enum, member) := by
  have hname : (memberName enum member).toList = enum.toList ++ '.' :: member.toList :=
    toList_qualify enum member
  refine Text.splitLast_of_toList_eq ?_ h
  rw [toList_qualify, toList_qualify, hname, List.append_assoc, List.cons_append]

theorem splitOnce_qualify_ne_none (module name : String) :
    Text.splitOnce '.' (qualify module name) ≠ none := by
  intro h
  rw [Text.splitOnce_eq_none_iff, toList_qualify] at h
  exact h (List.mem_append_right _ List.mem_cons_self)

theorem qualify_inj {m n x y : String} (hm : '.' ∉ m.toList) (hn : '.' ∉ n.toList)
    (h : qualify m x = qualify n y) : m = n ∧ x = y := by
  have hcut : some (m, x) = some (n, y) := by
    rw [← splitOnce_qualify hm x, ← splitOnce_qualify hn y, h]
  exact Prod.mk.inj (Option.some.inj hcut)

theorem qualify_right_inj {module x y : String} : qualify module x = qualify module y ↔ x = y := by
  rw [← String.toList_inj, toList_qualify, toList_qualify, List.append_cancel_left_eq,
    List.cons.injEq, String.toList_inj]
  simp

/-- A definition of a module under its qualified name. -/
def definitionEntry (module name : String) (kind : EntityKind) : String × Symbol :=
  (qualify module name, .definition ⟨qualify module name, kind⟩)

/-- Every declaration of a schema as a symbol, in the order in which they are entered. -/
def Schema.symbolEntries (s : Schema) (module : String) : List (String × Symbol) :=
  s.constants.keys.map (definitionEntry module · .constant)
    ++ s.services.keys.map (definitionEntry module · .service)
    ++ (s.structs.values ++ s.exceptions.values ++ s.unions.values).map
        (fun r => definitionEntry module r.name (.record r.kind))
    ++ s.typedefs.entries.map (fun e => (qualify module e.1, Symbol.alias module e.2))
    ++ s.enums.keys.map (definitionEntry module · .enum)
    ++ s.enums.values.flatMap fun e =>
        e.members.map fun m => definitionEntry module (memberName e.name m.name) (.enumMember m.value)

/-- The symbols of a schema. -/
def symbolsOf (s : Schema) (module : String) : SymbolTable := .ofList (s.symbolEntries module)

/-! ### What the symbols of a file look like -/

/-- What a file declares under a name of its own, typedefs apart. -/
inductive Schema.Declares (s : Schema) : String → EntityKind → Prop
  | constant {name} : name ∈ s.constants.keys → s.Declares name .constant
  | service {name} : name ∈ s.services.keys → s.Declares name .service
  | record {r} : r ∈ s.structs.values ++ s.exceptions.values ++ s.unions.values →
      s.Declares r.name (.record r.kind)
  | enum {name} : name ∈ s.enums.keys → s.Declares name .enum
  | enumMember {e m} : e ∈ s.enums.values → m ∈ e.members →
      s.Declares (memberName e.name m.name) (.enumMember m.value)

/-- An entry has a key of the module, and is a definition of its own key or a typedef. -/
theorem mem_symbolEntries {s : Schema} {module key : String} {symbol : Symbol}
    (h : (key, symbol) ∈ s.symbolEntries module) : ∃ name, key = qualify module name ∧
      ((∃ kind, s.Declares name kind ∧ symbol = .definition ⟨key, kind⟩) ∨
        ∃ target, (name, target) ∈ s.typedefs.entries ∧ symbol = .alias module target) := by
  have hdefinition : ∀ {name kind}, s.Declares name kind →
      definitionEntry module name kind = (key, symbol) → ∃ name, key = qualify module name ∧
        ((∃ kind, s.Declares name kind ∧ symbol = .definition ⟨key, kind⟩) ∨
          ∃ target, (name, target) ∈ s.typedefs.entries ∧ symbol = .alias module target) := by
    intro name kind hdeclared he
    obtain ⟨rfl, rfl⟩ := Prod.mk.inj he
    exact ⟨name, rfl, .inl ⟨kind, hdeclared, rfl⟩⟩
  simp only [Schema.symbolEntries, List.mem_append, List.mem_map, List.mem_flatMap] at h
  rcases h with ((((⟨_, hn, he⟩ | ⟨_, hn, he⟩) | ⟨_, hr, he⟩) | ⟨t, ht, he⟩) | ⟨_, hn, he⟩) |
    ⟨_, hen, _, hm, he⟩
  · exact hdefinition (.constant hn) he
  · exact hdefinition (.service hn) he
  · rw [← List.mem_append, ← List.mem_append] at hr
    exact hdefinition (.record hr) he
  · obtain ⟨rfl, rfl⟩ := Prod.mk.inj he
    exact ⟨t.1, rfl, .inr ⟨t.2, ht, rfl⟩⟩
  · exact hdefinition (.enum hn) he
  · exact hdefinition (.enumMember hen hm) he

theorem exists_qualify_of_mem_symbolEntries {s : Schema} {module key : String} {symbol : Symbol}
    (h : (key, symbol) ∈ s.symbolEntries module) : ∃ name, key = qualify module name := by
  obtain ⟨name, hkey, _⟩ := mem_symbolEntries h
  exact ⟨name, hkey⟩

/-- A declaration is either a definition under its own name, or a typedef of the module. -/
theorem mem_symbolEntries_cases {s : Schema} {module key : String} {symbol : Symbol}
    (h : (key, symbol) ∈ s.symbolEntries module) :
    (∃ kind, symbol = .definition ⟨key, kind⟩) ∨
      ∃ name target, (name, target) ∈ s.typedefs.entries ∧ key = qualify module name ∧
        symbol = .alias module target := by
  obtain ⟨name, hkey, ⟨kind, _, hs⟩ | ⟨target, ht, hs⟩⟩ := mem_symbolEntries h
  · exact .inl ⟨kind, hs⟩
  · exact .inr ⟨name, target, ht, hkey, hs⟩

theorem mem_keys_symbolsOf_of_typedef {s : Schema} {module name : String}
    (h : name ∈ s.typedefs.keys) : qualify module name ∈ (symbolsOf s module).keys := by
  obtain ⟨e, he, rfl⟩ := List.mem_map.1 h
  have hentry : (qualify module e.1, Symbol.alias module e.2) ∈ s.symbolEntries module := by
    simp only [Schema.symbolEntries, List.mem_append]
    exact .inl (.inl (.inr (List.mem_map.2 ⟨e, he, rfl⟩)))
  exact OrderedMap.mem_keys_ofList.2 (List.mem_map_of_mem hentry)

theorem mem_keys_symbolsOf {s : Schema} {m key : String} (h : key ∈ (symbolsOf s m).keys) :
    ∃ name, key = qualify m name := by
  obtain ⟨_, hsymbol⟩ := OrderedMap.mem_keys_iff.1 h
  exact exists_qualify_of_mem_symbolEntries (OrderedMap.mem_of_get?_ofList hsymbol)

theorem mem_symbolEntries_of_mem_symbolsOf {s : Schema} {module : String} {e : String × Symbol}
    (h : e ∈ (symbolsOf s module).entries) : e ∈ s.symbolEntries module :=
  OrderedMap.mem_of_get?_ofList (OrderedMap.get?_eq_some_iff.2 h)

end IdlLink
