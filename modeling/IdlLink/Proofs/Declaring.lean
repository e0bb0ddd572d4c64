/-
The table of one file holds what the file declares.

A name may be declared more than once: by declarations of different categories, by records whose map
keys differ from their names, by an enum member and a typedef whose name has a point.  The table has
one entry for it.  `Schema.mentions` lists the declarations in the order in which they are entered,
and everything about the table follows from that order:

* `keys_symbolsOf` — a key stands where its name is mentioned first;
* `get?_symbolsOf` — and holds what it is mentioned as last;
* `find?_mentions` — the last mention of a name is an enum member, else an enum, else a typedef, else
  a record, a service or a constant, in this order;
* `symbols_as_declared` — all of this, with the keys spelled out.
-/
import IdlLink.Workspace.Check

namespace IdlLink

/-- A declaration, as it mentions a name of the file. -/
inductive Mention where
  | constant (name : String)
  | service (name : String)
  | record (r : Record)
  | typedef (name : String) (target : TypeExpr)
  | enum (name : String)
  | member (e : Enumeration) (v : EnumMember)

namespace Mention

/-- The name that is mentioned, without the module. -/
def name : Mention → String
  | constant n => n
  | service n => n
  | record r => r.name
  | typedef n _ => n
  | enum n => n
  | member e v => e.name ++ "." ++ v.name

/-- The key of the name in a module. -/
def key (module : String) (d : Mention) : String := module ++ "." ++ d.name

/-- What the name is mentioned as. -/
def symbol (module : String) : Mention → Symbol
  | constant n => .definition ⟨module ++ "." ++ n, .constant⟩
  | service n => .definition ⟨module ++ "." ++ n, .service⟩
  | record r => .definition ⟨module ++ "." ++ r.name, .record r.kind⟩
  | typedef _ target => .alias module target
  | enum n => .definition ⟨module ++ "." ++ n, .enum⟩
  | member e v => .definition ⟨module ++ "." ++ (e.name ++ "." ++ v.name), .enumMember v.value⟩

end Mention

namespace Schema

/-- The records of a file: structs, exceptions, unions. -/
def records (s : Schema) : List Record := s.structs.values ++ s.exceptions.values ++ s.unions.values

/-- The members of all enums, each with its enum. -/
def members (s : Schema) : List (Enumeration × EnumMember) :=
  s.enums.values.flatMap fun e => e.members.map fun v => (e, v)

/-- The declarations of a file in the order in which they are entered. -/
def mentions (s : Schema) : List Mention :=
  s.constants.keys.map .constant
    ++ s.services.keys.map .service
    ++ s.records.map .record
    ++ s.typedefs.entries.map (fun e => .typedef e.1 e.2)
    ++ s.enums.keys.map .enum
    ++ s.members.map (fun p => .member p.1 p.2)

/-- What a name of a file stands for: the last enum member of the name if there is one, else the
enum, else the typedef, else the last record, else the service, else the constant. -/
def symbol? (s : Schema) (module name : String) : Option Symbol :=
  let definition (kind : EntityKind) : Symbol := .definition ⟨module ++ "." ++ name, kind⟩
  let member := s.members.reverse.find? fun p => p.1.name ++ "." ++ p.2.name = name
  let record := s.records.reverse.find? fun r => r.name = name
  (member.map fun p => definition (.enumMember p.2.value)).or <|
  (if name ∈ s.enums.keys then some (definition .enum) else none).or <|
  ((s.typedefs.get? name).map (.alias module)).or <|
  (record.map fun r => definition (.record r.kind)).or <|
  (if name ∈ s.services.keys then some (definition .service) else none).or <|
  if name ∈ s.constants.keys then some (definition .constant) else none

end Schema

variable {s : Schema} {module name : String}

/-! ### The order of entry -/

theorem symbolEntries_eq (s : Schema) (module : String) :
    s.symbolEntries module = s.mentions.map fun d => (d.key module, d.symbol module) := by
  simp only [Schema.symbolEntries, Schema.mentions, Schema.records, Schema.members, List.map_append,
    List.map_map, List.map_flatMap]
  rfl

/-- A key stands where its name is mentioned first. -/
theorem keys_symbolsOf (s : Schema) (module : String) :
    (symbolsOf s module).keys = distinct (s.mentions.map (Mention.key module)) := by
  have hkeys : (s.symbolEntries module).map Prod.fst = s.mentions.map (Mention.key module) := by
    rw [symbolEntries_eq, List.map_map]
    rfl
  rw [symbolsOf, OrderedMap.ofList, OrderedMap.keys_extend, hkeys, distinct, OrderedMap.keys_empty]

/-- A key holds what its name is mentioned as last. -/
theorem get?_symbolsOf (s : Schema) (module key : String) :
    (symbolsOf s module).get? key =
      (s.mentions.reverse.find? fun d => d.key module = key).map (Mention.symbol module) := by
  rw [symbolsOf, OrderedMap.get?_ofList, symbolEntries_eq, ← List.map_reverse, List.find?_map,
    Option.map_map]
  rfl

/-! ### The last mention of a name -/

theorem find?_reverse_eq {names : List String} {name : String} :
    (names.reverse.find? fun n => n = name) = if name ∈ names then some name else none := by
  by_cases h : name ∈ names
  · rw [if_pos h]
    cases hf : names.reverse.find? (fun n => decide (n = name)) with
    | none =>
      have hne := List.find?_eq_none.1 hf name (List.mem_reverse.2 h)
      simp at hne
    | some n =>
      have hn : n = name := by simpa using List.find?_some hf
      rw [hn]
  · rw [if_neg h, List.find?_eq_none]
    intro n hn he
    have hn' : n = name := by simpa using he
    rw [hn', List.mem_reverse] at hn
    exact h hn

/-- Of the mentions of one category the last one of a name is found among what is mentioned. -/
theorem find?_reverse_map {α : Type} (f : α → Mention) (xs : List α) (name : String) :
    ((xs.map f).reverse.find? fun d => d.name = name) =
      (xs.reverse.find? fun a => (f a).name = name).map f := by
  rw [← List.map_reverse, List.find?_map]
  rfl

/-- **The last mention of a name decides what it stands for**, category by category. -/
theorem find?_mentions (s : Schema) (module name : String) :
    (s.mentions.reverse.find? fun d => d.name = name).map (Mention.symbol module) =
      s.symbol? module name := by
  -- what is found has the name that was looked for
  have hmember : ((s.members.map fun p => Mention.member p.1 p.2).reverse.find? fun d =>
        d.name = name).map (Mention.symbol module) =
      (s.members.reverse.find? fun p => p.1.name ++ "." ++ p.2.name = name).map fun p =>
        .definition ⟨module ++ "." ++ name, .enumMember p.2.value⟩ := by
    rw [find?_reverse_map, Option.map_map]
    refine Option.map_congr fun p hp => ?_
    have hfound := List.find?_some hp
    have hname : p.1.name ++ "." ++ p.2.name = name := of_decide_eq_true hfound
    simp only [Function.comp_apply, Mention.symbol, hname]
  have hrecord : ((s.records.map Mention.record).reverse.find? fun d => d.name = name).map
        (Mention.symbol module) =
      (s.records.reverse.find? fun r => r.name = name).map fun r =>
        .definition ⟨module ++ "." ++ name, .record r.kind⟩ := by
    rw [find?_reverse_map, Option.map_map]
    refine Option.map_congr fun r hr => ?_
    have hfound := List.find?_some hr
    have hname : r.name = name := of_decide_eq_true hfound
    simp only [Function.comp_apply, Mention.symbol, hname]
  have htypedef : ((s.typedefs.entries.map fun e => Mention.typedef e.1 e.2).reverse.find? fun d =>
        d.name = name).map (Mention.symbol module) =
      (s.typedefs.get? name).map (.alias module) := by
    rw [find?_reverse_map, Option.map_map, ← OrderedMap.find?_reverse_entries, Option.map_map]
    rfl
  have hname : ∀ (f : String → Mention) (names : List String), (∀ n, (f n).name = n) →
      ((names.map f).reverse.find? fun d => d.name = name).map (Mention.symbol module) =
        if name ∈ names then some ((f name).symbol module) else none := by
    intro f names hf
    rw [find?_reverse_map]
    simp only [hf, find?_reverse_eq]
    by_cases h : name ∈ names
    · simp only [if_pos h, Option.map_some]
    · simp only [if_neg h, Option.map_none]
  simp only [Schema.mentions, List.reverse_append, List.find?_append, Option.map_or, hmember,
    hname .enum _ fun _ => rfl, htypedef, hrecord, hname .service _ fun _ => rfl,
    hname .constant _ fun _ => rfl]
  rfl

/-! ### The keys -/

/-- What is mentioned in a file, category by category. -/
theorem exists_mention_iff : (∃ d ∈ s.mentions, d.name = name) ↔
    name ∈ s.constants.keys ∨ name ∈ s.services.keys ∨ (∃ r ∈ s.records, name = r.name) ∨
      name ∈ s.typedefs.keys ∨ name ∈ s.enums.keys ∨
      ∃ e ∈ s.enums.values, ∃ v ∈ e.members, name = e.name ++ "." ++ v.name := by
  have hmap : ∀ {α : Type} (f : α → Mention) (xs : List α),
      (∃ d, d ∈ xs.map f ∧ d.name = name) ↔ ∃ a ∈ xs, name = (f a).name := by
    intro α f xs
    constructor
    · rintro ⟨_, hd, rfl⟩
      obtain ⟨a, ha, rfl⟩ := List.mem_map.1 hd
      exact ⟨a, ha, rfl⟩
    · rintro ⟨a, ha, rfl⟩
      exact ⟨f a, List.mem_map_of_mem ha, rfl⟩
  have hmembers : (∃ p ∈ s.members, name = p.1.name ++ "." ++ p.2.name) ↔
      ∃ e ∈ s.enums.values, ∃ v ∈ e.members, name = e.name ++ "." ++ v.name := by
    simp only [Schema.members, List.mem_flatMap, List.mem_map]
    constructor
    · rintro ⟨_, ⟨e, he, v, hv, rfl⟩, hname⟩
      exact ⟨e, he, v, hv, hname⟩
    · rintro ⟨e, he, v, hv, hname⟩
      exact ⟨(e, v), ⟨e, he, v, hv, rfl⟩, hname⟩
  have htypedefs : (∃ e ∈ s.typedefs.entries, name = e.1) ↔ name ∈ s.typedefs.keys := by
    simp only [OrderedMap.keys, List.mem_map, eq_comm]
  simp only [Schema.mentions, List.mem_append, or_and_right, exists_or, hmap, or_assoc]
  simp only [Mention.name, exists_eq_right', hmembers, htypedefs]

/-- The keys are those of the names that are mentioned. -/
theorem mem_keys_symbolsOf_iff {key : String} : key ∈ (symbolsOf s module).keys ↔
    ∃ name, key = module ++ "." ++ name ∧ ∃ d ∈ s.mentions, d.name = name := by
  rw [keys_symbolsOf, mem_distinct, List.mem_map]
  constructor
  · rintro ⟨d, hd, rfl⟩
    exact ⟨d.name, rfl, d, hd, rfl⟩
  · rintro ⟨name, rfl, d, hd, rfl⟩
    exact ⟨d, hd, rfl⟩

/-- **The table of a file holds what the file declares.**  Its keys are those of the file's own
names: of its constants, services, typedefs and enums, of its records by the names that they carry,
and of its enum members.  Each is listed once, where its name is mentioned first, and holds what the
name is mentioned as last; so an enum member counts before an enum, an enum before a typedef, a
typedef before all else, and within a category the later declaration. -/
theorem symbols_as_declared (s : Schema) (module : String) :
    (∀ key, key ∈ (symbolsOf s module).keys ↔ ∃ name, key = module ++ "." ++ name ∧
      (name ∈ s.constants.keys ∨ name ∈ s.services.keys ∨ (∃ r ∈ s.records, name = r.name) ∨
        name ∈ s.typedefs.keys ∨ name ∈ s.enums.keys ∨
        ∃ e ∈ s.enums.values, ∃ v ∈ e.members, name = e.name ++ "." ++ v.name)) ∧
    (symbolsOf s module).keys.Nodup ∧
    (symbolsOf s module).keys = distinct (s.mentions.map (Mention.key module)) ∧
    (∀ key, (symbolsOf s module).get? key =
      (s.mentions.reverse.find? fun d => d.key module = key).map (Mention.symbol module)) ∧
    ∀ name, (symbolsOf s module).get? (module ++ "." ++ name) = s.symbol? module name := by
  refine ⟨fun key => ?_, OrderedMap.nodup_keys _, keys_symbolsOf s module,
    get?_symbolsOf s module, fun name => ?_⟩
  · simp only [mem_keys_symbolsOf_iff, exists_mention_iff]
  · have hkey : ∀ d : Mention, d.key module = module ++ "." ++ name ↔ d.name = name :=
      fun d => qualify_right_inj
    rw [get?_symbolsOf, ← find?_mentions]
    simp only [hkey]

/-- A file where most names are declared twice. -/
def tangledFile : Schema :=
  { Schema.empty with
    constants := .ofList [("Sky", ⟨"Sky", .primitive .i32, .int 1⟩)]
    services := .ofList [("Sky.DIM", ⟨"Sky.DIM", none, ∅⟩)]
    structs := .ofList [("First", ⟨"Air", .struct, []⟩), ("Second", ⟨"Sky", .struct, []⟩)]
    unions := .ofList [("Third", ⟨"Air", .union, []⟩)]
    typedefs := .ofList [("Air", .primitive .i64), ("Sky", .named "Air")]
    enums := .ofList [("Sky", ⟨"Sky", [⟨"LIT", 1⟩, ⟨"DIM", 2⟩, ⟨"LIT", 3⟩]⟩)] }

/-- Each name stands where it comes first, and is what it is declared as last. -/
example : (symbolsOf tangledFile "a").entries =
    [("a.Sky", .definition ⟨"a.Sky", .enum⟩),
     ("a.Sky.DIM", .definition ⟨"a.Sky.DIM", .enumMember 2⟩),
     ("a.Air", .alias "a" (.primitive .i64)),
     ("a.Sky.LIT", .definition ⟨"a.Sky.LIT", .enumMember 3⟩)] := by decide

end IdlLink
