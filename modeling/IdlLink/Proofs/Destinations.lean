/-
Where the definitions of a file go.

A definition is known by its qualified name alone, so its module is found by cutting the name at a
point.  That is the first point for a destination and the last one for a member of an enum, and the
two fit together as long as the name of the module has none:

* `destination_qualify` — a name of such a module goes to the namespace of the module;
* `destinationOf_of_declares` — so does whatever its file declares, each under its own last segment;
* `definitions_go_to_their_namespace` — and so does all that is linked of it.

A module takes its name from its file, which may have points.  Then the cut falls inside the name of
the module, and its definitions go elsewhere or nowhere (`pointed_module_astray`).
-/
import IdlLink.Proofs.Loaded
import IdlLink.Workspace.Link

namespace IdlLink

open Workspace

variable {settings : Settings} {src : Sources} {w : Workspace} {m : String} {schema : Schema}

/-- The segments of a namespace in a destination. -/
def namespacePath : Option String → List String
  | some ns => (Text.pieces '.' ns).map Text.camelize
  | none => []

/-- The last segment of a declaration's destination: its own name, that of its enum for a member, and
for a constant the one that all constants of the file share. -/
inductive GoesUnder (constants : String) : String → EntityKind → String → Prop
  | record {name kind} : GoesUnder constants name (.record kind) (Text.initialCase name)
  | enum {name} : GoesUnder constants name .enum (Text.initialCase name)
  | enumMember {enum member value} : '.' ∉ member.toList →
      GoesUnder constants (memberName enum member) (.enumMember value) (Text.initialCase enum)
  | service {name} : GoesUnder constants name .service (Text.initialCase name)
  | constant {name} : GoesUnder constants name .constant constants

/-- No member of an enum has a point in its name. -/
def Schema.PlainMembers (s : Schema) : Prop :=
  ∀ e ∈ s.enums.values, ∀ member ∈ e.members, '.' ∉ member.name.toList

/-! ### Names of a module without points -/

namespace Workspace

theorem namespaceSegments_eq {ns : Option String} (h : w.namespaces.get? m = some ns) :
    w.namespaceSegments m = namespacePath ns := by
  rw [namespaceSegments, h]
  cases ns <;> rfl

theorem destination_qualify (hm : '.' ∉ m.toList) (w : Workspace) (name : String) :
    w.destination (qualify m name) =
      .ok ⟨w.namespaceSegments m ++ [Text.initialCase name]⟩ := by
  rw [destination, splitOnce_qualify hm]

theorem module_qualify (hm : '.' ∉ m.toList) (name : String) (kind : EntityKind) :
    Entity.module ⟨qualify m name, kind⟩ = m := by
  rw [Entity.module, splitOnce_qualify hm]

/-- The constants of a module have a place of their own in its namespace. -/
theorem exists_constantsModule (hm : '.' ∉ m.toList) (hs : w.schemas.get? m = some schema) :
    ∃ constants, w.constantsModule m = .ok ⟨w.namespaceSegments m ++ [constants]⟩ := by
  refine ⟨Text.initialCase ((schema.collidingName (Text.camelize m)).getD (Text.camelize m)), ?_⟩
  rw [constantsModule, constantsName, hs]
  exact destination_qualify hm w _

/-- What a file declares goes to the namespace of its module. -/
theorem destinationOf_of_declares (hm : '.' ∉ m.toList) (hmembers : schema.PlainMembers)
    {constants : String}
    (hconstants : w.constantsModule m = .ok ⟨w.namespaceSegments m ++ [constants]⟩) {name : String}
    {kind : EntityKind} (h : schema.Declares name kind) :
    ∃ segment, GoesUnder constants name kind segment ∧
      w.destinationOf ⟨qualify m name, kind⟩ = .ok ⟨w.namespaceSegments m ++ [segment]⟩ := by
  cases h with
  | constant _ =>
    refine ⟨constants, .constant, ?_⟩
    rw [← hconstants, destinationOf, module_qualify hm]
  | service _ => exact ⟨_, .service, destination_qualify hm w name⟩
  | record _ => exact ⟨_, .record, destination_qualify hm w _⟩
  | enum _ => exact ⟨_, .enum, destination_qualify hm w name⟩
  | @enumMember e member he hmember =>
    have hplain := hmembers e he member hmember
    refine ⟨_, .enumMember hplain, ?_⟩
    simp only [destinationOf, splitLast_qualify_memberName hplain]
    exact destination_qualify hm w e.name

/-! ### What is linked -/

theorem eq_of_localDestination (hm : '.' ∉ m.toList) {name : String} {d : Destination}
    (h : w.localDestination m name = .ok d) :
    d = ⟨w.namespaceSegments m ++ [Text.initialCase name]⟩ := by
  rw [localDestination, destination_qualify hm] at h
  exact (Except.ok.inj h).symm

theorem destination_of_linkEnum (hm : '.' ∉ m.toList) {e : Enumeration} {E : Linked.Enumeration}
    (h : w.linkEnum m e = .ok E) :
    E.destination = ⟨w.namespaceSegments m ++ [Text.initialCase E.name]⟩ := by
  obtain ⟨d, hd, h⟩ := bind_eq_ok_iff.1 h
  cases h
  exact eq_of_localDestination hm hd

theorem destination_of_linkRecord (hm : '.' ∉ m.toList) {s : Scope} {r : Record}
    {R : Linked.Record} (h : w.linkRecord s m r = .ok R) :
    R.destination = ⟨w.namespaceSegments m ++ [Text.initialCase R.name]⟩ := by
  obtain ⟨d, hd, h⟩ := bind_eq_ok_iff.1 h
  obtain ⟨fields, _, h⟩ := bind_eq_ok_iff.1 h
  cases h
  exact eq_of_localDestination hm hd

theorem destination_of_linkService (hm : '.' ∉ m.toList) {s : Scope} {v : Service}
    {V : Linked.Service} (h : w.linkService s m v = .ok V) :
    V.destination = ⟨w.namespaceSegments m ++ [Text.initialCase V.name]⟩ := by
  obtain ⟨d, hd, h⟩ := bind_eq_ok_iff.1 h
  obtain ⟨base, _, h⟩ := bind_eq_ok_iff.1 h
  obtain ⟨functions, _, h⟩ := bind_eq_ok_iff.1 h
  cases h
  exact eq_of_localDestination hm hd

end Workspace

/-- The destinations of a linked module are those of one namespace. -/
structure Linked.Module.GoesTo (M : Linked.Module) (constants : String) : Prop where
  constantsModule : M.constantsModule = ⟨namespacePath M.namespaceName ++ [constants]⟩
  enums : ∀ E ∈ M.enums,
    E.destination = ⟨namespacePath M.namespaceName ++ [Text.initialCase E.name]⟩
  records : ∀ R ∈ M.records,
    R.destination = ⟨namespacePath M.namespaceName ++ [Text.initialCase R.name]⟩
  services : ∀ V ∈ M.services,
    V.destination = ⟨namespacePath M.namespaceName ++ [Text.initialCase V.name]⟩

theorem goesTo_of_linkIn (hm : '.' ∉ m.toList) {ns : Option String}
    (hns : w.namespaces.get? m = some ns) {constants : String}
    (hconstants : w.constantsModule m = .ok ⟨w.namespaceSegments m ++ [constants]⟩) {s : Scope}
    {M : Linked.Module} (h : w.linkIn s m schema = .ok M) :
    M.namespaceName = ns ∧ M.GoesTo constants := by
  obtain ⟨_, hname, hplace, _, henums, hrecords, _, hservices⟩ := linkIn_eq_ok_iff.1 h
  rw [hns, Option.join_some] at hname
  have hpath : w.namespaceSegments m = namespacePath M.namespaceName := by
    rw [hname, namespaceSegments_eq hns]
  refine ⟨hname, ?_, fun E hE => ?_, fun R hR => ?_, fun V hV => ?_⟩
  · rw [hconstants, hpath] at hplace
    exact (Except.ok.inj hplace).symm
  · obtain ⟨e, _, he⟩ := (mem_mapM_iff henums).1 hE
    rw [destination_of_linkEnum hm he, hpath]
  · obtain ⟨r, _, hr⟩ := (mem_mapM_iff hrecords).1 hR
    rw [destination_of_linkRecord hm hr, hpath]
  · obtain ⟨v, _, hv⟩ := (mem_mapM_iff hservices).1 hV
    rw [destination_of_linkService hm hv, hpath]

/-- **Every definition goes to the namespace of its file.**  In a module without points in its name
whatever the file defines has a destination, which is the file's namespace, or the fallback where it
declares none, followed by one segment; and linking the module writes down the same. -/
theorem definitions_go_to_their_namespace (h : Loaded settings src w)
    (hs : w.schemas.get? m = some schema) (hm : '.' ∉ m.toList)
    (hmembers : schema.PlainMembers) :
    ∃ ns constants, w.namespaces.get? m = some ns ∧
      ns = (schema.namespaceFor settings.target).or settings.fallbackNamespace ∧
      w.constantsModule m = .ok ⟨namespacePath ns ++ [constants]⟩ ∧
      (∀ key e, (symbolsOf schema m).get? key = some (.definition e) →
        ∃ name segment, e.name = qualify m name ∧ GoesUnder constants name e.kind segment ∧
          w.destinationOf e = .ok ⟨namespacePath ns ++ [segment]⟩) ∧
      ∀ M, w.link m = .ok M → M.namespaceName = ns ∧ M.GoesTo constants := by
  have hns := (h.reachable.sound.consistent h.reachable.upToDate).namespace_eq m schema hs
  obtain ⟨constants, hconstants⟩ := exists_constantsModule hm hs
  refine ⟨_, constants, hns, rfl, ?_, fun key e hkey => ?_, fun M hM => ?_⟩
  · rw [hconstants, namespaceSegments_eq hns]
  · obtain ⟨name, rfl, ⟨kind, hdeclared, he⟩ | ⟨_, _, he⟩⟩ :=
      mem_symbolEntries (OrderedMap.mem_of_get?_ofList hkey)
    · cases he
      obtain ⟨segment, hunder, hdestination⟩ :=
        destinationOf_of_declares hm hmembers hconstants hdeclared
      refine ⟨name, segment, rfl, hunder, ?_⟩
      rw [hdestination, namespaceSegments_eq hns]
    · cases he
  · rw [link_of_mem h.reachable.upToDate hs] at hM
    exact goesTo_of_linkIn hm hns hconstants hM

/-! ### An atlas, and the same file under a name with a point -/

def atlasSchema : Schema :=
  { Schema.empty with
    namespaces := .ofList [("rs", ⟨"rs", "acme.geo_data"⟩)]
    enums := .ofList [("Zone", ⟨"Zone", [⟨"NORTH", 0⟩]⟩)]
    structs := .ofList [("place", ⟨"place", .struct, []⟩)]
    constants := .ofList [("LIMIT", ⟨"LIMIT", .primitive .i32, .int 10⟩)] }

def atlasFiles (file : SourcePath) : MemorySources :=
  MemorySources.empty.insert file (.schema atlasSchema)

def atlas (file : SourcePath) : Workspace := ((new .standard).register file atlasSchema).refresh

theorem atlas_loaded (file : SourcePath) :
    Loaded .standard (atlasFiles file).toSources (atlas file) := by
  have hparse : (atlasFiles file).toSources.parse file = .ok atlasSchema := by
    have hput := MemorySources.parse_insert_schema .empty file atlasSchema file
    rwa [if_pos rfl] at hput
  have hload := load_of_ok .standard hparse
  -- it includes nothing
  have hpending : pendingOf file atlasSchema = [] := rfl
  rw [hpending, follow_nil] at hload
  exact Loaded.load hload

theorem atlas_plain : atlasSchema.PlainMembers := by
  intro e he member hmember
  obtain rfl : e = ⟨"Zone", [⟨"NORTH", 0⟩]⟩ := List.mem_singleton.1 he
  rw [List.mem_singleton.1 hmember]
  decide

/-- The atlas has a place in its namespace for whatever it defines, and its struct, its member and
its constant go there. -/
theorem atlas_in_its_namespace :
    let w := atlas ⟨"atlas.thrift"⟩
    Loaded .standard (atlasFiles ⟨"atlas.thrift"⟩).toSources w ∧
      w.schemas.get? "atlas" = some atlasSchema ∧ '.' ∉ "atlas".toList ∧ atlasSchema.PlainMembers ∧
      (∃ constants, w.constantsModule "atlas" = .ok ⟨["Acme", "GeoData"] ++ [constants]⟩ ∧
        ∀ key e, (symbolsOf atlasSchema "atlas").get? key = some (.definition e) →
          ∃ name segment, e.name = qualify "atlas" name ∧ GoesUnder constants name e.kind segment ∧
            w.destinationOf e = .ok ⟨["Acme", "GeoData"] ++ [segment]⟩) ∧
      w.destinationOf ⟨"atlas.place", .record .struct⟩ = .ok ⟨["Acme", "GeoData", "Place"]⟩ ∧
      w.destinationOf ⟨"atlas.Zone.NORTH", .enumMember 0⟩ = .ok ⟨["Acme", "GeoData", "Zone"]⟩ ∧
      w.destinationOf ⟨"atlas.LIMIT", .constant⟩ = .ok ⟨["Acme", "GeoData", "Atlas"]⟩ := by
  have hloaded := atlas_loaded ⟨"atlas.thrift"⟩
  obtain ⟨ns, constants, _, hns, hconstants, hdefinitions, _⟩ :=
    definitions_go_to_their_namespace hloaded (m := "atlas") rfl (by decide) atlas_plain
  have hpath : namespacePath ns = ["Acme", "GeoData"] := by
    rw [hns]
    decide
  rw [hpath] at hconstants
  simp only [hpath] at hdefinitions
  refine ⟨hloaded, rfl, by decide, atlas_plain, ⟨constants, hconstants, hdefinitions⟩, ?_⟩
  decide

/-- Under a name with a point the same file is led astray: its namespace is lost and its module is
taken for a part of the struct's name, and its constant has no destination at all. -/
theorem pointed_module_astray :
    let w := atlas ⟨"atlas.v2.thrift"⟩
    Loaded .standard (atlasFiles ⟨"atlas.v2.thrift"⟩).toSources w ∧
      w.schemas.get? "atlas.v2" = some atlasSchema ∧ atlasSchema.PlainMembers ∧
      w.namespaces.get? "atlas.v2" = some (some "acme.geo_data") ∧
      (symbolsOf atlasSchema "atlas.v2").get? "atlas.v2.place" =
        some (.definition ⟨"atlas.v2.place", .record .struct⟩) ∧
      w.destinationOf ⟨"atlas.v2.place", .record .struct⟩ = .ok ⟨["V2.place"]⟩ ∧
      (symbolsOf atlasSchema "atlas.v2").get? "atlas.v2.LIMIT" =
        some (.definition ⟨"atlas.v2.LIMIT", .constant⟩) ∧
      w.destinationOf ⟨"atlas.v2.LIMIT", .constant⟩ = .error (.unknownModule "atlas") :=
  ⟨atlas_loaded _, rfl, atlas_plain, by decide⟩

end IdlLink
