/-
Resolving everything that a module declares.
-/
import IdlLink.Workspace.Destination

namespace IdlLink.Workspace

/-- The destination of a name that a module declares. -/
def localDestination (w : Workspace) (module name : String) : Except ResolveError Destination :=
  w.destination (qualify module name)

/-- An enum with its destination. -/
def linkEnum (w : Workspace) (module : String) (e : Enumeration) :
    Except ResolveError Linked.Enumeration := do
  return ⟨e.name, ← w.localDestination module e.name, e.members⟩

/-- A record with its destination and its fields resolved. -/
def linkRecord (w : Workspace) (s : Scope) (module : String) (r : Record) :
    Except ResolveError Linked.Record := do
  let destination ← w.localDestination module r.name
  let fields ← s.resolveFields r.fields
  return ⟨r.name, r.kind, destination, fields⟩

/-- A constant with its type and value resolved. -/
def linkConstant (s : Scope) (c : Constant) : Except ResolveError Linked.Constant := do
  let type ← s.resolveType c.type
  let value ← s.resolveValue c.value
  return ⟨c.name, type, value⟩

/-- A service with its destination, its base and its functions resolved. -/
def linkService (w : Workspace) (s : Scope) (module : String) (v : Service) :
    Except ResolveError Linked.Service := do
  let destination ← w.localDestination module v.name
  let base ← s.resolveBase v
  let functions ← v.functions.values.mapM s.resolveFunction
  return ⟨v.name, destination, base, functions⟩

/-- A typedef with the type that its name stands for. -/
def linkTypedef (s : Scope) (name : String) : Except ResolveError (String × Linked.Ty) := do
  return (name, ← s.resolveName name)

/-- Everything that a file declares, resolved in a scope. The first failure in the order typedefs,
enums, records, constants, services, constants module is the result when there is one. -/
def linkIn (w : Workspace) (s : Scope) (module : String) (schema : Schema) :
    Except ResolveError Linked.Module := do
  let typedefs ← schema.typedefs.keys.mapM (linkTypedef s)
  let enums ← schema.enums.values.mapM (w.linkEnum module)
  let records ←
    (schema.structs.values ++ schema.unions.values ++ schema.exceptions.values).mapM
      (w.linkRecord s module)
  let constants ← schema.constants.values.mapM (linkConstant s)
  let services ← schema.services.values.mapM (w.linkService s module)
  let constantsModule ← w.constantsModule module
  return {
    name := module
    namespaceName := (w.namespaces.get? module).join
    constantsModule, typedefs, enums, records, constants, services }

/-- Everything that a module declares, resolved in its own scope. -/
def link (w : Workspace) (module : String) : Except ResolveError Linked.Module := do
  let some schema := w.schemas.get? module | .error (.unknownModule module)
  let s ← w.scope module
  w.linkIn s module schema

end IdlLink.Workspace
