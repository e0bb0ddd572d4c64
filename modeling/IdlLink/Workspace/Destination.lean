/-
Where generated code goes.

A definition goes to the namespace of its file, segment by segment in capitals, followed by its own
name. Enum members go with their enum, and the constants of a file go to one module named after the
file, unless a type of the file has that name in some spelling of its case, which is then used.
-/
import IdlLink.Text.Casing
import IdlLink.Workspace.Basic

namespace IdlLink

/-- The first type of a file whose name is `wanted` up to case. -/
def Schema.collidingName (s : Schema) (wanted : String) : Option String :=
  s.typeNames.find? fun n => Text.lower n = Text.lower wanted

namespace Workspace

/-- The segments of a module's namespace; none without a namespace. -/
def namespaceSegments (w : Workspace) (module : String) : List String :=
  match w.namespaces.get? module with
  | some (some ns) => (Text.pieces '.' ns).map Text.camelize
  | _ => []

/-- The destination of a qualified name. -/
def destination (w : Workspace) (name : String) : Except ResolveError Destination :=
  match Text.splitOnce '.' name with
  | none => .error (.unqualified name)
  | some (module, own) => .ok ⟨w.namespaceSegments module ++ [Text.initialCase own]⟩

/-- The qualified name of the module that holds a file's constants. -/
def constantsName (w : Workspace) (module : String) : Except ResolveError String :=
  match w.schemas.get? module with
  | none => .error (.unknownModule module)
  | some schema =>
    let standard := Text.camelize module
    .ok (qualify module ((schema.collidingName standard).getD standard))

/-- The destination of a file's constants. -/
def constantsModule (w : Workspace) (module : String) : Except ResolveError Destination := do
  w.destination (← w.constantsName module)

/-- The destination of the first file's constants. -/
def rootConstantsModule (w : Workspace) : Except ResolveError Destination :=
  match w.initial with
  | none => .error (.unknownModule "")
  | some m => w.constantsModule m

/-- The destination of a definition. -/
def destinationOf (w : Workspace) (e : Entity) : Except ResolveError Destination :=
  match e.kind with
  | .enumMember _ =>
    match Text.splitLast '.' e.name with
    | none => .error (.unqualified e.name)
    | some (enumName, _) => w.destination enumName
  | .constant => w.constantsModule e.module
  | _ => w.destination e.name

end Workspace

end IdlLink
