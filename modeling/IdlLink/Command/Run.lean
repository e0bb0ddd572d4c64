/-
Running an invocation on a tree of files.

`check` names every problem of every unit, `modules` lists the definitions with their destinations,
and `resolve` writes the linked modules as one document. An action that stops keeps what it has
printed before.
-/
import IdlLink.Command.Units
import IdlLink.Files.Writing
import IdlLink.Linked.Writer
import IdlLink.Workspace.Check
import IdlLink.Workspace.Link

namespace IdlLink.Command

/-- What a run leaves behind. -/
structure Outcome where
  exitCode : Nat
  /-- What was printed, one text to a line. -/
  output : List String
  /-- What was printed on the side of messages, one text to a line. -/
  messages : List String
  /-- The files after the run. -/
  tree : FileTree

/-- A message about an error. -/
def errorLine (message : String) : String := during "error" message

/-- The outcome of an action that printed some lines and then stopped or came to its end. -/
def Outcome.of (t : FileTree) (output : List String) : Option CommandError → Outcome
  | none => ⟨0, output, [], t⟩
  | some e => ⟨1, output, [errorLine e.message], t⟩

/-! ### Checking -/

/-- Everything that is wrong in a unit. -/
def RootUnit.problems (u : RootUnit) : List String :=
  match u.loaded with
  | .error e => [e.message]
  | .ok r =>
    r.errors.map ParseError.message
      ++ r.workspace.check.map fun e => during u.root.text e.message

/-- The last line of a check. -/
def summary (units problems : Nat) : String :=
  if problems = 0 then during "ok" (Number.decimal units ++ " unit(s) resolved")
  else during "failed" (Number.decimal problems ++ " problem(s)")

/-- Name every problem of every unit. -/
def check (t : FileTree) (units : List RootUnit) : Outcome :=
  let problems := units.flatMap RootUnit.problems
  { exitCode := if problems.isEmpty then 0 else 1
    output := []
    messages := problems.map errorLine ++ [summary units.length problems.length]
    tree := t }

/-! ### Listing -/

/-- The width of the first column of a listing, in characters. -/
def columnWidth : Nat := 40

/-- A line of a listing. -/
def listingLine (what : String) (d : Destination) : String :=
  "  " ++ what ++ String.ofList (List.replicate (columnWidth - what.length) ' ') ++ " " ++ d.text

/-- The line of a name in the symbol table. Typedefs and enum members have none. -/
def definitionLine (w : Workspace) (key : String) :
    Symbol → Option (Except CommandError String)
  | .alias _ _ => none
  | .definition ⟨_, .enumMember _⟩ => none
  | .definition e =>
    some (((w.destinationOf e).map (listingLine e.describe)).mapError (.naming key))

/-- The line of a module's constants, if it has some. -/
def constantsLine (w : Workspace) (module : String) (s : Schema) :
    Option (Except CommandError String) :=
  if s.constants.isEmpty then none
  else
    some (((w.constantsModule module).map (listingLine ("constants " ++ module))).mapError .resolve)

/-- The lines of a unit, up to what stops it. -/
def RootUnit.lines (u : RootUnit) : List (Except CommandError String) :=
  match u.loaded with
  | .error e => [.error (.parse e)]
  | .ok r =>
    .ok u.root.text
      :: (r.workspace.view.filterMap fun e => definitionLine r.workspace e.1 e.2)
      ++ r.workspace.schemas.entries.filterMap fun e => constantsLine r.workspace e.1 e.2

/-- The results up to the first error, and that error. -/
def untilError {α ε : Type} : List (Except ε α) → List α × Option ε
  | [] => ([], none)
  | .error e :: _ => ([], some e)
  | .ok a :: rest =>
    let r := untilError rest
    (a :: r.1, r.2)

/-- List the definitions of all units. -/
def modules (t : FileTree) (units : List RootUnit) : Outcome :=
  let lines := untilError (units.flatMap RootUnit.lines)
  .of t lines.1 lines.2

/-! ### Linking -/

/-- The modules of a workspace that are asked for: the first one, or all. -/
def wantedModules (all : Bool) (w : Workspace) : List String :=
  if all then w.schemas.keys else w.initial.toList

/-- The linked modules of a unit. A file that could not be read stops it. -/
def RootUnit.link (all : Bool) (u : RootUnit) : Except CommandError (List Linked.Module) :=
  match u.loaded with
  | .error e => .error (.parse e)
  | .ok r =>
    match r.errors with
    | e :: _ => .error (.parse e)
    | [] =>
      ((wantedModules all r.workspace).mapM r.workspace.link).mapError (.linking u.root)

/-- The linked modules of all units, in order. -/
def linkedModules (all : Bool) (units : List RootUnit) :
    Except CommandError (List Linked.Module) :=
  List.flatten <$> units.mapM (RootUnit.link all)

/-- Linked modules as one document. -/
def documentOf (ms : List Linked.Module) : String :=
  (Json.Value.list (ms.map Linked.Module.toJson)).pretty

/-- Write a text to a file, in a directory that is made when it is missing. -/
def writeOut (t : FileTree) (out : SourcePath) (text : String) : Except CommandError FileTree := do
  let t' ← (t.makeParent out).mapError .makingDirectories
  (t'.write out (Text.toBytes text)).mapError (.writing out)

/-- Print a text, or write it to a file. -/
def emit (t : FileTree) (out : Option String) (text : String) : Outcome :=
  match out with
  | none => .of t [text] none
  | some path =>
    match writeOut t ⟨path⟩ text with
    | .ok t' => .of t' [] none
    | .error e => .of t [] (some e)

/-- Link all units and write the result. -/
def resolve (t : FileTree) (all : Bool) (out : Option String) (units : List RootUnit) : Outcome :=
  match linkedModules all units with
  | .ok ms => emit t out (documentOf ms)
  | .error e => .of t [] (some e)

/-! ### Running -/

/-- Run an invocation. -/
def run (t : FileTree) (i : Invocation) : Outcome :=
  match i.inputs.units t with
  | .error e => .of t [] (some e)
  | .ok units =>
    match i.action with
    | .check => check t units
    | .modules => modules t units
    | .resolve all out => resolve t all out units

/-- Run a command line; one that asks for no action leaves the files alone and prints nothing. -/
def runArguments (t : FileTree) (arguments : List String) : Outcome :=
  match Invocation.ofArguments arguments with
  | .ok i => run t i
  | .error .help => ⟨0, [], [], t⟩
  | .error .misuse => ⟨2, [], [], t⟩

end IdlLink.Command
