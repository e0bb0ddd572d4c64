/-
The root files of an invocation, loaded.

Settings come from the settings file, if one is named, and flags go over them. Every root is a unit
of its own with its own workspace; a root that cannot be read leaves its error in its unit and does
not keep the others from being loaded.
-/
import IdlLink.Command.Arguments
import IdlLink.Files.Expansion
import IdlLink.Files.Sources
import IdlLink.Workspace.Includes

namespace IdlLink.Command

/-- Why an action stops. -/
inductive CommandError where
  | parse (e : ParseError)
  | pattern (e : PatternError)
  /-- A pattern that stands for no path. -/
  | noMatch (pattern : String)
  | resolve (e : ResolveError)
  /-- A definition, by its name in the table, whose destination is not known. -/
  | naming (key : String) (e : ResolveError)
  /-- A root with a module that cannot be linked. -/
  | linking (root : SourcePath) (e : ResolveError)
  | makingDirectories (f : FileFault)
  | writing (out : SourcePath) (f : FileFault)

/-- A message with what was being done in front of it. -/
def during (activity message : String) : String := activity ++ ": " ++ message

/-- The wording of an error. -/
def CommandError.message : CommandError → String
  | parse e => e.message
  | pattern e => e.message
  | noMatch p => "glob pattern matched no files: " ++ p
  | resolve e => e.message
  | naming key e => during ("naming " ++ key) e.message
  | linking root e => during ("resolving " ++ root.text) e.message
  | makingDirectories f => f.message
  | writing out f => during ("writing " ++ out.text) f.message

/-- The settings in the file that a path leads to. -/
def settingsAt (t : FileTree) (p : SourcePath) : Except ParseError Settings :=
  match t.readText p with
  | .error f => .error ⟨p, f.message⟩
  | .ok text => (Settings.ofText text).mapError fun f => ⟨p, f.message⟩

/-- Settings with what flags set. -/
def Inputs.override (i : Inputs) (s : Settings) : Settings :=
  { includePaths := s.includePaths ++ i.includePaths
    fallbackNamespace := i.fallbackNamespace.or s.fallbackNamespace
    target := i.target.getD s.target }

/-- The settings of some inputs. -/
def Inputs.settings (t : FileTree) (i : Inputs) : Except CommandError Settings :=
  match i.config with
  | none => .ok (i.override .standard)
  | some path => (i.override <$> settingsAt t ⟨path⟩).mapError .parse

/-- The paths that an input stands for: itself, or all that match it. -/
def rootPaths (t : FileTree) (s : String) : Except CommandError (List SourcePath) :=
  if Pattern.isPattern s then
    match Pattern.ofString s with
    | .error e => .error (.pattern e)
    | .ok pattern =>
      match t.expand pattern with
      | [] => .error (.noMatch s)
      | ps => .ok ps
  else .ok [⟨s⟩]

/-- A root file and what came of loading it. -/
structure RootUnit where
  root : SourcePath
  loaded : Except ParseError Workspace.Intake

/-- The unit of a root file. -/
def RootUnit.load (settings : Settings) (t : FileTree) (root : SourcePath) : RootUnit :=
  ⟨root, Workspace.load settings t.toSources root⟩

/-- The units of some inputs, in order. -/
def Inputs.units (t : FileTree) (i : Inputs) : Except CommandError (List RootUnit) := do
  let settings ← i.settings t
  let roots ← i.roots.mapM (rootPaths t)
  return roots.flatten.map (RootUnit.load settings t)

end IdlLink.Command
