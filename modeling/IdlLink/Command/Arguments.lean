/-
The command line.

The first argument names the action; flags follow in any order. A flag's value stands behind it as
an argument of its own or attached, `--flag=value`, `-fvalue` or `-f=value`. The flag of the inputs
takes every value up to the next flag, and an attached one alone. Arguments are taken one at a time,
left to right, so a request for help counts only when nothing before it is wrong.
-/
import IdlLink.Text.Pieces

namespace IdlLink.Command

/-- Why no action runs. -/
inductive Refusal where
  /-- Help was asked for. -/
  | help
  /-- The arguments make no sense. -/
  | misuse
  deriving DecidableEq, Repr

/-- Which files an action works on. -/
structure Inputs where
  /-- Paths of root files, and patterns for such paths. -/
  roots : List String
  includePaths : List String
  fallbackNamespace : Option String
  target : Option String
  /-- The path of a file with settings. -/
  config : Option String
  deriving DecidableEq, Repr

/-- What is to be done. -/
inductive Action where
  | check
  | modules
  | resolve (allModules : Bool) (out : Option String)
  deriving DecidableEq, Repr

/-- An action with its inputs. -/
structure Invocation where
  action : Action
  inputs : Inputs
  deriving DecidableEq, Repr

/-! ### Flags -/

/-- The names of the actions. -/
inductive Verb where
  | check
  | modules
  | resolve
  deriving DecidableEq, Repr

/-- The verb that an argument spells. -/
def Verb.ofArgument? (s : String) : Option Verb :=
  if s = "check" then some .check
  else if s = "modules" then some .modules
  else if s = "resolve" then some .resolve
  else none

/-- The flags. -/
inductive Flag where
  | input
  | includePath
  | fallbackNamespace
  | target
  | config
  | allModules
  | out
  | help
  deriving DecidableEq, Repr

/-- The flags of every action under their long names. -/
def commonFlags : List (String × Flag) :=
  [("input", .input), ("include", .includePath), ("namespace", .fallbackNamespace),
    ("target", .target), ("config", .config), ("help", .help)]

/-- The flags of an action under their long names. -/
def Verb.flags : Verb → List (String × Flag)
  | .resolve => commonFlags ++ [("all-modules", .allModules), ("out", .out)]
  | _ => commonFlags

/-- The flags of an action under their letters. -/
def Verb.letters : Verb → List (Char × Flag)
  | .resolve => [('i', .input), ('I', .includePath), ('h', .help), ('o', .out)]
  | _ => [('i', .input), ('I', .includePath), ('h', .help)]

/-- Whether a flag takes a value. -/
def Flag.takesValue : Flag → Bool
  | allModules => false
  | help => false
  | _ => true

/-- Whether a flag's values are paths, which are never empty. -/
def Flag.takesPath : Flag → Bool
  | includePath => true
  | config => true
  | out => true
  | _ => false

/-! ### Arguments one by one -/

/-- What a single argument is. -/
inductive Argument where
  /-- Two hyphens alone; no flag may follow them. -/
  | separator
  /-- A flag, if there is one of that name, with the value attached to it. -/
  | flag (f : Option Flag) (attached : Option String)
  | value (s : String)

/-- The flag of a long name, maybe with a value attached. -/
def longFlag (verb : Verb) (cs : List Char) : Argument :=
  let find (name : List Char) : Option Flag := verb.flags.lookup (String.ofList name)
  match Text.splitOnceChars '=' cs with
  | some (name, value) => .flag (find name) (some (String.ofList value))
  | none => .flag (find cs) none

/-- The value attached to a letter. -/
def letterValue : List Char → Option String
  | [] => none
  | '=' :: value => some (String.ofList value)
  | value => some (String.ofList value)

/-- The flag of a letter; one that takes no value leaves what is attached to it alone. -/
def letterFlag (verb : Verb) (c : Char) (rest : List Char) : Argument :=
  match verb.letters.lookup c with
  | some .help => .flag (some .help) none
  | f => .flag f (letterValue rest)

/-- What an argument is, for an action. -/
def Argument.ofString (verb : Verb) (s : String) : Argument :=
  match s.toList with
  | ['-', '-'] => .separator
  | '-' :: '-' :: cs => longFlag verb cs
  | ['-'] => .value s
  | '-' :: c :: rest => letterFlag verb c rest
  | _ => .value s

/-! ### Collecting -/

/-- What the flags so far have set. -/
structure Options where
  inputs : Inputs
  allModules : Bool
  out : Option String

/-- No flag has set anything. -/
def Options.none : Options := ⟨⟨[], [], .none, .none, .none⟩, false, .none⟩

/-- Set what may be set once. -/
def once (before : Option String) (values : List String) : Except Refusal (Option String) :=
  match before, values with
  | .none, [v] => .ok (some v)
  | _, _ => .error .misuse

/-- Set what a flag sets. -/
def Options.set (o : Options) (f : Flag) (values : List String) : Except Refusal Options := do
  if f.takesPath && values.contains "" then .error .misuse
  match f with
  | .input => return { o with inputs := { o.inputs with roots := o.inputs.roots ++ values } }
  | .includePath =>
    return { o with inputs := { o.inputs with includePaths := o.inputs.includePaths ++ values } }
  | .fallbackNamespace =>
    let v ← once o.inputs.fallbackNamespace values
    return { o with inputs := { o.inputs with fallbackNamespace := v } }
  | .target =>
    let v ← once o.inputs.target values
    return { o with inputs := { o.inputs with target := v } }
  | .config =>
    let v ← once o.inputs.config values
    return { o with inputs := { o.inputs with config := v } }
  | .out =>
    let v ← once o.out values
    return { o with out := v }
  | .allModules => if o.allModules then .error .misuse else return { o with allModules := true }
  | .help => .error .help

/-- How far the arguments have been taken. -/
structure Progress where
  options : Options
  /-- A flag whose values are being collected. -/
  pending : Option (Flag × List String)
  /-- Whether two hyphens alone have been there. -/
  separated : Bool

namespace Progress

/-- No argument has been taken. -/
def start : Progress := ⟨.none, none, false⟩

/-- Whether a flag that has some values takes one more. -/
def wantsMore (f : Flag) (values : List String) : Bool := f = .input || values.isEmpty

/-- Set what the flag with collected values sets. -/
def settle (p : Progress) : Except Refusal Progress :=
  match p.pending with
  | none => .ok p
  | some (_, []) => .error .misuse
  | some (f, values) => do return { p with options := ← p.options.set f values, pending := none }

/-- Take a flag. -/
def takeFlag (p : Progress) (f : Flag) (attached : Option String) : Except Refusal Progress := do
  let p ← p.settle
  match f.takesValue, attached with
  | true, some v => return { p with options := ← p.options.set f [v] }
  | true, none => return { p with pending := some (f, []) }
  | false, some _ => .error .misuse
  | false, none => return { p with options := ← p.options.set f [] }

/-- Take a value. -/
def takeValue (p : Progress) (v : String) : Except Refusal Progress :=
  match p.pending with
  | some (f, values) =>
    if wantsMore f values then .ok { p with pending := some (f, values ++ [v]) }
    else .error .misuse
  | none => .error .misuse

/-- Take an argument. -/
def take (verb : Verb) (p : Progress) (s : String) : Except Refusal Progress :=
  if p.separated then .error .misuse
  else
    match Argument.ofString verb s with
    | .separator => .ok { p with separated := true }
    | .flag none _ => .error .misuse
    | .flag (some f) attached => p.takeFlag f attached
    | .value v => p.takeValue v

end Progress

/-- The action of a verb with the options that were set. -/
def Options.action (o : Options) : Verb → Action
  | .check => .check
  | .modules => .modules
  | .resolve => .resolve o.allModules o.out

/-- What the arguments after a verb ask for. -/
def invocationOf (verb : Verb) (arguments : List String) : Except Refusal Invocation := do
  let taken ← arguments.foldlM (Progress.take verb) .start
  let p ← taken.settle
  if p.options.inputs.roots.isEmpty then .error .misuse
  return ⟨p.options.action verb, p.options.inputs⟩

/-- Whether arguments ask for help on an action, on nothing more, or on help itself. -/
def isHelpTopic : List String → Bool
  | [] => true
  | [topic] => topic = "help" || (Verb.ofArgument? topic).isSome
  | _ => false

/-- Whether an argument in front of every verb asks for help. -/
def isHelpFlag (s : String) : Bool :=
  s = "--help" ||
    match s.toList with
    | '-' :: 'h' :: _ => true
    | _ => false

/-- What a command line asks for. -/
def Invocation.ofArguments : List String → Except Refusal Invocation
  | [] => .error .misuse
  | first :: rest =>
    match Verb.ofArgument? first with
    | some verb => invocationOf verb rest
    | none =>
      if isHelpFlag first then .error .help
      else if first = "help" && isHelpTopic rest then .error .help
      else .error .misuse

end IdlLink.Command
