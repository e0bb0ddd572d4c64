/-
Patterns for paths.

In a component of a path `?` stands for one character, `*` for any characters, `[ab]` and `[a-z]` for
one character of a set and `[!ab]` for one outside of it. A component `**` stands for any number of
directories. A pattern is checked as a whole first, so that a fault is placed in the whole text, and
then component by component: a set that a separator interrupts is a fault of its component.

What the elements of a component stand for is `standsFor`; `matchName` finds it out in one pass over
the name per element (`matchName_eq_standsFor`).
-/
import IdlLink.Number.Digits

namespace IdlLink

/-- What is wrong with a pattern. -/
inductive PatternFault where
  /-- More than two stars in a row. -/
  | stars
  /-- Two stars that are not a component of their own. -/
  | partialDepth
  /-- A set that is not closed. -/
  | openSet
  deriving DecidableEq, Repr

/-- A fault of a pattern and the position, in characters, where it was found. -/
structure PatternError where
  position : Nat
  fault : PatternFault
  deriving DecidableEq, Repr

/-- The wording of a fault. -/
def PatternFault.message : PatternFault → String
  | stars => "wildcards are either regular `*` or recursive `**`"
  | partialDepth => "recursive wildcards must form a single path component"
  | openSet => "invalid range pattern"

/-- The wording of an error. -/
def PatternError.message (e : PatternError) : String :=
  "Pattern syntax error near position " ++ Number.decimal e.position ++ ": " ++ e.fault.message

/-- Characters of a set: those from one to another. -/
structure CharSpan where
  first : Char
  last : Char
  deriving DecidableEq, Repr

/-- One element of a component. -/
inductive Wildcard where
  | char (c : Char)
  | anyChar
  | anyText
  | oneOf (spans : List CharSpan)
  | noneOf (spans : List CharSpan)
  /-- Any number of directories. -/
  | anyDepth
  deriving DecidableEq, Repr

namespace Wildcard

/-! ### Reading -/

/-- The spans of a set; a character with a hyphen and another one after it starts a span. -/
def spans : List Char → List CharSpan
  | a :: '-' :: b :: rest => ⟨a, b⟩ :: spans rest
  | a :: rest => ⟨a, a⟩ :: spans rest
  | [] => []

/-- The characters up to a closing bracket; the first one belongs to the set whatever it is. -/
def setChars : List Char → Option (List Char)
  | [] => none
  | first :: rest => if ']' ∈ rest then some (first :: rest.takeWhile (· ≠ ']')) else none

/-- The set after an opening bracket, with the number of characters that it takes. -/
def readSet : List Char → Option (Wildcard × Nat)
  | '!' :: rest => (setChars rest).map fun cs => (.noneOf (spans cs), cs.length + 2)
  | rest => (setChars rest).map fun cs => (.oneOf (spans cs), cs.length + 1)

/-- The stars at position `at` after the first one, with the number of characters that they take.
`atStart` says that they start a component. -/
def readStars (position : Nat) (atStart : Bool) (rest : List Char) :
    Except PatternError (Wildcard × Nat) :=
  match rest with
  | '*' :: '*' :: _ => .error ⟨position + 2, .stars⟩
  | '*' :: after =>
    if atStart then
      match after with
      | [] => .ok (.anyDepth, 1)
      | '/' :: _ => .ok (.anyDepth, 2)
      | _ => .error ⟨position + 2, .partialDepth⟩
    else .error ⟨position - 1, .partialDepth⟩
  | _ => .ok (.anyText, 0)

/-- The element that starts with a character, with the number of further characters that it
takes. -/
def readOne (position : Nat) (atStart : Bool) (c : Char) (rest : List Char) :
    Except PatternError (Wildcard × Nat) :=
  match c with
  | '?' => .ok (.anyChar, 0)
  | '*' => readStars position atStart rest
  | '[' =>
    match readSet rest with
    | some r => .ok r
    | none => .error ⟨position, .openSet⟩
  | c => .ok (.char c, 0)

/-- The elements of a text that starts at a position. -/
def readFrom (position : Nat) (atStart : Bool) :
    List Char → Except PatternError (List Wildcard)
  | [] => .ok []
  | c :: rest => do
    let (w, n) ← readOne position atStart c rest
    let ws ← readFrom (position + 1 + n) ((c :: rest)[n]? == some '/') (rest.drop n)
    return w :: ws
termination_by cs => cs.length
decreasing_by simp only [List.length_drop, List.length_cons]; omega

/-- The elements of a text. -/
def readAll (cs : List Char) : Except PatternError (List Wildcard) := readFrom 0 true cs

/-! ### Matching -/

/-- Whether a character is in one of some spans. -/
def inSpans (c : Char) (spans : List CharSpan) : Bool :=
  spans.any fun s => s.first ≤ c && c ≤ s.last

/-- Whether an element stands for one character. -/
def accepts (c : Char) : Wildcard → Bool
  | .char d => c = d
  | .anyChar => true
  | .oneOf spans => inSpans c spans
  | .noneOf spans => !inSpans c spans
  | .anyText => false
  | .anyDepth => false

/-- Whether elements stand for a text as a whole: a star takes nothing or one more character. -/
def standsFor : List Wildcard → List Char → Bool
  | [], cs => cs.isEmpty
  | .anyText :: ws, [] => standsFor ws []
  | .anyText :: ws, c :: cs => standsFor ws (c :: cs) || standsFor (.anyText :: ws) cs
  | _ :: _, [] => false
  | w :: ws, c :: cs => w.accepts c && standsFor ws cs
termination_by ws cs => (ws.length, cs.length)

/-! ### One answer for every rest of a name

`standsFor` asks the same question again whenever two stars divide a text between them, and its cost
grows with the number of ways to do so. `matchRests` answers for all rests of a name at once, the
whole name first and the empty rest last, and goes through the name once for every element. -/

/-- The answers for a star in front of elements with the given answers: it may take any number of
characters, so the answer for any shorter rest will do. -/
def skipRests : List Bool → List Bool
  | [] => []
  | b :: bs =>
    let shorter := skipRests bs
    (b || shorter.headD false) :: shorter

/-- The answers for one character in front of elements with the given answers. -/
def takeRests (w : Wildcard) : List Char → List Bool → List Bool
  | c :: cs, _ :: bs => (w.accepts c && bs.headD false) :: takeRests w cs bs
  | _, _ => [false]

/-- Whether elements stand for a name, for each of its rests. -/
def matchRests : List Wildcard → List Char → List Bool
  | [], cs => cs.map (fun _ => false) ++ [true]
  | .anyText :: ws, cs => skipRests (matchRests ws cs)
  | w :: ws, cs => takeRests w cs (matchRests ws cs)

/-- Whether elements stand for a name as a whole. -/
def matchName (ws : List Wildcard) (cs : List Char) : Bool := (matchRests ws cs).headD false

theorem matchRests_nil (ws : List Wildcard) : matchRests ws [] = [standsFor ws []] := by
  induction ws with
  | nil => simp [matchRests, standsFor]
  | cons w ws ih => cases w <;> simp [matchRests, standsFor, skipRests, takeRests, ih]

theorem matchRests_cons (ws : List Wildcard) (c : Char) (cs : List Char) :
    matchRests ws (c :: cs) = standsFor ws (c :: cs) :: matchRests ws cs := by
  induction ws generalizing c cs with
  | nil => simp [matchRests, standsFor]
  | cons w ws ih =>
    have hhead : ∀ ds, (matchRests ws ds).headD false = standsFor ws ds := by
      rintro (_ | ⟨d, ds⟩)
      · simp [matchRests_nil]
      · simp [ih]
    cases w
    case anyText =>
      -- a star before a shorter rest is the same question about a shorter name
      have hskip : ∀ ds, (skipRests (matchRests ws ds)).headD false
          = standsFor (.anyText :: ws) ds := by
        intro ds
        induction ds with
        | nil => simp [matchRests_nil, skipRests, standsFor]
        | cons d ds ihd => simp only [ih, skipRests, List.headD_cons, ihd, standsFor]
      simp only [matchRests, ih, skipRests, hskip, standsFor]
    all_goals simp only [matchRests, ih, takeRests, hhead, standsFor]

/-- Answering for all rests at once changes no answer. -/
theorem matchName_eq_standsFor (ws : List Wildcard) (cs : List Char) :
    matchName ws cs = standsFor ws cs := by
  cases cs with
  | nil => simp [matchName, matchRests_nil]
  | cons c cs => simp [matchName, matchRests_cons]

end Wildcard

/-! ### Whole patterns -/

/-- One component of a pattern. -/
inductive PatternPart where
  /-- A name that stands for itself. -/
  | literal (name : String)
  | wild (ws : List Wildcard)
  /-- Any number of directories. -/
  | anyDepth
  deriving DecidableEq, Repr

/-- A pattern for paths. -/
structure Pattern where
  /-- Whether it starts at the root. -/
  absolute : Bool
  parts : List PatternPart
  /-- Whether it ends in a separator and so stands for directories only. -/
  directoriesOnly : Bool
  deriving DecidableEq, Repr

/-- The characters of elements that all stand for themselves. -/
def Wildcard.literal? : List Wildcard → Option (List Char)
  | [] => some []
  | .char c :: ws => (Wildcard.literal? ws).map (c :: ·)
  | _ => none

/-- A component of the elements that it consists of. -/
def PatternPart.ofWildcards (ws : List Wildcard) : PatternPart :=
  if ws = [.anyDepth] then .anyDepth
  else
    match Wildcard.literal? ws with
    | some cs => .literal (String.ofList cs)
    | none => .wild ws

/-- Components without those that repeat `anyDepth`. -/
def collapseDepth : List PatternPart → List PatternPart
  | .anyDepth :: .anyDepth :: rest => collapseDepth (.anyDepth :: rest)
  | p :: rest => p :: collapseDepth rest
  | [] => []

namespace Pattern

/-- Whether a path has to be read as a pattern. -/
def isPattern (s : String) : Bool := s.toList.any fun c => c = '*' || c = '?' || c = '[' || c = '{'

/-- The texts between separators; a separator at the end ends the last one. -/
def componentTexts (cs : List Char) : List (List Char) :=
  let all := cs.splitOn '/'
  if all.getLast? = some [] then all.dropLast else all

/-- The pattern of a text. -/
def ofString (s : String) : Except PatternError Pattern := do
  let cs := s.toList
  let _ ← Wildcard.readAll cs
  let absolute := cs.head? == some '/'
  let parts ← (componentTexts (if absolute then cs.drop 1 else cs)).mapM fun text => do
    return PatternPart.ofWildcards (← Wildcard.readAll text)
  return ⟨absolute, collapseDepth parts, cs.getLast? == some '/'⟩

end Pattern

end IdlLink
