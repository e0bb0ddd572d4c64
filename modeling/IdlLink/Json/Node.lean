/-
A document as far as its text goes.

A `Node` is what the text holds at one place. Lists and objects keep what stopped them short, so a
text that breaks off still has a node, and a reader of nodes that walks them in order meets every
fault where the text has it. `ofBytes` builds the node of the first value of a text and looks at
nothing after it; it runs one state per token with the open lists and objects on a stack.

What is wrong at a place depends on whether the value there is wanted or skipped over, and every
fault here carries both wordings: `reading` and `skipping`.
-/
import IdlLink.Json.Token

namespace IdlLink.Json

/-- What stops a list short. -/
inductive ListFault where
  /-- The text ends where an element or the end of the list is due. -/
  | ended
  /-- The text ends after a comma. -/
  | endedAfterComma
  /-- The list is closed after a comma. -/
  | trailingComma
  /-- Something else stands where a comma or the end of the list is due. -/
  | noComma
  deriving DecidableEq, Repr

/-- What stops an object short. -/
inductive ObjectFault where
  /-- The text ends where a member or the end of the object is due. -/
  | ended
  /-- The text ends after a comma. -/
  | endedAfterComma
  /-- The object is closed after a comma. -/
  | trailingComma
  /-- Something else stands where a comma or the end of the object is due. -/
  | noComma
  /-- Something else stands where a member's name is due. -/
  | keyNotString
  /-- A member's name breaks off. -/
  | key (name : Quoted)
  /-- No colon follows a member's name; the flag says whether the text ends there. -/
  | colon (name : Quoted) (atEnd : Bool)
  deriving DecidableEq, Repr

/-- What a text holds at one place. -/
inductive Node where
  /-- The text ends where a value is due. -/
  | missing
  /-- A character that starts no value. -/
  | unexpected
  | word (w : Word) (fault : Option WordFault)
  | numeral (n : Except NumeralFault Numeral)
  | quoted (q : Quoted)
  | list (items : List Node) (stop : Option ListFault)
  | object (members : List (Quoted × Node)) (stop : Option ObjectFault)

instance : Inhabited Node := ⟨.missing⟩

/-! ### Wording of faults -/

/-- The error of a list that is wanted for its elements. -/
def ListFault.reading : ListFault → SyntaxError
  | .ended => .endInList
  | .endedAfterComma => .endInValue
  | .trailingComma => .trailingComma
  | .noComma => .expectedListEnd

/-- The error of a list that is skipped over. -/
def ListFault.skipping : ListFault → SyntaxError
  | .ended => .endInList
  | .endedAfterComma => .endInValue
  | .trailingComma => .expectedValue
  | .noComma => .expectedListEnd

/-- The error of a list of fixed length after its last element. -/
def ListFault.closing : ListFault → SyntaxError
  | .ended => .endInList
  | .endedAfterComma => .trailingCharacters
  | .trailingComma => .trailingComma
  | .noComma => .trailingCharacters

/-- The error of a missing colon. -/
def colonError (atEnd : Bool) : SyntaxError := if atEnd then .endInObject else .expectedColon

/-- The error of a string that is skipped over. -/
def Quoted.skipping (q : Quoted) : Except SyntaxError Unit :=
  match q.fault with
  | none => .ok ()
  | some f => .error f.error

/-- The error of an object that is skipped over. -/
def ObjectFault.skipping : ObjectFault → SyntaxError
  | .ended => .endInObject
  | .endedAfterComma => .endInObject
  | .trailingComma => .keyNotString
  | .noComma => .expectedObjectEnd
  | .keyNotString => .keyNotString
  | .key q =>
    match q.fault with
    | some f => f.error
    | none => .endInString
  | .colon _ atEnd => colonError atEnd

/-! ### Skipping a value -/

mutual

/-- The first thing that rules out a value whose content does not matter. -/
def Node.skip : Node → Except SyntaxError Unit
  | .missing => .error .endInValue
  | .unexpected => .error .expectedValue
  | .word _ none => .ok ()
  | .word _ (some f) => .error f.error
  | .numeral (.ok _) => .ok ()
  | .numeral (.error _) => .error .invalidNumber
  | .quoted q => q.skipping
  | .list items stop => Node.skipItems stop items
  | .object members stop => Node.skipMembers stop members

/-- The first thing that rules out the elements of a list, or the list's own fault after them. -/
def Node.skipItems (stop : Option ListFault) : List Node → Except SyntaxError Unit
  | [] =>
    match stop with
    | none => .ok ()
    | some f => .error f.skipping
  | n :: rest => do
    n.skip
    Node.skipItems stop rest

/-- The first thing that rules out the members of an object, or the object's own fault after
them. -/
def Node.skipMembers (stop : Option ObjectFault) : List (Quoted × Node) → Except SyntaxError Unit
  | [] =>
    match stop with
    | none => .ok ()
    | some f => .error f.skipping
  | (k, n) :: rest => do
    k.skipping
    n.skip
    Node.skipMembers stop rest

end

/-! ### From tokens to a node -/

/-- A list or object that is open around the place that is read; what is done is kept last first. -/
inductive Frame where
  | list (done : List Node)
  | object (done : List (Quoted × Node)) (key : Quoted)

/-- What is due next, with the open lists and objects around it. -/
inductive State where
  | value (stack : List Frame)
  | firstItem (stack : List Frame)
  | nextItem (done : List Node) (stack : List Frame)
  | afterItem (done : List Node) (stack : List Frame)
  | firstKey (stack : List Frame)
  | nextKey (done : List (Quoted × Node)) (stack : List Frame)
  | colon (done : List (Quoted × Node)) (key : Quoted) (stack : List Frame)
  | afterMember (done : List (Quoted × Node)) (stack : List Frame)

/-- Either more is due, or the first value of the text is known. -/
inductive Progress where
  | more (s : State)
  | done (n : Node)

/-- The whole document when its innermost value is `n` and nothing follows. -/
def abandon (n : Node) : List Frame → Node
  | [] => n
  | .list done :: stack => abandon (.list (done.reverse ++ [n]) none) stack
  | .object done key :: stack => abandon (.object (done.reverse ++ [(key, n)]) none) stack

/-- Go on after a complete value. -/
def resume (n : Node) : List Frame → Progress
  | [] => .done n
  | .list done :: stack => .more (.afterItem (n :: done) stack)
  | .object done key :: stack => .more (.afterMember ((key, n) :: done) stack)

/-- Read the first token of a value. -/
def State.begin (stack : List Frame) : Token → Progress
  | .openList => .more (.firstItem stack)
  | .openObject => .more (.firstKey stack)
  | .word w none => resume (.word w none) stack
  | .word w (some f) => .done (abandon (.word w (some f)) stack)
  | .numeral (.ok n) => resume (.numeral (.ok n)) stack
  | .numeral (.error f) => .done (abandon (.numeral (.error f)) stack)
  | .quoted q =>
    if q.fault.isNone then resume (.quoted q) stack else .done (abandon (.quoted q) stack)
  | .closeList | .closeObject | .comma | .colon | .stray => .done (abandon .unexpected stack)

/-- An object that stops short. -/
def cutObject (done : List (Quoted × Node)) (f : ObjectFault) (stack : List Frame) : Node :=
  abandon (.object done.reverse (some f)) stack

/-- A list that stops short. -/
def cutList (done : List Node) (f : ListFault) (stack : List Frame) : Node :=
  abandon (.list done.reverse (some f)) stack

/-- Read the name of a member. -/
def State.name (done : List (Quoted × Node)) (stack : List Frame) (q : Quoted) : Progress :=
  if q.fault.isNone then .more (.colon done q stack) else .done (cutObject done (.key q) stack)

/-- Read one token. -/
def State.step : State → Token → Progress
  | .value stack, t => State.begin stack t
  | .firstItem stack, .closeList => resume (.list [] none) stack
  | .firstItem stack, t => State.begin (.list [] :: stack) t
  | .nextItem done stack, .closeList => .done (cutList done .trailingComma stack)
  | .nextItem done stack, t => State.begin (.list done :: stack) t
  | .afterItem done stack, .comma => .more (.nextItem done stack)
  | .afterItem done stack, .closeList => resume (.list done.reverse none) stack
  | .afterItem done stack, _ => .done (cutList done .noComma stack)
  | .firstKey stack, .closeObject => resume (.object [] none) stack
  | .firstKey stack, .quoted q => State.name [] stack q
  | .firstKey stack, _ => .done (cutObject [] .keyNotString stack)
  | .nextKey done stack, .closeObject => .done (cutObject done .trailingComma stack)
  | .nextKey done stack, .quoted q => State.name done stack q
  | .nextKey done stack, _ => .done (cutObject done .keyNotString stack)
  | .colon done key stack, .colon => .more (.value (.object done key :: stack))
  | .colon done key stack, _ => .done (cutObject done (.colon key false) stack)
  | .afterMember done stack, .comma => .more (.nextKey done stack)
  | .afterMember done stack, .closeObject => resume (.object done.reverse none) stack
  | .afterMember done stack, _ => .done (cutObject done .noComma stack)

/-- The document of a text that ends here. -/
def State.ended : State → Node
  | .value stack => abandon .missing stack
  | .firstItem stack => cutList [] .ended stack
  | .nextItem done stack => cutList done .endedAfterComma stack
  | .afterItem done stack => cutList done .ended stack
  | .firstKey stack => cutObject [] .ended stack
  | .nextKey done stack => cutObject done .endedAfterComma stack
  | .colon done key stack => cutObject done (.colon key true) stack
  | .afterMember done stack => cutObject done .ended stack

/-- Read tokens until the first value is known. -/
def run : State → List Token → Node
  | s, [] => s.ended
  | s, t :: rest =>
    match s.step t with
    | .more s' => run s' rest
    | .done n => n

/-- The first value of a text. -/
def Node.ofBytes (bs : List UInt8) : Node := run (.value []) (lex bs)

/-- The first value of a text in characters. -/
def Node.ofString (s : String) : Node := Node.ofBytes (Text.toBytes s)

end IdlLink.Json
