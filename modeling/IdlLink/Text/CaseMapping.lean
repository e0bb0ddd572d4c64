/-
Full Unicode case mapping.

`upperChar` and `lowerChar` give the mapped form of one character, which may have several
characters (a sharp s has the upper-case form SS). `lower` maps a whole text and honours the one
mapping that depends on its surroundings: a capital sigma that ends a word becomes the final form.
-/
import IdlLink.Text.CaseTable

namespace IdlLink.Text

/-- The mapping that a table of runs and a table of expansions describe; a character in neither
maps to itself. -/
def mapWith (runs : List CaseRun) (expansions : List (Nat × List Nat)) (c : Char) : List Char :=
  match expansions.find? fun e => e.1 == c.toNat with
  | some e => e.2.map Char.ofNat
  | none =>
    match runs.find? fun r => r.covers c.toNat with
    | some r => [Char.ofNat (r.image c.toNat)]
    | none => [c]

/-- The upper-case form of a character. -/
def upperChar (c : Char) : List Char := mapWith upperRuns upperExpansions c

/-- The lower-case form of a character on its own. -/
def lowerChar (c : Char) : List Char := mapWith lowerRuns lowerExpansions c

/-- Whether the nearest character that the search does not pass over is a letter with case. -/
def casedAhead (cs : List Char) : Bool :=
  match cs.dropWhile fun c => inRanges caseIgnorableRanges c.toNat with
  | [] => false
  | c :: _ => inRanges casedRanges c.toNat

/-- The capital letter sigma. -/
def capitalSigma : Char := Char.ofNat 0x3A3

/-- The lower-case form of a capital sigma: the final form when a cased letter stands before it and
none after it. `before` holds the characters in front, nearest first. -/
def lowerSigma (before after : List Char) : Char :=
  if casedAhead before && !casedAhead after then Char.ofNat 0x3C2 else Char.ofNat 0x3C3

/-- Lower-case a text whose characters in front are `before`, nearest first. -/
def lowerFrom (before : List Char) : List Char → List Char
  | [] => []
  | c :: rest =>
    (if c = capitalSigma then [lowerSigma before rest] else lowerChar c)
      ++ lowerFrom (c :: before) rest

/-- The lower-case form of a text. -/
def lower (s : String) : String := String.ofList (lowerFrom [] s.toList)

end IdlLink.Text
