/-
The strings of a document.

`Quoted.scan` finds where a string ends and keeps its inside undecoded: a place that skips a string
asks only for its end, while a place that wants its content also asks for paired surrogates and for
valid UTF-8. `Quoted.content` is the second, stricter reading.
-/
import IdlLink.Json.SyntaxError
import IdlLink.Text.Utf8

namespace IdlLink.Json

/-- Where a string breaks off: the text ends, a raw control character stands in it, a backslash is
followed by a letter without meaning, or the four places after `\u` are not hexadecimal. -/
inductive QuoteFault where
  | ended
  | control
  | escape
  | hex
  deriving DecidableEq, Repr

/-- A part of a string: a byte of its content, or a code unit spelled in hexadecimal. -/
inductive Piece where
  | byte (b : UInt8)
  | unit (code : Nat)
  deriving DecidableEq, Repr

/-- The inside of a string up to its closing quote, or up to where it breaks off. -/
structure Quoted where
  pieces : List Piece
  fault : Option QuoteFault
  deriving DecidableEq, Repr

/-- The value of a hexadecimal digit. -/
def hexValue (b : UInt8) : Option Nat :=
  let n := b.toNat
  if 48 ≤ n && n ≤ 57 then some (n - 48)
  else if 65 ≤ n && n ≤ 70 then some (n - 55)
  else if 97 ≤ n && n ≤ 102 then some (n - 87)
  else none

/-- The code unit of four hexadecimal digits. -/
def codeUnit (a b c d : UInt8) : Option Nat := do
  return (((← hexValue a) * 16 + (← hexValue b)) * 16 + (← hexValue c)) * 16 + (← hexValue d)

/-- The byte that a backslash with a letter other than `u` stands for. -/
def escapedByte (b : UInt8) : Option UInt8 :=
  if b = 0x22 then some 0x22
  else if b = 0x5C then some 0x5C
  else if b = 0x2F then some 0x2F
  else if b = 0x62 then some 0x08
  else if b = 0x66 then some 0x0C
  else if b = 0x6E then some 0x0A
  else if b = 0x72 then some 0x0D
  else if b = 0x74 then some 0x09
  else none

/-- Put a part in front of a string that was scanned further on. -/
def Quoted.after (p : Piece) (r : Quoted × List UInt8) : Quoted × List UInt8 :=
  (⟨p :: r.1.pieces, r.1.fault⟩, r.2)

/-- A string that breaks off at once; nothing of the text counts any more. -/
def Quoted.cut (f : QuoteFault) : Quoted × List UInt8 := (⟨[], some f⟩, [])

/-- Scan a string after its opening quote; the text after the closing quote is left over. -/
def Quoted.scan : List UInt8 → Quoted × List UInt8
  | [] => Quoted.cut .ended
  | 0x22 :: rest => (⟨[], none⟩, rest)
  -- four places make a code unit; with fewer left the text ends before any of them is judged
  | 0x5C :: 0x75 :: a :: b :: c :: d :: rest =>
    match codeUnit a b c d with
    | some code => Quoted.after (.unit code) (Quoted.scan rest)
    | none => Quoted.cut .hex
  | 0x5C :: 0x75 :: _ => Quoted.cut .ended
  | [0x5C] => Quoted.cut .ended
  | 0x5C :: e :: rest =>
    match escapedByte e with
    | some b => Quoted.after (.byte b) (Quoted.scan rest)
    | none => Quoted.cut .escape
  | b :: rest =>
    if b < 0x20 then Quoted.cut .control else Quoted.after (.byte b) (Quoted.scan rest)

/-- The error that a string's fault stands for. -/
def QuoteFault.error : QuoteFault → SyntaxError
  | .ended => .endInString
  | .control => .controlCharacter
  | .escape => .invalidEscape
  | .hex => .invalidEscape

/-- Whether a code unit is the first half of a pair. -/
def isHighSurrogate (u : Nat) : Bool := 0xD800 ≤ u && u ≤ 0xDBFF

/-- Whether a code unit is the second half of a pair. -/
def isLowSurrogate (u : Nat) : Bool := 0xDC00 ≤ u && u ≤ 0xDFFF

/-- The UTF-8 bytes of a code point. -/
def codePointBytes (n : Nat) : List UInt8 := String.utf8EncodeChar (Char.ofNat n)

/-- The bytes that parts stand for; a first half of a pair must be followed by a second half. -/
def Quoted.bytes (fault : Option QuoteFault) : List Piece → Except SyntaxError (List UInt8)
  | [] =>
    match fault with
    | none => .ok []
    | some f => .error f.error
  | .byte b :: rest => (b :: ·) <$> Quoted.bytes fault rest
  | .unit u :: .unit v :: rest =>
    if isLowSurrogate u then .error .loneSurrogate
    else if isHighSurrogate u then
      if isLowSurrogate v then
        (codePointBytes (0x10000 + (u - 0xD800) * 0x400 + (v - 0xDC00)) ++ ·)
          <$> Quoted.bytes fault rest
      else .error .loneSurrogate
    else (codePointBytes u ++ ·) <$> Quoted.bytes fault (.unit v :: rest)
  | .unit u :: rest =>
    -- no second code unit is there, and the place of one may be where the string breaks off
    if isLowSurrogate u then .error .loneSurrogate
    else if isHighSurrogate u then
      match rest, fault with
      | [], some .ended => .error .endInString
      | [], some .hex => .error .invalidEscape
      | _, _ => .error .endInEscape
    else (codePointBytes u ++ ·) <$> Quoted.bytes fault rest

/-- The text that bytes in UTF-8 spell. -/
def textOfBytes (bs : List UInt8) : Except SyntaxError String :=
  match Text.ofBytes? bs with
  | some s => .ok s
  | none => .error .invalidCodePoint

/-- The content of a string, or the first thing in it that rules a content out. -/
def Quoted.content (q : Quoted) : Except SyntaxError String := do
  textOfBytes (← Quoted.bytes q.fault q.pieces)

theorem Quoted.scan_length (bs : List UInt8) : (Quoted.scan bs).2.length ≤ bs.length := by
  fun_induction Quoted.scan bs <;> simp_all [Quoted.cut, Quoted.after] <;> omega

end IdlLink.Json
