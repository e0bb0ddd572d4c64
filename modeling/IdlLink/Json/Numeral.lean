/-
Numbers of a document: how they are spelled, what a spelling stands for, and how a double is written.

A spelling without fraction and exponent stands for an integer as long as 64 bits hold it, and every
other one for a double. A double is computed from the digits in two steps with one rounding each:
the digits that fit 64 bits are taken as an integer and rounded to a double, which is then scaled by
a power of ten. Minus zero has no integer and is the double of that name.
-/
import IdlLink.Number.Shortest

namespace IdlLink.Json

open IdlLink.Number

/-- The spelling of a number, digit by digit. -/
structure Numeral where
  negative : Bool
  /-- The digits in front of the point. -/
  whole : List Nat
  /-- The digits after the point, if there is one. -/
  fraction : Option (List Nat)
  /-- The exponent, if there is one: whether it is negative, and its digits. -/
  exponent : Option (Bool × List Nat)
  deriving DecidableEq, Repr

/-- What a number stands for. -/
inductive Number where
  | integer (i : Int)
  | real (x : Binary64)
  deriving DecidableEq, Repr

/-- The largest unsigned integer of 64 bits. -/
def maxUnsigned : Nat := Nat.pow 2 64 - 1

/-- The largest exponent that is taken at its value. -/
def maxExponent : Nat := Nat.pow 2 31 - 1

/-- Extend a number by digits as long as the result fits 64 bits; the digits left over follow. -/
def absorb (acc : Nat) : List Nat → Nat × List Nat
  | [] => (acc, [])
  | d :: rest => if acc * 10 + d ≤ maxUnsigned then absorb (acc * 10 + d) rest else (acc, d :: rest)

/-- Divide a double by a power of ten, after `steps` divisions by the largest power that a double can
hold. -/
def divideInSteps : Nat → Binary64 → Nat → Option Binary64
  | 0, x, n => x.divide (.tenPower n)
  | steps + 1, x, n =>
    if x.isZero then some x
    else (x.divide (.tenPower Binary64.maxTenPower)).bind fun y =>
      divideInSteps steps y (n - Binary64.maxTenPower)

/-- Divide a double by a power of ten, three hundred and eight places at a time. -/
def divideByTens (x : Binary64) (n : Nat) : Option Binary64 :=
  divideInSteps ((n - 1) / Binary64.maxTenPower) x n

/-- A double scaled by a power of ten; nothing when the result is too large. -/
def scaleByTens (x : Binary64) (e : Int) : Option Binary64 :=
  if e < 0 then divideByTens x (-e).toNat
  else if e.toNat ≤ Binary64.maxTenPower then x.multiply (.tenPower e.toNat)
  else if x.isZero then some x
  else none

/-- The integer of some digits if 64 bits hold it, and otherwise the double nearest to it. -/
def wholeValue (negative : Bool) (n : Nat) : Number :=
  if !negative then .integer n
  else if 1 ≤ n && n ≤ Nat.pow 2 63 then .integer (-(n : Int))
  else .real (.ofNat true n)

/-- What a spelling stands for; nothing when its magnitude is too large for a double. -/
def Numeral.value (n : Numeral) : Option Number :=
  let (lead, spilled) := absorb 0 n.whole
  let places := n.fraction.getD []
  let (significand, unread) := absorb lead places
  let shift : Int := (spilled.length : Int) - ((places.length : Int) - unread.length)
  let start := Binary64.ofNat n.negative significand
  match n.exponent with
  | none =>
    if n.fraction.isNone && spilled.isEmpty then some (wholeValue n.negative lead)
    else (scaleByTens start shift).map .real
  | some (down, ds) =>
    let e := ofDigits ds
    if maxExponent < e then
      if significand != 0 && !down then none else some (.real (.zero n.negative))
    else (scaleByTens start (if down then shift - e else shift + e)).map .real

/-! ### The text of a double -/

/-- Digits with a point after the first `n` of them, with zeros filled in on either side. -/
def pointed (ds : List Nat) (n : Int) : List Char :=
  let cs := ds.map digitChar
  if n ≤ 0 then '0' :: '.' :: List.replicate (-n).toNat '0' ++ cs
  else if cs.length ≤ n.toNat then
    cs ++ List.replicate (n.toNat - cs.length) '0' ++ ['.', '0']
  else cs.take n.toNat ++ '.' :: cs.drop n.toNat

/-- Digits with a point after the first one and an exponent. -/
def scientific (ds : List Nat) (e : Int) : List Char :=
  let sign := if e < 0 then '-' else '+'
  let body := match ds.map digitChar with
    | [] => ['0']
    | [c] => [c]
    | c :: rest => c :: '.' :: rest
  body ++ 'e' :: sign :: decimalChars e.natAbs

/-- The text of a finite double: its shortest digits, with a point when the leading digit stands for
a power of ten from the minus fifth to the fifteenth, and otherwise with an exponent. -/
def realText (x : Binary64) : String :=
  let sign := if x.isNegative then ['-'] else []
  let body :=
    if x.isZero then ['0', '.', '0']
    else
      let d := x.shortest
      if -5 ≤ d.leading && d.leading ≤ 15 then pointed d.digits (d.leading + 1)
      else scientific d.digits d.leading
  String.ofList (sign ++ body)

end IdlLink.Json
