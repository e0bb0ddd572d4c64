/-
Double-precision numbers as their 64 bits, with exact arithmetic on what the bits stand for.

A finite double stands for `significand * 2 ^ exponent` up to its sign. `ofRatio` rounds a quotient
of natural numbers to the nearest double, a tie to the even one, and refuses what lies beyond the
largest. Everything a document can spell goes through this one rounding, so the program needs no
arithmetic that a proof cannot see.
-/

namespace IdlLink.Number

/-- A double, as the word that stores it. -/
structure Binary64 where
  bits : UInt64
  deriving DecidableEq, Repr, Inhabited

namespace Binary64

/-- The least exponent, that of the smallest positive double. -/
def minExponent : Int := -1074

/-- The field value of infinities, one past the largest exponent field of a finite double. -/
def infiniteField : Nat := 2047

/-- Whether the sign bit is set. -/
def isNegative (x : Binary64) : Bool := x.bits.toNat / Nat.pow 2 63 == 1

/-- The exponent field. -/
def field (x : Binary64) : Nat := x.bits.toNat / Nat.pow 2 52 % Nat.pow 2 11

/-- The fraction field. -/
def fraction (x : Binary64) : Nat := x.bits.toNat % Nat.pow 2 52

/-- The integer that the power of two scales. -/
def significand (x : Binary64) : Nat :=
  if x.field = 0 then x.fraction else x.fraction + Nat.pow 2 52

/-- The exponent of the power of two. -/
def exponent (x : Binary64) : Int :=
  if x.field = 0 then minExponent else (x.field : Int) - 1075

/-- Whether the value is zero, of either sign. -/
def isZero (x : Binary64) : Bool := x.significand == 0

/-- The magnitude as a quotient of natural numbers. -/
def toRatio (x : Binary64) : Nat × Nat :=
  (x.significand * Nat.pow 2 x.exponent.toNat, Nat.pow 2 (-x.exponent).toNat)

/-- A quotient rounded to the nearest integer, a tie to the even one. -/
def roundQuotient (num den : Nat) : Nat :=
  let q := num / den
  let r := 2 * (num % den)
  if den < r || (r == den && q % 2 == 1) then q + 1 else q

/-- A power of two scaled into a quotient. -/
def scaleDown (num den : Nat) (e : Int) : Nat × Nat :=
  (num * Nat.pow 2 (-e).toNat, den * Nat.pow 2 e.toNat)

/-- The exponent of the leading binary digit of a positive quotient. -/
def leadingExponent (num den : Nat) : Int :=
  let guess : Int := (num.log2 : Int) - den.log2
  let scaled := scaleDown num den guess
  if scaled.1 < scaled.2 then guess - 1 else guess

/-- The word without its sign for a quotient, or nothing when it rounds past the largest double. -/
def magnitudeBits (num den : Nat) : Option Nat :=
  if num = 0 then some 0
  else
    let e := max (leadingExponent num den - 52) minExponent
    let scaled := scaleDown num den e
    let word := (e - minExponent).toNat * Nat.pow 2 52 + roundQuotient scaled.1 scaled.2
    if word < infiniteField * Nat.pow 2 52 then some word else none

/-- The double nearest to a quotient with a sign; nothing when the magnitude is too large. -/
def ofRatio (negative : Bool) (num den : Nat) : Option Binary64 :=
  (magnitudeBits num den).map fun word =>
    ⟨UInt64.ofNat (if negative then Nat.pow 2 63 + word else word)⟩

/-- The zero of a sign. -/
def zero (negative : Bool) : Binary64 := ⟨if negative then 0x8000000000000000 else 0⟩

/-- The double nearest to a natural number; numbers of up to 64 bits are never too large. -/
def ofNat (negative : Bool) (n : Nat) : Binary64 := (ofRatio negative n 1).getD (zero negative)

/-- The double nearest to the product of two doubles. -/
def multiply (x : Binary64) (y : Binary64) : Option Binary64 :=
  let a := x.toRatio
  let b := y.toRatio
  ofRatio x.isNegative (a.1 * b.1) (a.2 * b.2)

/-- The double nearest to the quotient of two doubles, the second not zero. -/
def divide (x : Binary64) (y : Binary64) : Option Binary64 :=
  let a := x.toRatio
  let b := y.toRatio
  ofRatio x.isNegative (a.1 * b.2) (a.2 * b.1)

/-- The double nearest to a power of ten. -/
def tenPower (n : Nat) : Binary64 := ofNat false (Nat.pow 10 n)

/-- The largest power of ten that a double can hold. -/
def maxTenPower : Nat := 308

end Binary64

end IdlLink.Number
