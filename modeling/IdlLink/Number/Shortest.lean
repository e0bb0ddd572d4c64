/-
The fewest decimal digits that identify a double.

A decimal identifies a double when it lies in the interval of reals that round to it. For one digit,
two digits and so on up to seventeen, `shortest` looks at the two neighbours of the exact value on
the decimal grid with that many digits and takes the first grid on which one of them identifies the
double; of two that do, the nearer one, and of two equally near the even one.
-/
import IdlLink.Number.Binary64
import IdlLink.Number.Digits

namespace IdlLink.Number

/-- A decimal: `coefficient * 10 ^ exponent`. -/
structure Decimal where
  coefficient : Nat
  exponent : Int
  deriving DecidableEq, Repr

/-- The reals that round to a positive double, over one denominator. -/
structure RoundingInterval where
  low : Nat
  value : Nat
  high : Nat
  denominator : Nat
  /-- Whether the two ends round to the double as well. -/
  closed : Bool

/-- The rounding interval of a double that is not zero. Below a power of two the neighbours lie at
half the distance. -/
def Binary64.interval (x : Binary64) : RoundingInterval :=
  let m := x.significand
  let lowGap := if m = Nat.pow 2 52 && 1 < x.field then 1 else 2
  let up := Nat.pow 2 (x.exponent - 2).toNat
  { low := (4 * m - lowGap) * up
    value := 4 * m * up
    high := (4 * m + 2) * up
    denominator := Nat.pow 2 (2 - x.exponent).toNat
    closed := m % 2 == 0 }

/-- Whether a decimal lies in the interval. -/
def RoundingInterval.holds (r : RoundingInterval) (d : Decimal) : Bool :=
  let point := d.coefficient * Nat.pow 10 d.exponent.toNat * r.denominator
  let unit := Nat.pow 10 (-d.exponent).toNat
  if r.closed then r.low * unit ≤ point && point ≤ r.high * unit
  else r.low * unit < point && point < r.high * unit

/-- The exponent of the leading decimal digit of a positive quotient. -/
def leadingTenExponent (num den : Nat) : Int :=
  if den ≤ num then ((digits (num / den)).length : Int) - 1
  else -((digits ((den + num - 1) / num - 1)).length : Int)

/-- The decimal with `n` digits that identifies the double and lies nearest to it, if any does. -/
def RoundingInterval.nearest? (r : RoundingInterval) (n : Nat) : Option Decimal :=
  let k := leadingTenExponent r.value r.denominator - n + 1
  let num := r.value * Nat.pow 10 (-k).toNat
  let den := r.denominator * Nat.pow 10 k.toNat
  let below : Decimal := ⟨num / den, k⟩
  let above : Decimal := ⟨num / den + 1, k⟩
  match r.holds below, r.holds above with
  | false, false => none
  | true, false => some below
  | false, true => some above
  | true, true =>
    let twice := 2 * (num % den)
    if twice < den || (twice == den && below.coefficient % 2 == 0) then some below else some above

/-- The shortest decimal that identifies a double that is not zero. -/
def Binary64.shortest (x : Binary64) : Decimal :=
  let r := x.interval
  ((List.range 17).findSome? fun i => r.nearest? (i + 1)).getD ⟨x.significand, x.exponent⟩

/-- The digits of a decimal without trailing zeros. -/
def Decimal.digits (d : Decimal) : List Nat :=
  ((Number.digits d.coefficient).reverse.dropWhile (· == 0)).reverse

/-- The exponent of the leading digit of a decimal. -/
def Decimal.leading (d : Decimal) : Int :=
  d.exponent + (Number.digits d.coefficient).length - 1

end IdlLink.Number
