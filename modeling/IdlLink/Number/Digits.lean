/-
Decimal digits of natural numbers, most significant first.

`ofDigits` reads a list of digits and `digits` writes the shortest one; `ofDigits_digits` says that
nothing is lost between the two.
-/

namespace IdlLink.Number

/-- The number that a list of digits reads as, after the number `start`. -/
def ofDigitsFrom (start : Nat) (ds : List Nat) : Nat := ds.foldl (fun acc d => acc * 10 + d) start

/-- The number that a list of digits reads as. -/
def ofDigits (ds : List Nat) : Nat := ofDigitsFrom 0 ds

/-- The digits of a number without leading zeros; zero has the one digit 0. -/
def digits (n : Nat) : List Nat :=
  if n < 10 then [n] else digits (n / 10) ++ [n % 10]
termination_by n
decreasing_by omega

/-- The character of a digit. -/
def digitChar (d : Nat) : Char := Char.ofNat (48 + d)

/-- A number in decimal characters. -/
def decimalChars (n : Nat) : List Char := (digits n).map digitChar

/-- A number in decimal. -/
def decimal (n : Nat) : String := String.ofList (decimalChars n)

/-- An integer in decimal, a negative one after a minus sign. -/
def decimalInt (i : Int) : String :=
  if i < 0 then "-" ++ decimal i.natAbs else decimal i.natAbs

/-! ### Reading back what was written -/

theorem ofDigits_append_singleton (ds : List Nat) (d : Nat) :
    ofDigits (ds ++ [d]) = ofDigits ds * 10 + d := by
  simp [ofDigits, ofDigitsFrom, List.foldl_append]

theorem ofDigits_digits (n : Nat) : ofDigits (digits n) = n := by
  induction n using Nat.strongRecOn with
  | ind n ih =>
    rw [digits]
    by_cases h : n < 10
    · rw [if_pos h]; simp [ofDigits, ofDigitsFrom]
    · rw [if_neg h, ofDigits_append_singleton, ih (n / 10) (by omega)]
      omega

theorem digits_lt_ten (n : Nat) : ∀ d ∈ digits n, d < 10 := by
  induction n using Nat.strongRecOn with
  | ind n ih =>
    intro d hd
    rw [digits] at hd
    by_cases h : n < 10
    · rw [if_pos h, List.mem_singleton] at hd; omega
    · rw [if_neg h, List.mem_append, List.mem_singleton] at hd
      rcases hd with hd | hd
      · exact ih (n / 10) (by omega) d hd
      · omega

end IdlLink.Number
