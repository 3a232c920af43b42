/-!
# Lexicon.Number.Binary64

Finite doubles in exact arithmetic.

A double is a sign, a mantissa below `2 ^ 53` and a power of two. Rounding a
quotient to the nearest double, ties to the even mantissa, is the one inexact
step; products and quotients of doubles are that rounding of the exact result.
-/

namespace Lexicon

/-- The finite double `± mantissa · 2 ^ exponent`. The mantissa is below `2 ^ 53`, and at
least `2 ^ 52` unless the exponent is the least one, `-1074`. -/
structure Binary64 where
  negative : Bool
  mantissa : Nat
  exponent : Int
deriving DecidableEq, Repr

namespace Binary64

/-- The least exponent: that of the subnormal doubles and of zero. -/
def leastExponent : Int := -1074

/-- The greatest exponent of a finite double. -/
def greatestExponent : Int := 971

/-- Positive zero. -/
def zero : Binary64 := ⟨false, 0, leastExponent⟩

/-- Whether the double is a zero of either sign. -/
def isZero (x : Binary64) : Bool := x.mantissa == 0

/-- The nearest integer to `num / den`; a half goes to the even neighbour. -/
def roundHalfEven (num den : Nat) : Nat :=
  let quotient := num / den
  let rest := 2 * (num % den)
  if rest < den then quotient
  else if den < rest then quotient + 1
  else quotient + quotient % 2

/-- The nearest integer to `num / (den · 2 ^ shift)`. -/
def roundShifted (num den : Nat) (shift : Int) : Nat :=
  if 0 ≤ shift then roundHalfEven num (den * Nat.pow 2 shift.toNat)
  else roundHalfEven (num * Nat.pow 2 (-shift).toNat) den

/-- Whether `num / (den · 2 ^ shift)` is at least `2 ^ 53`. -/
def needsWider (num den : Nat) (shift : Int) : Bool :=
  if 0 ≤ shift then decide (Nat.pow 2 53 * (den * Nat.pow 2 shift.toNat) ≤ num)
  else decide (Nat.pow 2 53 * den ≤ num * Nat.pow 2 (-shift).toNat)

/-- The double nearest to `± num / den`, and nothing when that is beyond the finite range. -/
def ofQuotient? (negative : Bool) (num den : Nat) : Option Binary64 :=
  if num = 0 then some ⟨negative, 0, leastExponent⟩
  else
    let estimate : Int := (num.log2 : Int) - (den.log2 : Int) - 53
    let wide := if needsWider num den estimate then estimate + 1 else estimate
    let exponent := max wide leastExponent
    let mantissa := roundShifted num den exponent
    let (mantissa, exponent) :=
      if mantissa = Nat.pow 2 53 then (Nat.pow 2 52, exponent + 1) else (mantissa, exponent)
    if greatestExponent < exponent then none else some ⟨negative, mantissa, exponent⟩

/-- The magnitude of a double as a quotient. -/
def toQuotient (x : Binary64) : Nat × Nat :=
  if 0 ≤ x.exponent then (x.mantissa * Nat.pow 2 x.exponent.toNat, 1)
  else (x.mantissa, Nat.pow 2 (-x.exponent).toNat)

/-- The product rounded to a double. -/
def mul? (x y : Binary64) : Option Binary64 :=
  let (a, b) := x.toQuotient
  let (c, d) := y.toQuotient
  ofQuotient? (x.negative != y.negative) (a * c) (b * d)

/-- The quotient rounded to a double. The divisor is not zero. -/
def div? (x y : Binary64) : Option Binary64 :=
  let (a, b) := x.toQuotient
  let (c, d) := y.toQuotient
  ofQuotient? (x.negative != y.negative) (a * d) (b * c)

/-- The double nearest to `10 ^ k`. -/
def tenPower? (k : Nat) : Option Binary64 := ofQuotient? false (Nat.pow 10 k) 1

/-- Divides by `10 ^ k`, in steps of at most `10 ^ 308`. -/
def divTenPower (x : Binary64) (k : Nat) : Option Binary64 :=
  if k ≤ 308 then do x.div? (← tenPower? k)
  else if x.isZero then some x
  else do divTenPower (← x.div? (← tenPower? 308)) (k - 308)
termination_by k

/-- Reads `± digits · 10 ^ exponent`: the digits are rounded first and the scaled value once
more. Nothing when the value is beyond the finite range. -/
def ofDigits? (negative : Bool) (digits : Nat) (exponent : Int) : Option Binary64 := do
  let x ← ofQuotient? false digits 1
  let scaled ←
    if exponent < 0 then x.divTenPower (-exponent).toNat
    else if x.isZero then some x
    else if 308 < exponent then none
    else x.mul? (← tenPower? exponent.toNat)
  some { scaled with negative }

end Binary64

end Lexicon
