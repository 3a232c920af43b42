import Lexicon.Number.Binary64

/-!
# Lexicon.Number.Shortest

The shortest decimal text of a double.

For one digit, two digits and so on, the two decimals of that length next to
the value are tested; the first length with a decimal that rounds back to the
double wins, and of two such decimals the nearer one.
-/

namespace Lexicon

namespace Binary64

/-- The number of decimal digits of a positive number. -/
def digitCount (n : Nat) : Nat := (Nat.repr n).length

/-- The reals that round to a double, scaled to integers: the value is `centre / unit`, and the
interval reaches `below / unit` under it and `above / unit` over it. -/
structure Rounding where
  centre : Nat
  below : Nat
  above : Nat
  unit : Nat
  closed : Bool

/-- The rounding interval of a double that is not zero. The lower half is narrower at a power
of two. -/
def rounding (x : Binary64) : Rounding :=
  let narrow := x.mantissa == Nat.pow 2 52 && x.exponent != leastExponent
  let scale := x.exponent - 2
  let (up, unit) :=
    if 0 ≤ scale then (Nat.pow 2 scale.toNat, 1) else (1, Nat.pow 2 (-scale).toNat)
  { centre := 4 * x.mantissa * up
    below := (if narrow then 1 else 2) * up
    above := 2 * up
    unit := unit
    closed := x.mantissa % 2 == 0 }

/-- Whether the decimal `candidate / step`, on the scale of the interval, rounds to the double. -/
def Rounding.accepts (r : Rounding) (candidate step : Nat) : Bool :=
  let value := r.centre * step
  let low := value - r.below * step
  let high := value + r.above * step
  if r.closed then decide (low ≤ candidate ∧ candidate ≤ high)
  else decide (low < candidate ∧ candidate < high)

/-- The best decimal `digits · 10 ^ power` on the grid of step `10 ^ power`, if one of the two
neighbours of the value rounds to the double. -/
def Rounding.onGrid? (r : Rounding) (power : Int) : Option Nat :=
  -- Everything is multiplied by `r.unit` and by `step`, so that the grid is made of integers.
  let (gridUnit, step) :=
    if 0 ≤ power then (Nat.pow 10 power.toNat * r.unit, 1)
    else (r.unit, Nat.pow 10 (-power).toNat)
  let value := r.centre * step
  let lower := value / gridUnit
  let upper := lower + 1
  let lowerFits := lower != 0 && r.accepts (lower * gridUnit) step
  let upperFits := r.accepts (upper * gridUnit) step
  if lowerFits && upperFits then
    let fromLower := value - lower * gridUnit
    let fromUpper := upper * gridUnit - value
    if fromLower < fromUpper then some lower
    else if fromUpper < fromLower then some upper
    else some (if lower % 2 == 0 then lower else upper)
  else if lowerFits then some lower
  else if upperFits then some upper
  else none

/-- Drops trailing zeros of the digits and raises the power instead. -/
def trimZeros (digits : Nat) (power : Int) : Nat × Int :=
  if digits != 0 && digits % 10 == 0 then trimZeros (digits / 10) (power + 1)
  else (digits, power)
termination_by digits
decreasing_by
  rename_i h
  simp only [Bool.and_eq_true, bne_iff_ne, ne_eq] at h
  omega

/-- The power of ten of the leading digit of the value. -/
def leadingPower (x : Binary64) : Int :=
  let (num, den) := x.toQuotient
  let guess : Int := (digitCount num : Int) - (digitCount den : Int)
  -- The value is at least `10 ^ guess`, or the leading digit is one place lower.
  let reaches :=
    if 0 ≤ guess then decide (den * Nat.pow 10 guess.toNat ≤ num)
    else decide (den ≤ num * Nat.pow 10 (-guess).toNat)
  if reaches then guess else guess - 1

/-- The shortest decimal `digits · 10 ^ power` that rounds to a double that is not zero. -/
def shortest (x : Binary64) : Nat × Int :=
  let r := x.rounding
  let leading := x.leadingPower
  let found := (List.range 17).findSome? fun (n : Nat) =>
    let power := leading - (n : Int)
    (r.onGrid? power).map fun digits => (digits, power)
  let (digits, power) := found.getD (x.mantissa, 0)
  trimZeros digits power

/-- A run of zeros. -/
def zeros (n : Nat) : String := String.ofList (List.replicate n '0')

/-- The text of a double in a JSON document: positional with at least one decimal place when
the leading digit stands between `10 ^ -5` and `10 ^ 15`, with an exponent otherwise. -/
def text (x : Binary64) : String :=
  let sign := if x.negative then "-" else ""
  if x.isZero then sign ++ "0.0"
  else
    let (digits, power) := x.shortest
    let shown := Nat.repr digits
    let length : Int := shown.length
    let point := length + power
    sign ++
      if 0 ≤ power && point ≤ 16 then shown ++ zeros power.toNat ++ ".0"
      else if 0 < point && point ≤ 16 then
        String.ofList (shown.toList.take point.toNat) ++ "." ++
          String.ofList (shown.toList.drop point.toNat)
      else if -5 < point && point ≤ 0 then "0." ++ zeros (-point).toNat ++ shown
      else
        let tail := shown.toList.drop 1
        String.ofList (shown.toList.take 1) ++
          (if tail.isEmpty then "" else "." ++ String.ofList tail) ++
          "e" ++ toString (point - 1)

end Binary64

end Lexicon
