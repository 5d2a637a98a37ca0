import PolicyTopology.Decimal.Binary64

/-!
# Shortest decimals

The decimal of fewest digits that reads back to a given binary number, and among those the nearest.
A decimal reads back if it lies between the halfway points to the two neighbouring numbers, ends
included exactly when the significand is even. All comparisons are between natural numbers.
-/

namespace PolicyTopology

/-- The decimal `digits * 10 ^ scale`. -/
structure Decimal where
  digits : Nat
  scale : Int
deriving DecidableEq, Repr

namespace Decimal

open Binary64

/-- Compare `a * 10 ^ i` with `b * 2 ^ j`. -/
def compareScaled (a : Nat) (i : Int) (b : Nat) (j : Int) : Ordering :=
  compare (a * tens i * twos (-j)) (b * twos j * tens (-i))

/-- Whether `decimal` is among the reals that round to `significand * 2 ^ exponent`. Below a power
of two the neighbour is half as far away as above it. -/
def readsBack (significand : Nat) (exponent : Int) (decimal : Decimal) : Bool :=
  let narrow := significand = leastNormal ∧ exponent ≠ leastExponent
  let low := if narrow then 4 * significand - 1 else 4 * significand - 2
  let high := 4 * significand + 2
  let endsCount := significand % 2 == 0
  let fromLow := compareScaled decimal.digits decimal.scale low (exponent - 2)
  let fromHigh := compareScaled decimal.digits decimal.scale high (exponent - 2)
  (fromLow == .gt || (endsCount && fromLow == .eq)) &&
    (fromHigh == .lt || (endsCount && fromHigh == .eq))

/-- The least `k` with `significand * 2 ^ exponent < 10 ^ k`. The binary length gives `k` up to a
few steps, as `log₁₀ 2` is `0.30103` to five places. -/
def leadingScale (significand : Nat) (exponent : Int) : Int :=
  let guess := Int.fdiv ((significand.log2 + exponent) * 30103) 100000
  let candidates : List Int := [guess, guess + 1, guess + 2]
  let found := candidates.find? fun k => compareScaled 1 k significand exponent == .gt
  found.getD (guess + 3)

/-- The two neighbours of `significand * 2 ^ exponent` among the multiples of `10 ^ scale`, the
lower one first. -/
def neighbours (significand : Nat) (exponent scale : Int) : Decimal × Decimal :=
  let numerator := significand * twos exponent * tens (-scale)
  let denominator := twos (-exponent) * tens scale
  let lower := numerator / denominator
  (⟨lower, scale⟩, ⟨lower + 1, scale⟩)

/-- The nearest multiple of `10 ^ scale` that reads back, if one of the two neighbours does. A tie
goes to the even one. -/
def onGrid? (significand : Nat) (exponent scale : Int) : Option Decimal :=
  let (lower, upper) := neighbours significand exponent scale
  match readsBack significand exponent lower, readsBack significand exponent upper with
  | false, false => none
  | true, false => some lower
  | false, true => some upper
  | true, true =>
    match compareScaled (lower.digits + upper.digits) scale (2 * significand) exponent with
    | .gt => some lower
    | .lt => some upper
    | .eq => if lower.digits % 2 = 0 then some lower else some upper

/-- Move trailing zeros of the digits into the scale, at most `limit` of them. -/
def stripZeros : Nat → Decimal → Decimal
  | 0, decimal => decimal
  | limit + 1, decimal =>
    if decimal.digits % 10 = 0 then stripZeros limit ⟨decimal.digits / 10, decimal.scale + 1⟩
    else decimal

/-- The shortest decimal that reads back to the positive number `significand * 2 ^ exponent`:
grids of one digit, two digits and so on are tried in turn, and seventeen digits suffice. -/
def shortest (significand : Nat) (exponent : Int) : Decimal :=
  let top := leadingScale significand exponent
  let found := (List.range 17).findSome? fun count =>
    onGrid? significand exponent (top - (count + 1 : Nat))
  stripZeros 17 (found.getD (neighbours significand exponent (top - 17)).1)

end Decimal

end PolicyTopology
