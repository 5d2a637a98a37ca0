/-!
# Binary floating-point numbers

A number of 64 bits is a signed multiple of a power of two, an infinity, or the mark that there is
no number. A decimal numeral denotes the nearest such number, computed here in exact natural
arithmetic; a tie goes to the even multiple.
-/

namespace PolicyTopology

/-- A binary floating-point number: `significand` units of `2 ^ exponent`, an infinity, or none. -/
inductive Binary64 where
  | finite (negative : Bool) (significand : Nat) (exponent : Int)
  | infinite (negative : Bool)
  | notANumber
deriving DecidableEq, Repr, Inhabited

namespace Binary64

/-- The least exponent; smaller numbers than its unit have no representation. -/
def leastExponent : Int := -1074

/-- The greatest exponent; a significand of 53 bits above it overflows. -/
def greatestExponent : Int := 971

/-- Significands stay below `2 ^ 53`. -/
def significandBound : Nat := 9007199254740992

/-- The significand `2 ^ 52` of a power of two, the least one above the least exponent. -/
def leastNormal : Nat := 4503599627370496

/-- Two to the power of an exponent, or 1 if it is negative: `2 ^ e` is `twos e / twos (-e)`. -/
def twos (exponent : Int) : Nat := Nat.pow 2 exponent.toNat

/-- Ten to the power of a scale, or 1 if it is negative: `10 ^ k` is `tens k / tens (-k)`. -/
def tens (scale : Int) : Nat := Nat.pow 10 scale.toNat

/-- The nearest integer to `numerator / denominator`; a tie goes to the even one. -/
def roundQuotient (numerator denominator : Nat) : Nat :=
  let quotient := numerator / denominator
  match compare (2 * (numerator % denominator)) denominator with
  | .lt => quotient
  | .gt => quotient + 1
  | .eq => if quotient % 2 = 0 then quotient else quotient + 1

/-- The greatest `e` with `2 ^ e ≤ numerator / denominator`. The two binary lengths determine it
up to one. -/
def binaryExponent (numerator denominator : Nat) : Int :=
  let guess : Int := numerator.log2 - denominator.log2
  if denominator * twos guess ≤ numerator * twos (-guess) then guess else guess - 1

/-- The number nearest to a positive quotient. -/
def ofQuotient (negative : Bool) (numerator denominator : Nat) : Binary64 :=
  let exponent := max (binaryExponent numerator denominator - 52) leastExponent
  let significand := roundQuotient (numerator * twos (-exponent)) (denominator * twos exponent)
  let (significand, exponent) :=
    if significand = significandBound then (leastNormal, exponent + 1)
    else (significand, exponent)
  if exponent > greatestExponent then .infinite negative
  else .finite negative significand exponent

/-- The number nearest to `digits * 10 ^ scale`. Numerals far outside the range are settled from
their lengths: above `10 ^ 310` everything overflows, and as `8 ^ n ≤ 10 ^ n` a numeral whose
digits have `3 * n - 1100` bits at most vanishes at scale `-n`. -/
def ofDecimal (negative : Bool) (digits : Nat) (scale : Int) : Binary64 :=
  if digits = 0 then .finite negative 0 leastExponent
  else if scale > 310 then .infinite negative
  else if (digits.log2 : Int) + 1100 < 3 * -scale then .finite negative 0 leastExponent
  else ofQuotient negative (digits * tens scale) (tens (-scale))

end Binary64

end PolicyTopology
