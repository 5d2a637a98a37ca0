import PolicyTopology.Decimal.Binary64

/-!
# Scalars

The leaves of documents and the keys of their objects: constants, numbers and texts. Integers are
exact and kept apart from binary floating-point numbers in how they are spelled, but not in what
they are worth: two scalars are compared by value, where `true` and `false` count as 1 and 0 and
zero has one value whatever its sign.
-/

namespace PolicyTopology

/-- The exact value of a number. The mark that there is no number is a value of its own, neither
below nor above any other. -/
inductive NumericValue where
  | finite (value : Rat)
  | infinite (negative : Bool)
  | notANumber
deriving DecidableEq

def Binary64.value : Binary64 → NumericValue
  | .finite negative significand exponent =>
    let magnitude := mkRat (significand * twos exponent : Nat) (twos (-exponent))
    .finite (if negative then -magnitude else magnitude)
  | .infinite negative => .infinite negative
  | .notANumber => .notANumber

def NumericValue.isBelow (bound : Int) : NumericValue → Bool
  | .finite value => value.blt bound
  | .infinite negative => negative
  | .notANumber => false

/-- A constant, number or text. -/
inductive Scalar where
  | null
  | bool (value : Bool)
  | int (value : Int)
  | float (value : Binary64)
  | string (text : String)
deriving Inhabited

/-- What a scalar is worth. -/
inductive ScalarValue where
  | null
  | number (value : NumericValue)
  | text (text : String)
deriving DecidableEq

namespace Scalar

instance : Coe String Scalar := ⟨.string⟩

def value : Scalar → ScalarValue
  | .null => .null
  | .bool value => .number (.finite (if value then 1 else 0))
  | .int value => .number (.finite value)
  | .float value => .number value.value
  | .string text => .text text

instance : BEq Scalar := ⟨fun first second => first.value == second.value⟩

/-- Two scalars are the same if they have the same value. -/
theorem beq_iff {first second : Scalar} : first == second ↔ first.value = second.value :=
  beq_iff_eq (a := first.value)

instance : EquivBEq Scalar where
  rfl := beq_iff.mpr rfl
  symm h := beq_iff.mpr (beq_iff.mp h).symm
  trans h h' := beq_iff.mpr ((beq_iff.mp h).trans (beq_iff.mp h'))

/-- Two texts are the same scalar only if they are one text. -/
@[simp] theorem string_beq_string (first second : String) :
    ((Scalar.string first) == (Scalar.string second)) = (first == second) := by
  rw [Bool.eq_iff_iff, beq_iff, beq_iff_eq]
  simp [value]

/-- Whether a scalar counts as present: null, false, zero and the empty text do not. -/
def isPresent : Scalar → Bool
  | .null => false
  | .bool value => value
  | .int value => value != 0
  | .float (.finite _ significand _) => significand != 0
  | .float (.infinite _) => true
  | .float .notANumber => true
  | .string text => text != ""

end Scalar

end PolicyTopology
