import PolicyTopology.Decimal.Shortest
import PolicyTopology.Document.Basic
import PolicyTopology.Text.Quoted

/-!
# The literal form of documents

How a document is written inside a message: constants by name, integers in decimal, floating-point
numbers with the fewest digits that read back, texts in quotes, arrays in brackets and objects in
braces with their fields in order. A text that stands alone as a name is written without quotes.
-/

namespace PolicyTopology

def zeros (count : Nat) : String := String.ofList (List.replicate count '0')

/-- The least number of digits of an exponent. -/
def exponentWidth : Nat := 2

/-- A decimal as text: positional with at least one digit on each side of the point if its leading
digit stands between the fourth place after the point and the sixteenth before it, otherwise with a
signed exponent. -/
def Decimal.render (decimal : Decimal) : String :=
  let digits := (Nat.toDigits 10 decimal.digits)
  let point : Int := digits.length + decimal.scale
  if -3 ≤ point ∧ point ≤ 0 then
    "0." ++ zeros (-point).toNat ++ String.ofList digits
  else if 0 < point ∧ point ≤ 16 then
    let whole := digits.take point.toNat
    let fraction := digits.drop point.toNat
    String.ofList whole ++ zeros decimal.scale.toNat ++ "." ++
      (if fraction.isEmpty then "0" else String.ofList fraction)
  else
    let exponent := point - 1
    let magnitude := Nat.toDigits 10 exponent.natAbs
    String.ofList (digits.take 1) ++
      (if digits.length = 1 then "" else "." ++ String.ofList (digits.drop 1)) ++
      (if exponent < 0 then "e-" else "e+") ++
      zeros (exponentWidth - magnitude.length) ++ String.ofList magnitude

def Binary64.literal : Binary64 → String
  | .finite negative significand exponent =>
    (if negative then "-" else "") ++
      (if significand = 0 then "0.0" else (Decimal.shortest significand exponent).render)
  | .infinite negative => if negative then "-inf" else "inf"
  | .notANumber => "nan"

namespace Scalar

def literal : Scalar → String
  | .null => "None"
  | .bool value => if value then "True" else "False"
  | .int value => toString value
  | .float value => value.literal
  | .string text => Text.quoted text

/-- A scalar as a name: a text as it is, anything else in its literal form. -/
def text : Scalar → String
  | .string text => text
  | scalar => scalar.literal

@[simp] theorem text_string (text : String) : (Scalar.string text).text = text := rfl

end Scalar

namespace Document

mutual

def literal : Document → String
  | .scalar value => value.literal
  | .array items => "[" ++ ", ".intercalate (itemLiterals items) ++ "]"
  | .object fields => "\x7b" ++ ", ".intercalate (fieldLiterals fields) ++ "\x7d"

def itemLiterals : List Document → List String
  | [] => []
  | item :: rest => item.literal :: itemLiterals rest

def fieldLiterals : List (Scalar × Document) → List String
  | [] => []
  | (key, value) :: rest => (key.literal ++ ": " ++ value.literal) :: fieldLiterals rest

end

/-- A document as a name: a text as it is, anything else in its literal form. -/
def text : Document → String
  | .scalar value => value.text
  | document => document.literal

@[simp] theorem text_string (text : String) : (Document.string text).text = text := rfl

end Document

end PolicyTopology
