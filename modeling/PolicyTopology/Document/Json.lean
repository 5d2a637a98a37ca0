import PolicyTopology.Document.Literal

/-!
# The JSON text of documents

A document written on one line without blanks, as a log line or an answer holds it. The text is
ASCII: every other code point is written as its 16-bit units in hexadecimal escapes. A number that
is no integer always has a point or an exponent, so the two kinds of number stay apart. A key is
always written as a string: a text as itself, any other scalar as the string of its JSON text.
-/

namespace PolicyTopology

namespace Text

def unitEscape (unit : Nat) : List Char := '\\' :: 'u' :: hexDigits 4 unit

def jsonCodePoint (n : Nat) : List Char :=
  if n = '"'.toNat then ['\\', '"']
  else if n = '\\'.toNat then ['\\', '\\']
  else if 0x20 ≤ n ∧ n < 0x7F then [Char.ofNat n]
  else if n < 0x10000 then unitEscape n
  else
    unitEscape (0xD800 + (n - 0x10000) / 0x400) ++ unitEscape (0xDC00 + (n - 0x10000) % 0x400)

def json (text : String) : String :=
  String.ofList ('"' :: (codePoints text).flatMap jsonCodePoint ++ ['"'])

end Text

namespace Scalar

def json : Scalar → String
  | .null => "null"
  | .bool value => if value then "true" else "false"
  | .int value => toString value
  | .float (.infinite negative) => if negative then "-Infinity" else "Infinity"
  | .float .notANumber => "NaN"
  | .float value => value.literal
  | .string text => Text.json text

def jsonKey : Scalar → String
  | .string text => Text.json text
  | scalar => Text.json scalar.json

end Scalar

namespace Document

mutual

def json : Document → String
  | .scalar value => value.json
  | .array items => "[" ++ ",".intercalate (itemTexts items) ++ "]"
  | .object fields => "\x7b" ++ ",".intercalate (fieldTexts fields) ++ "\x7d"

def itemTexts : List Document → List String
  | [] => []
  | item :: rest => item.json :: itemTexts rest

def fieldTexts : List (Scalar × Document) → List String
  | [] => []
  | (key, value) :: rest => (key.jsonKey ++ ":" ++ value.json) :: fieldTexts rest

end

end Document

end PolicyTopology
