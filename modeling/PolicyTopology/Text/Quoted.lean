import PolicyTopology.Text.CodePoint
import PolicyTopology.Text.Printable

/-!
# Quoted text

The quoted form of a text on one line. Single quotes enclose it, unless it holds a single quote and
no double quote. The enclosing quote, the backslash and every code point without a visible form are
written as escapes, so the form shows exactly which code points the text holds.
-/

namespace PolicyTopology.Text

def hexDigit (n : Nat) : Char := if n < 10 then Char.ofNat (48 + n) else Char.ofNat (87 + n)

/-- The last `width` hexadecimal digits of `n`. -/
def hexDigits : Nat → Nat → List Char
  | 0, _ => []
  | width + 1, n => hexDigits width (n / 16) ++ [hexDigit (n % 16)]

/-- A code point as an escape of two, four or eight digits, the shortest that holds it. -/
def codeEscape (n : Nat) : List Char :=
  if n < 0x100 then '\\' :: 'x' :: hexDigits 2 n
  else if n < 0x10000 then '\\' :: 'u' :: hexDigits 4 n
  else '\\' :: 'U' :: hexDigits 8 n

/-- One code point between quotes of the kind `quote`. -/
def quoteCodePoint (quote : Char) (n : Nat) : List Char :=
  if n = quote.toNat then ['\\', quote]
  else if n = '\\'.toNat then ['\\', '\\']
  else if n = '\n'.toNat then ['\\', 'n']
  else if n = '\r'.toNat then ['\\', 'r']
  else if n = '\t'.toNat then ['\\', 't']
  else if isPrintable n then ofCodePoint n
  else codeEscape n

def quoteFor (text : List Char) : Char :=
  if text.contains '\'' && !text.contains '"' then '"' else '\''

def quoted (text : String) : String :=
  let quote := quoteFor text.toList
  String.ofList (quote :: (codePoints text).flatMap (quoteCodePoint quote) ++ [quote])

end PolicyTopology.Text
