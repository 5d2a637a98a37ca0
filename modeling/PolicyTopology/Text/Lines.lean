import PolicyTopology.Text.CodePoint

/-!
# Lines of text

A text taken apart into its lines, and the words that occur in one of them. Any of the characters
that begin a new line ends a line, so `lines` tells how many rows a text takes up wherever it is
shown.
-/

namespace PolicyTopology.Text

/-- The characters that end a line: line feed, vertical tab, form feed, carriage return, the three
separators of files, groups and records, next line, and the separators of lines and paragraphs. -/
def isLineBreak (c : Char) : Bool :=
  [0x0A, 0x0B, 0x0C, 0x0D, 0x1C, 0x1D, 0x1E, 0x85, 0x2028, 0x2029].contains c.toNat

/-- The lines of a text whose first line begins with `current`, written backwards. A carriage return
and a line feed end one line together, and what follows the last end of a line is a line only if it
is not empty. -/
def linesAfter (current : List Char) : List Char → List String
  | [] => if current.isEmpty then [] else [String.ofList current.reverse]
  | '\r' :: '\n' :: rest => String.ofList current.reverse :: linesAfter [] rest
  | c :: rest =>
    if isLineBreak c then String.ofList current.reverse :: linesAfter [] rest
    else linesAfter (c :: current) rest

def lines (text : String) : List String := linesAfter [] text.toList

/-- Whether a sequence of code points begins somewhere in another one. -/
def beginsWithin (word : List Nat) : List Nat → Bool
  | [] => word.isEmpty
  | n :: rest => word.isPrefixOf (n :: rest) || beginsWithin word rest

def occursIn (word text : String) : Bool := beginsWithin (codePoints word) (codePoints text)

end PolicyTopology.Text
