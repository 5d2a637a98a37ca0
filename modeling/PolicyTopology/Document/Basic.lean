import PolicyTopology.Document.Scalar
import PolicyTopology.Entries

/-!
# Documents

The decoded tree of a manifest: scalars, arrays and objects. An object lists its fields in the order
in which they were written, and its meaning is what look-up finds in that list. The key of a field
is a scalar, in a manifest nearly always a text, and keys are compared by value.
-/

namespace PolicyTopology

inductive Document where
  | scalar (value : Scalar)
  | array (items : List Document)
  | object (fields : List (Scalar × Document))
deriving Inhabited

abbrev Fields := Entries Scalar Document

namespace Document

@[match_pattern] abbrev null : Document := .scalar .null

@[match_pattern] abbrev bool (value : Bool) : Document := .scalar (.bool value)

@[match_pattern] abbrev int (value : Int) : Document := .scalar (.int value)

@[match_pattern] abbrev float (value : Binary64) : Document := .scalar (.float value)

@[match_pattern] abbrev string (text : String) : Document := .scalar (.string text)

def empty : Document := .object []

/-- Whether a document counts as present: a scalar that does, or an array or object that is not
empty. -/
def isPresent : Document → Bool
  | .scalar value => value.isPresent
  | .array items => !items.isEmpty
  | .object fields => !fields.isEmpty

/-- A field that may be missing, read as an empty object unless something is present there. -/
def orEmpty (field : Option Document) : Document := (field.filter isPresent).getD empty

@[simp] theorem orEmpty_none : orEmpty none = empty := rfl

theorem orEmpty_some (document : Document) :
    orEmpty (some document) = if document.isPresent then document else empty := by
  by_cases h : document.isPresent <;> simp [orEmpty, Option.filter, h]

end Document

end PolicyTopology
