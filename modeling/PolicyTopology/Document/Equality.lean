import PolicyTopology.Document.Basic

/-!
# Equality of documents

Two documents are the same if they hold the same values: scalars are compared by value, arrays item
by item, and objects by what look-up finds under every key, whatever the order of their fields. Two
documents agree if they are the same and are numbers at all if they are numbers: the mark that there
is no number agrees with nothing, though an array that holds it agrees with another one.
-/

namespace PolicyTopology

namespace Document

mutual

/-- Whether two documents hold the same value. This holds of decoded documents: all marks in them
that there is no number are one object, so the mark is the same as itself. -/
def same : Document → Document → Bool
  | .scalar first, .scalar second => first == second
  | .array first, .array second => sameItems first second
  | .object first, .object second =>
    let agreed := agreement first second
    (agreed.all fun entry => Entries.get? agreed entry.1 == some true) &&
      second.all fun entry => Entries.contains first entry.1
  | _, _ => false

/-- Whether two arrays have the same length and the same items in order. -/
def sameItems : List Document → List Document → Bool
  | [], [] => true
  | first :: rest, second :: others => same first second && sameItems rest others
  | _, _ => false

/-- For each key of the first object, whether the second one has the same value there. -/
def agreement : List (Scalar × Document) → List (Scalar × Document) → Entries Scalar Bool
  | [], _ => []
  | (key, value) :: rest, others =>
    (key, match Entries.get? others key with
      | some other => same value other
      | none => false) :: agreement rest others

end

def isNotANumber : Document → Bool
  | .float .notANumber => true
  | _ => false

/-- Whether two documents, met under one key, leave no doubt about the value there. -/
def agrees (first second : Document) : Bool := same first second && !first.isNotANumber

end Document

end PolicyTopology
