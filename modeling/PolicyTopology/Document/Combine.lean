import PolicyTopology.Document.Equality

/-!
# Combining documents

Two objects are combined key by key: a key of both with an object on each side is combined in the
same way, any other key of both is settled by a rule, and a key of one side is taken over. The keys
of the first object keep their places and the new keys of the second follow. `overlay` settles in
favour of the second side, `join` in favour of the first.

A clash is a key of both sides, reached through objects on both sides, under which they hold values
that do not agree and not two objects. `union` joins two objects that have none.
-/

namespace PolicyTopology

namespace Document

mutual

/-- Combine two documents; `settle` decides unless both are objects. -/
def combine (settle : Document → Document → Document) : Document → Document → Document
  | .object first, .object second =>
    .object (combineFields settle first second ++ Entries.newTo second first)
  | first, second => settle first second

/-- Combine each field of the first object with the second object's field under the same key. -/
def combineFields (settle : Document → Document → Document) :
    List (Scalar × Document) → List (Scalar × Document) → Fields
  | [], _ => []
  | (key, value) :: rest, others =>
    (key, match Entries.get? others key with
      | some other => combine settle value other
      | none => value) :: combineFields settle rest others

end

@[simp] theorem combine_object (settle : Document → Document → Document) (first second : Fields) :
    combine settle (.object first) (.object second) =
      .object (combineFields settle first second ++ Entries.newTo second first) := by
  rw [combine]

theorem keys_combineFields (settle : Document → Document → Document) (first second : Fields) :
    Entries.keys (combineFields settle first second) = Entries.keys first := by
  induction first with
  | nil => simp [combineFields]
  | cons entry rest ih => simp [combineFields, ih]

theorem get?_combineFields (settle : Document → Document → Document) (first second : Fields)
    (key : Scalar) :
    Entries.get? (combineFields settle first second) key =
      (Entries.get? first key).map fun value =>
        match Entries.get? second key with
        | some other => combine settle value other
        | none => value := by
  induction first with
  | nil => simp [combineFields]
  | cons entry rest ih =>
    simp only [combineFields, Entries.get?_cons]
    split
    · next h => simp [Entries.get?_congr second h]
    · exact ih

end Document

namespace Fields

/-- `top` laid over `base`: where the two differ, `top` wins. -/
def overlay (base top : Fields) : Fields :=
  Document.combineFields (fun _ value => value) base top ++ Entries.newTo top base

/-- `first` and `second` joined: where the two differ, `first` wins. -/
def join (first second : Fields) : Fields :=
  Document.combineFields (fun value _ => value) first second ++ Entries.newTo second first

end Fields

/-- Two values under one path of keys that do not agree. -/
structure Clash where
  path : List Scalar
  first : Document
  second : Document

namespace Document

mutual

/-- The first clash between two documents found under `path`, in the order of the second one's
keys. -/
def clash? (path : List Scalar) : Document → Document → Option Clash
  | .object first, .object second =>
    let clashes := clashFields path first second
    second.findSome? fun entry => (Entries.get? clashes entry.1).join
  | first, second => if agrees first second then none else some ⟨path, first, second⟩

/-- For each key of the first object, its first clash with the second object. A path spells a key as
the second object does. -/
def clashFields (path : List Scalar) :
    List (Scalar × Document) → List (Scalar × Document) → Entries Scalar (Option Clash)
  | [], _ => []
  | (key, value) :: rest, others =>
    (key, match others.find? (·.1 == key) with
      | some (spelled, other) => clash? (path ++ [spelled]) value other
      | none => none) :: clashFields path rest others

end

end Document

namespace Fields

/-- The first clash between two objects, in the order of the second one's keys. -/
def clash? (first second : Fields) : Option Clash :=
  Document.clash? [] (.object first) (.object second)

def union (first second : Fields) : Except Clash Fields :=
  match clash? first second with
  | some clash => .error clash
  | none => .ok (join first second)

end Fields

end PolicyTopology
