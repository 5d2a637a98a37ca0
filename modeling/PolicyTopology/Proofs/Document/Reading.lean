import PolicyTopology.Document.Combine
import PolicyTopology.Document.Shape
import PolicyTopology.Proofs.Traced

/-!
# Reading documents along paths

A path of keys leads through objects to at most one value. What a combination of two documents
holds under a path is determined by what the two hold along it. A document that is not an object may
be read as one, but only what is not present is read as an object without fields.
-/

namespace PolicyTopology

theorem Entries.foldl_set_ne_nil {κ α : Type} [BEq κ] {entries : Entries κ α}
    (pairs : List (κ × α)) (nonempty : entries ≠ []) :
    pairs.foldl (fun entries pair => set entries pair.1 pair.2) entries ≠ [] := by
  induction pairs generalizing entries with
  | nil => exact nonempty
  | cons pair rest ih =>
      refine ih ?_
      change set entries pair.1 pair.2 ≠ []
      unfold set
      split
      · exact fun none => nonempty (List.map_eq_nil_iff.mp none)
      · exact List.append_ne_nil_of_right_ne_nil _ (List.cons_ne_nil _ _)

namespace Document

/-- The value that a path of keys leads to. -/
def at? : Document → List Scalar → Option Document
  | document, [] => some document
  | .object fields, key :: rest => (Entries.get? fields key).bind fun value => value.at? rest
  | _, _ :: _ => none

def isObject : Document → Bool
  | .object _ => true
  | _ => false

@[simp] theorem at?_nil (document : Document) : document.at? [] = some document := by
  cases document <;> rfl

@[simp] theorem at?_object_cons (fields : Fields) (key : Scalar) (rest : List Scalar) :
    at? (.object fields) (key :: rest) =
      (Entries.get? fields key).bind fun value => value.at? rest :=
  rfl

theorem at?_cons_of_not_isObject {document : Document} (h : document.isObject = false)
    (key : Scalar) (rest : List Scalar) : document.at? (key :: rest) = none := by
  cases document with
  | object fields => cases h
  | scalar value => rfl
  | array items => rfl

/-- A value other than an object that a path leads to. -/
def HasLeaf (document : Document) (path : List Scalar) (value : Document) : Prop :=
  document.at? path = some value ∧ value.isObject = false

section ToFields

variable {document : Document}

theorem items_ne_nil {items : List Document} (present : document.isPresent = true)
    (h : document.items = .ok items) : items ≠ [] := by
  cases document with
  | array items =>
      cases h
      rintro rfl
      cases present
  | object fields =>
      cases h
      cases fields with
      | nil => cases present
      | cons field rest => exact List.cons_ne_nil _ _
  | scalar value =>
      cases value with
      | string text =>
          cases h
          intro none
          have empty : Text.codePoints text = Text.codePoints "" :=
            List.map_eq_nil_iff.mp (List.map_eq_nil_iff.mp none)
          rw [Text.codePoints_injective empty] at present
          cases present
      | null => cases h
      | bool value => cases h
      | int value => cases h
      | float value => cases h

theorem toFields_of_not_isObject (h : document.isObject = false) : document.toFields = (do
    let pairs ← (← document.items).mapM asField
    .ok (pairs.foldl (fun fields pair => Entries.set fields pair.1 pair.2) [])) := by
  cases document with
  | object fields => cases h
  | scalar value => rfl
  | array items => rfl

/-- Only what is not present is read as an object without fields. -/
theorem toFields_ne_nil (present : document.isPresent = true) : document.toFields ≠ .ok [] := by
  intro read
  cases isObject : document.isObject with
  | true =>
      cases document with
      | object fields =>
          cases read
          cases present
      | scalar value => cases isObject
      | array items => cases isObject
  | false =>
      rw [toFields_of_not_isObject isObject] at read
      obtain ⟨items, listed, read⟩ := Except.bind_ok_iff.mp read
      obtain ⟨pairs, read, none⟩ := Except.bind_ok_iff.mp read
      obtain ⟨item, rest, rfl⟩ := List.exists_cons_of_ne_nil (items_ne_nil present listed)
      rw [List.mapM_cons] at read
      obtain ⟨pair, _, read⟩ := Except.bind_ok_iff.mp read
      obtain ⟨more, _, read⟩ := Except.bind_ok_iff.mp read
      cases read
      exact Entries.foldl_set_ne_nil more (List.cons_ne_nil _ _) (Except.ok.inj none)

end ToFields

theorem combine_of_not_isObject {settle : Document → Document → Document} {first second : Document}
    (h : (first.isObject && second.isObject) = false) :
    combine settle first second = settle first second := by
  cases first with
  | object fields =>
      cases second with
      | object others => cases h
      | scalar value => rw [combine]; simp
      | array items => rw [combine]; simp
  | scalar value => rw [combine]; simp
  | array items => rw [combine]; simp

/-- Either two documents are objects, or a combination of them is settled as a whole. -/
theorem both_objects (first second : Document) :
    (∃ fields others, first = .object fields ∧ second = .object others) ∨
      (first.isObject && second.isObject) = false := by
  cases first with
  | object fields =>
      cases second with
      | object others => exact .inl ⟨fields, others, rfl, rfl⟩
      | scalar value => exact .inr rfl
      | array items => exact .inr rfl
  | scalar value => exact .inr rfl
  | array items => exact .inr rfl

/-- What two combined objects hold under a key. -/
theorem get?_combined (settle : Document → Document → Document) (first second : Fields)
    (key : Scalar) :
    Entries.get? (combineFields settle first second ++ Entries.newTo second first) key =
      match Entries.get? first key, Entries.get? second key with
      | some value, some other => some (combine settle value other)
      | some value, none => some value
      | none, other => other := by
  rw [Entries.get?_append, get?_combineFields, Entries.get?_newTo, Entries.contains]
  cases Entries.get? first key with
  | none => simp
  | some value => cases Entries.get? second key <;> simp

end Document

namespace Fields

variable {base top first second : Fields} {path : List Scalar} {value : Document}

/-- What is on top stays when something is laid under it. -/
theorem hasLeaf_overlay (h : Document.HasLeaf (.object top) path value) :
    Document.HasLeaf (.object (base.overlay top)) path value := by
  refine ⟨?_, h.2⟩
  have found := h.1
  have leaf := h.2
  clear h
  induction path generalizing base top with
  | nil =>
      rw [Document.at?_nil] at found
      cases found
      cases leaf
  | cons key rest ih =>
      rw [overlay, Document.at?_object_cons, Document.get?_combined]
      rw [Document.at?_object_cons, Option.bind_eq_some_iff] at found
      obtain ⟨upper, held, found⟩ := found
      rw [held]
      cases Entries.get? base key with
      | none => exact found
      | some lower =>
          rcases Document.both_objects lower upper with ⟨lowerFields, upperFields, rfl, rfl⟩ | other
          · change (Document.combine _ (.object lowerFields) (.object upperFields)).at? rest = _
            rw [Document.combine_object]
            exact ih found
          · change (Document.combine _ lower upper).at? rest = _
            rw [Document.combine_of_not_isObject other]
            exact found

end Fields

end PolicyTopology
