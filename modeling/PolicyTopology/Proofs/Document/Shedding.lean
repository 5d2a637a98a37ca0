import PolicyTopology.Document.Shape
import PolicyTopology.Proofs.Alike
import PolicyTopology.Proofs.Document.Reading

/-!
# Objects that shed null fields

One object may be another one without some of its null fields. What the readers of fields make of
the two is compared here, reader by reader: a reader that asks whether something is present cannot
tell a null field from an absent one, and a reader of names can, so it agrees on the two objects
only where the field that it reads was kept.
-/

namespace PolicyTopology

/-- A scalar with the value of a text is that text. -/
theorem Scalar.eq_string {key : Scalar} {name : String} (h : key == .string name) :
    key = .string name := by
  rw [Scalar.beq_iff] at h
  cases key with
  | string text => exact congrArg Scalar.string (ScalarValue.text.inj h)
  | null => cases h
  | bool value => cases h
  | int value => cases h
  | float value => cases h

namespace Document

variable {drops : String → Prop} {below : Scalar → Document → Document → Prop} {name : String}

/-- The second fields are the first ones without some null fields that may be dropped. The fields
that are kept hold related values, and a key that is dropped does not come again. -/
inductive ShedFields (drops : String → Prop) (below : Scalar → Document → Document → Prop) :
    List (Scalar × Document) → List (Scalar × Document) → Prop
  | nil : ShedFields drops below [] []
  | drop {name : String} {before after : List (Scalar × Document)} (droppable : drops name)
      (last : Entries.get? before (.string name) = none)
      (rest : ShedFields drops below before after) :
      ShedFields drops below ((.string name, .null) :: before) after
  | keep {key : Scalar} {value other : Document} {before after : List (Scalar × Document)}
      (held : below key value other) (rest : ShedFields drops below before after) :
      ShedFields drops below ((key, value) :: before) ((key, other) :: after)

/-- The second document is the first one, without some null fields if it is an object. -/
inductive Shed (drops : String → Prop) (below : Scalar → Document → Document → Prop) :
    Document → Document → Prop
  | object {before after : Fields} (fields : ShedFields drops below before after) :
      Shed drops below (.object before) (.object after)
  | other {document : Document} (h : document.isObject = false) : Shed drops below document document

/-- The items of two arrays are related one by one; anything else is the same. -/
inductive Each (related : Document → Document → Prop) : Document → Document → Prop
  | array {items others : List Document} (each : List.Forall₂ related items others) :
      Each related (.array items) (.array others)
  | other {document : Document} (h : ∀ items, document ≠ .array items) :
      Each related document document

/-- What is found under a key before and after: a null field that was dropped, or related values. -/
def FoundAlike (drops : Prop) (related : Document → Document → Prop)
    (field other : Option Document) : Prop :=
  (drops ∧ field = some .null ∧ other = none) ∨ Option.Rel related field other

/-- A reader that takes null for absent, where null may be dropped, reads the same value. -/
theorem FoundAlike.read {α : Type} {may : Prop} {field other : Option Document}
    (h : FoundAlike may Eq field other) (read : Option Document → α)
    (blind : may → read (some .null) = read none) : read field = read other := by
  rcases h with ⟨dropped, rfl, rfl⟩ | same
  · exact blind dropped
  · cases same with
    | none => rfl
    | some value => rw [value]

theorem ShedFields.get? {before after : Fields} (h : ShedFields drops below before after)
    (name : String) :
    FoundAlike (drops name) (below (.string name)) (Entries.get? before (.string name))
      (Entries.get? after (.string name)) := by
  induction h with
  | nil => exact .inr .none
  | @drop key before after droppable last rest ih =>
      rw [Entries.get?_cons]
      by_cases same : key = name
      · subst same
        rw [if_pos BEq.rfl]
        -- The rest holds nothing under the key, so what is kept of it holds nothing there either.
        rw [last] at ih
        rcases ih with ⟨-, found, -⟩ | ih
        · cases found
        · cases absent : Entries.get? after (.string key) with
          | none => exact .inl ⟨droppable, rfl, rfl⟩
          | some value => rw [absent] at ih; cases ih
      · rw [if_neg fun h => same (Scalar.string.inj (Scalar.eq_string h))]
        exact ih
  | @keep key value other before after held rest ih =>
      rw [Entries.get?_cons, Entries.get?_cons]
      by_cases same : key == .string name
      · rw [if_pos same, if_pos same]
        cases Scalar.eq_string same
        exact .inr (.some held)
      · rw [if_neg same, if_neg same]
        exact ih

namespace Shed

variable {before after : Document} {related : Document → Document → Prop}

theorem get (h : Shed drops below before after) (name : String) :
    Except.Alike (FoundAlike (drops name) (below (.string name))) (before.get name)
      (after.get name) := by
  cases h with
  | object fields => exact fields.get? name
  | other plain =>
      cases before with
      | object fields => cases plain
      | scalar value => exact rfl
      | array items => exact rfl

/-- A name is read alike if it may not be dropped. -/
theorem nameAt (h : Shed drops below before after) (under : below (.string name) = Eq)
    (kept : ¬ drops name) (fallback : String) :
    before.nameAt name fallback = after.nameAt name fallback :=
  Except.Alike.eq ((h.get name).map fun _ _ found =>
    (under ▸ found).read (fun field => (field.map text).getD fallback) fun dropped =>
      absurd dropped kept)

/-- A name that counts only where something is present is read alike. -/
theorem nameAt? (h : Shed drops below before after) (under : below (.string name) = Eq) :
    before.nameAt? name = after.nameAt? name :=
  Except.Alike.eq ((h.get name).map fun _ _ found =>
    (under ▸ found).read (fun field => (field.filter isPresent).map text) fun _ => rfl)

/-- An object that is kept whole is read alike. -/
theorem getPresent_eq (h : Shed drops below before after) (under : below (.string name) = Eq) :
    before.getPresent name = after.getPresent name :=
  Except.Alike.eq ((h.get name).map fun _ _ found =>
    (under ▸ found).read orEmpty fun _ => rfl)

variable {drops' : String → Prop} {below' : Scalar → Document → Document → Prop}

/-- What is no object once it is read has not shed anything, and an object stays one. -/
theorem orEmpty (h : Shed drops below before after) :
    Shed drops below (Document.orEmpty (some before)) (Document.orEmpty (some after)) := by
  have read (fields : Fields) : Document.orEmpty (some (.object fields)) = .object fields := by
    cases fields <;> rfl
  cases h with
  | object fields =>
      rw [read, read]
      exact .object fields
  | other plain =>
      rw [orEmpty_some]
      split
      · exact .other plain
      · exact .object .nil

/-- An object that has shed fields itself is read as one that has. -/
theorem getPresent (h : Shed drops below before after)
    (under : below (.string name) = Shed drops' below') :
    Except.Alike (Shed drops' below') (before.getPresent name) (after.getPresent name) := by
  refine (h.get name).map fun field other found => ?_
  rcases found with ⟨-, rfl, rfl⟩ | found
  · exact .object .nil
  · rw [under] at found
    cases found with
    | none => exact .object .nil
    | some shed => exact shed.orEmpty

theorem items_of_not_array {document : Document} (h : ∀ items, document ≠ .array items) :
    Except.Alike (List.Forall₂ (Shed drops below)) document.items document.items := by
  have scalars {α : Type} (scalar : α → Scalar) (values : List α) :
      List.Forall₂ (Shed drops below) (values.map fun value => .scalar (scalar value))
        (values.map fun value => .scalar (scalar value)) := by
    rw [List.forall₂_map_left_iff, List.forall₂_map_right_iff, List.forall₂_same]
    exact fun value _ => .other rfl
  cases document with
  | array items => exact absurd rfl (h items)
  | object fields => exact scalars id _
  | scalar value =>
      cases value with
      | string text => exact scalars Scalar.string _
      | _ => exact rfl

/-- The items of a list are read as items that have shed fields. -/
theorem itemsAt (h : Shed drops below before after)
    (under : below (.string name) = Each (Shed drops' below')) :
    Except.Alike (List.Forall₂ (Shed drops' below')) (before.itemsAt name)
      (after.itemsAt name) := by
  refine (h.get name).bind fun field other found => ?_
  rcases found with ⟨-, rfl, rfl⟩ | found
  · exact .nil
  · rw [under] at found
    cases found with
    | none => exact .nil
    | @some value _ each =>
        cases each with
        | array each =>
            cases each with
            | nil => exact .nil
            | cons head rest => exact .cons head rest
        | other plain =>
            by_cases present : value.isPresent
            · rw [Option.filter_some, if_pos present]
              exact items_of_not_array plain
            · rw [Option.filter_some, if_neg present]
              exact .nil

end Shed

end Document

end PolicyTopology
