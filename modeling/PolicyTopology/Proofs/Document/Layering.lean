import PolicyTopology.Proofs.Document.Reading

/-!
# One document laid over another

Along each path a document has a leaf, has an object, misses a key below an object, or is cut off by
a leaf before the path ends. What is laid on top decides the first two, and what lies under it shows
only where the upper document misses a key.
-/

namespace PolicyTopology

namespace Document

/-- What is found under a path: an object, or a leaf. -/
inductive Found where
  | branch
  | leaf (value : Document)

/-- What is found under a path, if it leads anywhere. -/
def look (document : Document) (path : List Scalar) : Option Found :=
  (document.at? path).map fun value => if value.isObject then .branch else .leaf value

/-- A path leads through objects to a key that is not there. -/
def Misses : Document → List Scalar → Prop
  | .object fields, key :: rest =>
    match Entries.get? fields key with
    | some value => value.Misses rest
    | none => True
  | _, _ => False

variable {document base top value : Document} {path : List Scalar}

theorem not_misses_nil : ¬ document.Misses [] := by
  cases document <;> exact id

theorem misses_object_cons {fields : Fields} {key : Scalar} {rest : List Scalar} :
    Misses (.object fields) (key :: rest) ↔
      ∀ value, Entries.get? fields key = some value → value.Misses rest := by
  change (match Entries.get? fields key with
    | some value => value.Misses rest
    | none => True) ↔ _
  cases Entries.get? fields key <;> simp

theorem at?_of_misses (h : document.Misses path) : document.at? path = none := by
  induction path generalizing document with
  | nil => exact absurd h not_misses_nil
  | cons key rest ih =>
      cases document with
      | scalar value => rfl
      | array items => rfl
      | object fields =>
          rw [at?_object_cons]
          cases found : Entries.get? fields key with
          | none => rfl
          | some value => exact ih (misses_object_cons.mp h value found)

theorem look_eq_none_iff : document.look path = none ↔ document.at? path = none :=
  Option.map_eq_none_iff

theorem look_of_misses (h : document.Misses path) : document.look path = none :=
  look_eq_none_iff.mpr (at?_of_misses h)

theorem hasLeaf_iff : document.HasLeaf path value ↔ document.look path = some (.leaf value) := by
  unfold HasLeaf look
  cases document.at? path with
  | none => simp
  | some found =>
      cases leaf : found.isObject with
      | true => simpa [leaf] using fun same => same ▸ leaf
      | false => simpa [leaf] using fun same => same ▸ leaf

theorem look_nil (fields : Fields) : look (.object fields) [] = some .branch := by
  unfold look
  rw [at?_nil]
  rfl

theorem look_object_cons (fields : Fields) (key : Scalar) (rest : List Scalar) :
    look (.object fields) (key :: rest) =
      (Entries.get? fields key).bind fun value => value.look rest := by
  unfold look
  rw [at?_object_cons]
  cases Entries.get? fields key <;> rfl

/-- A path that leads anywhere leads through objects. -/
theorem look_of_append {key : Scalar} (h : document.look (path ++ [key]) ≠ none) :
    document.look path = some .branch := by
  induction path generalizing document with
  | nil =>
      cases document with
      | object fields => exact look_nil fields
      | scalar value => exact absurd rfl h
      | array items => exact absurd rfl h
  | cons first rest ih =>
      cases document with
      | scalar value => exact absurd rfl h
      | array items => exact absurd rfl h
      | object fields =>
          rw [List.cons_append, look_object_cons] at h
          rw [look_object_cons]
          cases held : Entries.get? fields first with
          | none =>
              rw [held] at h
              exact absurd rfl h
          | some inner =>
              rw [held] at h
              exact ih h

/-- Where an object is found, further keys are there or missed. -/
theorem misses_of_branch {key : Scalar} (h : document.look path = some .branch)
    (absent : document.look (path ++ [key]) = none) : document.Misses (path ++ [key]) := by
  induction path generalizing document with
  | nil =>
      cases document with
      | scalar value => cases h
      | array items => cases h
      | object fields =>
          rw [List.nil_append, look_object_cons] at absent
          refine misses_object_cons.mpr fun value found => ?_
          rw [found, Option.bind_some, look, at?_nil] at absent
          cases absent
  | cons first rest ih =>
      cases document with
      | scalar value => cases h
      | array items => cases h
      | object fields =>
          rw [List.cons_append, look_object_cons] at absent
          rw [look_object_cons] at h
          refine misses_object_cons.mpr fun value held => ?_
          rw [held] at absent h
          exact ih h absent

/-- `top` laid over `base`. -/
def overlay (base top : Document) : Document := combine (fun _ value => value) base top

theorem overlay_of_not_both (h : (base.isObject && top.isObject) = false) :
    base.overlay top = top :=
  combine_of_not_isObject h

theorem overlay_object (base top : Fields) :
    overlay (.object base) (.object top) = .object (base.overlay top) :=
  combine_object ..

theorem get?_overlay (base top : Fields) (key : Scalar) :
    Entries.get? (base.overlay top) key =
      match Entries.get? base key, Entries.get? top key with
      | some value, some other => some (value.overlay other)
      | some value, none => some value
      | none, other => other :=
  get?_combined ..

/-- What lies under a document shows where it misses a key. -/
theorem at?_overlay_of_misses (h : top.Misses path) :
    (base.overlay top).at? path = base.at? path := by
  induction path generalizing base top with
  | nil => exact absurd h not_misses_nil
  | cons key rest ih =>
      rcases both_objects base top with ⟨lower, upper, rfl, rfl⟩ | single
      · rw [misses_object_cons] at h
        rw [overlay_object, at?_object_cons, at?_object_cons, get?_overlay]
        cases held : Entries.get? upper key with
        | none => cases Entries.get? lower key <;> rfl
        | some value =>
            have below := h value held
            cases Entries.get? lower key with
            | none => exact at?_of_misses below
            | some other => exact ih below
      · rw [overlay_of_not_both single, at?_of_misses h]
        cases top with
        | scalar value => cases h
        | array items => cases h
        | object fields =>
            rw [isObject, Bool.and_true] at single
            exact (at?_cons_of_not_isObject single key rest).symm

/-- What is on top stays a leaf, or stays an object. -/
theorem at?_overlay_of_at? (h : top.at? path = some value) :
    ∃ kept, (base.overlay top).at? path = some kept ∧ kept.isObject = value.isObject ∧
      (value.isObject = false → kept = value) := by
  induction path generalizing base top with
  | nil =>
      rw [at?_nil] at h
      cases h
      refine ⟨_, at?_nil _, ?_⟩
      rcases both_objects base value with ⟨lower, upper, rfl, rfl⟩ | single
      · exact ⟨by rw [overlay_object]; rfl, fun leaf => nomatch leaf⟩
      · rw [overlay_of_not_both single]
        exact ⟨rfl, fun _ => rfl⟩
  | cons key rest ih =>
      rcases both_objects base top with ⟨lower, upper, rfl, rfl⟩ | single
      · rw [at?_object_cons, Option.bind_eq_some_iff] at h
        obtain ⟨inner, held, found⟩ := h
        rw [overlay_object, at?_object_cons, get?_overlay, held]
        cases Entries.get? lower key with
        | none => exact ⟨value, found, rfl, fun _ => rfl⟩
        | some other => exact ih found
      · rw [overlay_of_not_both single]
        exact ⟨value, h, rfl, fun _ => rfl⟩

/-- Nothing is let through where the document on top is cut off by a leaf. -/
theorem at?_overlay_of_not_misses (h : top.at? path = none) (cut : ¬ top.Misses path) :
    (base.overlay top).at? path = none ∧ ¬ (base.overlay top).Misses path := by
  induction path generalizing base top with
  | nil =>
      rw [at?_nil] at h
      cases h
  | cons key rest ih =>
      rcases both_objects base top with ⟨lower, upper, rfl, rfl⟩ | single
      · rw [misses_object_cons, Classical.not_forall] at cut
        obtain ⟨value, cut⟩ := cut
        obtain ⟨held, cut⟩ := Classical.not_imp.mp cut
        rw [at?_object_cons, held, Option.bind_some] at h
        rw [overlay_object, at?_object_cons, misses_object_cons, get?_overlay, held]
        cases Entries.get? lower key with
        | none => exact ⟨h, fun misses => cut (misses value rfl)⟩
        | some other =>
            obtain ⟨none, cut⟩ := ih h cut
            exact ⟨none, fun misses => cut (misses _ rfl)⟩
      · rw [overlay_of_not_both single]
        exact ⟨h, cut⟩

theorem look_overlay_of_misses (h : top.Misses path) :
    (base.overlay top).look path = base.look path :=
  congrArg _ (at?_overlay_of_misses h)

theorem look_overlay_of_not_misses (h : ¬ top.Misses path) :
    (base.overlay top).look path = top.look path := by
  unfold look
  cases found : top.at? path with
  | none => rw [(at?_overlay_of_not_misses found h).1]
  | some upper =>
      obtain ⟨kept, held, same, leaf⟩ := @at?_overlay_of_at? base _ _ _ found
      rw [held, Option.map_some, Option.map_some, same]
      cases single : upper.isObject with
      | true => rfl
      | false => rw [leaf single]

/-- What the upper document and the lower one both lack is missed by the two together. -/
theorem misses_of_misses_overlay (h : (base.overlay top).Misses path) :
    top.Misses path ∧ base.at? path = none := by
  have none := at?_of_misses h
  by_cases misses : top.Misses path
  · rw [at?_overlay_of_misses misses] at none
    exact ⟨misses, none⟩
  · cases found : top.at? path with
    | some upper =>
        obtain ⟨kept, held, _⟩ := @at?_overlay_of_at? base _ _ _ found
        exact nomatch none.symm.trans held
    | none => exact absurd h (at?_overlay_of_not_misses found misses).2

/-- To lay a document again over one that shows all of it changes nothing. -/
theorem look_overlay_of_shown (h : ¬ top.Misses path → base.look path = top.look path) :
    (base.overlay top).look path = base.look path := by
  by_cases misses : top.Misses path
  · exact look_overlay_of_misses misses
  · exact (look_overlay_of_not_misses misses).trans (h misses).symm

/-- To lay a document over one that shows nothing where it misses a key changes nothing. -/
theorem look_overlay_of_hidden (h : top.Misses path → base.look path = none) :
    (base.overlay top).look path = top.look path := by
  by_cases misses : top.Misses path
  · rw [look_overlay_of_misses misses, h misses, look_of_misses misses]
  · exact look_overlay_of_not_misses misses

theorem look_overlay_self : (top.overlay top).look path = top.look path :=
  look_overlay_of_hidden look_of_misses

theorem look_overlay_overlay_right :
    ((base.overlay top).overlay top).look path = (base.overlay top).look path :=
  look_overlay_of_shown look_overlay_of_not_misses

theorem look_overlay_overlay_left :
    (base.overlay (base.overlay top)).look path = (base.overlay top).look path :=
  look_overlay_of_hidden fun misses => look_eq_none_iff.mpr (misses_of_misses_overlay misses).2

end Document

end PolicyTopology
