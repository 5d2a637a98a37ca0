import PolicyTopology.Proofs.Document.Agreement

/-!
# Unions of documents

What a document shows along its paths, with objects told from other values and values taken up to
being the same, determines the document. The join of two consistent documents shows what one of them
shows. So a union of pairwise consistent objects comes to the same in whatever order and grouping
they are united, and however often each of them is met.
-/

namespace PolicyTopology

namespace Document

variable {first second document value : Document} {fields others : Fields} {path : List Scalar}
  {key : Scalar}

def Alike (first second : Document) : Prop :=
  (first.isObject = true ∧ second.isObject = true) ∨ same first second = true

/-- A path leads to a value like the given one. -/
def Shows (document : Document) (path : List Scalar) (value : Document) : Prop :=
  ∃ found, document.at? path = some found ∧ found.Alike value

theorem same_symm (h : same first second = true) : same second first = true :=
  same_of_same h (same_refl first)

theorem alike_refl (document : Document) : document.Alike document := .inr (same_refl document)

theorem alike_object_iff : Alike (.object fields) value ↔ value.isObject = true := by
  constructor
  · rintro (⟨_, isObject⟩ | same)
    · exact isObject
    · rw [← isObject_of_same same]
      rfl
  · exact fun isObject => .inl ⟨rfl, isObject⟩

theorem alike_congr (h : same first second = true) : first.Alike value ↔ second.Alike value := by
  unfold Alike
  rw [isObject_of_same h]
  exact or_congr_right ⟨same_of_same h, same_of_same (same_symm h)⟩

@[simp] theorem shows_nil : document.Shows [] value ↔ document.Alike value := by
  simp [Shows]

@[simp] theorem shows_object_cons {rest : List Scalar} :
    Shows (.object fields) (key :: rest) value ↔
      ∃ below, Entries.get? fields key = some below ∧ below.Shows rest value := by
  simp only [Shows, at?_object_cons, Option.bind_eq_some_iff]
  constructor
  · rintro ⟨found, ⟨below, held, leads⟩, alike⟩
    exact ⟨below, held, found, leads, alike⟩
  · rintro ⟨below, held, found, leads, alike⟩
    exact ⟨found, ⟨below, held, leads⟩, alike⟩

theorem not_shows_cons (leaf : document.isObject = false) {rest : List Scalar} :
    ¬ document.Shows (key :: rest) value := by
  rintro ⟨found, leads, _⟩
  rw [at?_cons_of_not_isObject leaf] at leads
  cases leads

/-- What an object shows is settled by what look-up finds in it. -/
theorem shows_object_congr (h : ∀ key, Entries.get? fields key = Entries.get? others key) :
    Shows (.object fields) path value ↔ Shows (.object others) path value := by
  cases path with
  | nil => rw [shows_nil, shows_nil, alike_object_iff, alike_object_iff]
  | cons key rest => rw [shows_object_cons, shows_object_cons, h]

theorem shows_of_same (h : same first second = true) (shows : first.Shows path value) :
    second.Shows path value := by
  induction path generalizing first second with
  | nil => exact shows_nil.mpr ((alike_congr h).mp (shows_nil.mp shows))
  | cons key rest ih =>
      cases isObject : first.isObject with
      | false => exact absurd shows (not_shows_cons isObject)
      | true =>
          have isObject' := (isObject_of_same h).symm.trans isObject
          cases first with
          | scalar value => cases isObject
          | array items => cases isObject
          | object fields =>
          cases second with
          | scalar value => cases isObject'
          | array items => cases isObject'
          | object others =>
              obtain ⟨below, held, shows⟩ := shows_object_cons.mp shows
              obtain ⟨other, held', same⟩ := (same_object_iff.mp h).1 key below held
              exact shows_object_cons.mpr ⟨other, held', ih same shows⟩

theorem same_of_shows_self (leaf : first.isObject = false) (h : second.Shows [] first) :
    same first second = true := by
  rcases shows_nil.mp h with ⟨_, isObject⟩ | same
  · rw [leaf] at isObject
    cases isObject
  · exact same_symm same

/-- Documents that show the same are the same. -/
theorem same_of_shows
    (h : ∀ path value, first.Shows path value ↔ second.Shows path value) :
    same first second = true := by
  have self := (h [] first).mp (shows_nil.mpr (alike_refl first))
  induction first generalizing second with
  | scalar value => exact same_of_shows_self rfl self
  | array items => exact same_of_shows_self rfl self
  | object fields ih =>
      have isObject : second.isObject = true := by
        rcases shows_nil.mp self with ⟨isObject, _⟩ | same
        · exact isObject
        · rw [isObject_of_same same]
          rfl
      cases second with
      | scalar value => cases isObject
      | array items => cases isObject
      | object others =>
          refine same_object_iff.mpr ⟨fun key value held => ?_, fun key absent => ?_⟩
          · have below := (h [key] value).mp
              (shows_object_cons.mpr ⟨value, held, shows_nil.mpr (alike_refl value)⟩)
            obtain ⟨other, held', shown⟩ := shows_object_cons.mp below
            refine ⟨other, held', ih key value held (fun path shown => ?_) shown⟩
            have along := h (key :: path) shown
            simpa [held, held'] using along
          · rw [Option.eq_none_iff_forall_ne_some]
            intro other held'
            have below := (h [key] other).mpr
              (shows_object_cons.mpr ⟨other, held', shows_nil.mpr (alike_refl other)⟩)
            obtain ⟨value, held, _⟩ := shows_object_cons.mp below
            exact nomatch absent.symm.trans held

theorem shows_combine_iff_of_leaf (h : first.Consistent second)
    (leaf : (first.isObject && second.isObject) = false) :
    (combine (fun value _ => value) first second).Shows path value ↔
      first.Shows path value ∨ second.Shows path value := by
  rw [combine_of_not_isObject leaf]
  rw [consistent_iff_agrees leaf, agrees, Bool.and_eq_true] at h
  exact ⟨.inl, fun either => either.elim id (shows_of_same (same_symm h.1))⟩

/-- The join of consistent documents shows what one of them shows. -/
theorem shows_combine_iff (h : first.Consistent second) :
    (combine (fun value _ => value) first second).Shows path value ↔
      first.Shows path value ∨ second.Shows path value := by
  induction first generalizing second path with
  | scalar value => exact shows_combine_iff_of_leaf h rfl
  | array items => exact shows_combine_iff_of_leaf h rfl
  | object fields ih =>
      cases second with
      | scalar value => exact shows_combine_iff_of_leaf h rfl
      | array items => exact shows_combine_iff_of_leaf h rfl
      | object others =>
          rw [combine_object]
          cases path with
          | nil => simp only [shows_nil, alike_object_iff, or_self]
          | cons key rest =>
              simp only [shows_object_cons, get?_combined]
              cases held : Entries.get? fields key with
              | none => simp
              | some below =>
                  cases held' : Entries.get? others key with
                  | none => simp
                  | some below' =>
                      have consistent := consistent_object_iff.mp h key below below' held held'
                      simpa using ih key below held consistent

end Document

namespace Fields

variable {first second start : Fields} {parts : List Fields} {path : List Scalar}
  {value : Document}

/-- In an object with these fields a path leads to a value like the given one. -/
def Shows (fields : Fields) (path : List Scalar) (value : Document) : Prop :=
  Document.Shows (.object fields) path value

/-- Objects with these fields are consistent. -/
def Consistent (first second : Fields) : Prop :=
  Document.Consistent (.object first) (.object second)

theorem shows_join_iff (h : first.Consistent second) :
    (first.join second).Shows path value ↔ first.Shows path value ∨ second.Shows path value := by
  unfold Shows
  rw [← Document.shows_combine_iff h, Document.combine_object]
  rfl

def unite (parts : List Fields) : Except Clash Fields := parts.foldlM union []

theorem consistent_nil (fields : Fields) : Consistent [] fields :=
  Document.consistent_object_iff.mpr fun _ _ _ held => nomatch held

theorem shows_of_shows_nil (shows : Shows [] path value) (fields : Fields) :
    fields.Shows path value := by
  unfold Shows at shows ⊢
  cases path with
  | nil =>
      rw [Document.shows_nil, Document.alike_object_iff] at shows ⊢
      exact shows
  | cons key rest =>
      obtain ⟨_, held, _⟩ := Document.shows_object_cons.mp shows
      cases held

theorem union_of_consistent (h : first.Consistent second) :
    first.union second = .ok (first.join second) := by
  unfold union
  rw [clash?_eq_none_iff.mpr h]

theorem exists_foldlM_union (pairwise : (start :: parts).Pairwise Consistent) :
    ∃ fields, parts.foldlM union start = .ok fields ∧ ∀ path value,
      fields.Shows path value ↔ ∃ part ∈ start :: parts, part.Shows path value := by
  induction parts generalizing start with
  | nil => exact ⟨start, rfl, fun path value => by simp⟩
  | cons part rest ih =>
      rw [List.pairwise_cons, List.pairwise_cons] at pairwise
      obtain ⟨first, second, others⟩ := pairwise
      have consistent := first part List.mem_cons_self
      have joined : (start.join part :: rest).Pairwise Consistent := by
        refine List.pairwise_cons.mpr ⟨fun other member => ?_, others⟩
        exact (consistent_join_iff consistent).mpr
          ⟨first other (List.mem_cons_of_mem _ member), second other member⟩
      obtain ⟨fields, united, shows_iff⟩ := ih joined
      refine ⟨fields, ?_, fun path value => ?_⟩
      · rw [List.foldlM_cons, union_of_consistent consistent]
        exact united
      · rw [shows_iff]
        simp only [List.mem_cons, exists_eq_or_imp, shows_join_iff consistent, or_assoc]

/-- Objects that are pairwise consistent have a union, and it shows what one of them shows. -/
theorem exists_unite (pairwise : parts.Pairwise Consistent) (nonempty : parts ≠ []) :
    ∃ fields, unite parts = .ok fields ∧ ∀ path value,
      fields.Shows path value ↔ ∃ part ∈ parts, part.Shows path value := by
  obtain ⟨fields, united, shows_iff⟩ := @exists_foldlM_union [] parts
    (List.pairwise_cons.mpr ⟨fun part _ => consistent_nil part, pairwise⟩)
  refine ⟨fields, united, fun path value => ?_⟩
  rw [shows_iff]
  simp only [List.mem_cons, exists_eq_or_imp]
  refine ⟨fun either => either.elim (fun shows => ?_) id, .inr⟩
  obtain ⟨part, member⟩ := List.exists_mem_of_ne_nil parts nonempty
  exact ⟨part, member, shows_of_shows_nil shows part⟩

end Fields

end PolicyTopology
