import PolicyTopology.Proofs.Filling

/-!
# Computations that decide

A computation decides a question if it comes to a result exactly when the answer is yes, and to an
error that counts as a conflict when the answer is no. Steps that decide one question each decide
together whether all answers are yes.
-/

namespace PolicyTopology

/-- Come to a result of which `property` holds if `agreed`, and otherwise to a conflict. -/
def Except.Decides {ε α : Type} (conflict : ε → Prop) (agreed : Prop) (property : α → Prop) :
    Except ε α → Prop
  | .ok value => agreed ∧ property value
  | .error error => conflict error ∧ ¬ agreed

namespace Except.Decides

variable {ε ε' α β : Type} {conflict : ε → Prop} {agreed agreed' : Prop} {property : α → Prop}
  {property' : β → Prop}

theorem bind {first : Except ε α} {next : α → Except ε β}
    (h : Decides conflict agreed property first)
    (h' : ∀ value, agreed → property value → Decides conflict agreed' property' (next value))
    (part : agreed' → agreed) : Decides conflict agreed' property' (first >>= next) := by
  cases first with
  | ok value => exact h' value h.1 h.2
  | error error => exact ⟨h.1, fun yes => h.2 (part yes)⟩

theorem map {f : α → β} {computation : Except ε α}
    (h : Decides conflict agreed property computation)
    (h' : ∀ value, property value → property' (f value)) :
    Decides conflict agreed property' (f <$> computation) := by
  cases computation with
  | ok value => exact ⟨h.1, h' value h.2⟩
  | error error => exact h

theorem mapError {conflict' : ε' → Prop} {f : ε → ε'} {computation : Except ε α}
    (h : Decides conflict agreed property computation)
    (h' : ∀ error, conflict error → conflict' (f error)) :
    Decides conflict' agreed property (computation.mapError f) := by
  cases computation with
  | ok value => exact h
  | error error => exact ⟨h' error h.1, h.2⟩

theorem congr {computation : Except ε α} (h : Decides conflict agreed property computation)
    (h' : agreed ↔ agreed') {property' : α → Prop}
    (h'' : ∀ value, agreed → property value → property' value) :
    Decides conflict agreed' property' computation := by
  cases computation with
  | ok value => exact ⟨h'.mp h.1, h'' value h.1 h.2⟩
  | error error => exact ⟨h.1, fun yes => h.2 (h'.mpr yes)⟩

open Table (fill gather valuesAt)

variable {κ : Type} [DecidableEq κ]

/-- To fill a table is to decide one question for each key. -/
theorem fill {combine : κ → Option α → β → Except ε α} {items : List (κ × β)} {start : Table κ α}
    {agreed : κ → Prop} {property : κ → Option α → Prop}
    (h : ∀ key, Decides conflict (agreed key) (property key)
      (gather (combine key) (start.get? key) (valuesAt items key))) :
    Decides conflict (∀ key, agreed key) (fun table => ∀ key, property key (table.get? key))
      (fill combine items start) := by
  cases found : Table.fill combine items start with
  | ok table =>
      have each : ∀ key, agreed key ∧ property key (table.get? key) := by
        intro key
        have decided := h key
        rw [Table.get?_of_fill found key] at decided
        exact decided
      exact ⟨fun key => (each key).1, fun key => (each key).2⟩
  | error error =>
      obtain ⟨key, failed⟩ := Table.exists_of_fill_error found
      have decided := h key
      rw [failed] at decided
      exact ⟨decided.1, fun yes => decided.2 (yes key)⟩

/-- To combine one value, however often it occurs, is to decide one question. -/
theorem gather_const {combine : β → Except ε α} {value : β}
    (h : Decides conflict agreed property (combine value)) {values : List β}
    (same : ∀ other ∈ values, other = value) (nonempty : values ≠ []) (start : Option α) :
    Decides conflict agreed (fun found => ∃ result, found = some result ∧ property result)
      (gather (fun _ value => combine value) start values) := by
  cases found : gather (fun _ value => combine value) start values with
  | ok result =>
      obtain ⟨combined, merged, rfl⟩ := Table.gather_const value same nonempty found
      rw [merged] at h
      exact ⟨h.1, combined, rfl, h.2⟩
  | error error =>
      obtain ⟨other, member, failed⟩ := Table.gather_const_error found
      rw [same other member] at failed
      rw [failed] at h
      exact h

end Except.Decides

end PolicyTopology
