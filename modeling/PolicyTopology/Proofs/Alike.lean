import PolicyTopology.Proofs.Traced
import Mathlib.Data.List.Forall2

/-!
# Computations that are alike

Two computations are alike if they end in one error, or both succeed with results that are related.
To follow a computation by another one preserves this, so that computations which read different
things are compared step by step and what is known of the results is carried along.
-/

namespace PolicyTopology

namespace Except

variable {ε α β γ δ : Type} {related : α → β → Prop} {related' : γ → δ → Prop}

/-- Two computations that end in one error, or succeed with results that are related. -/
def Alike (related : α → β → Prop) : Except ε α → Except ε β → Prop
  | .ok result, .ok other => related result other
  | .error error, .error other => error = other
  | _, _ => False

theorem Alike.refl (computation : Except ε α) : Alike Eq computation computation := by
  cases computation <;> exact rfl

theorem Alike.eq {first second : Except ε α} (h : Alike Eq first second) : first = second := by
  cases first with
  | error error =>
      cases second with
      | error other => exact congrArg Except.error h
      | ok other => exact h.elim
  | ok result =>
      cases second with
      | error other => exact h.elim
      | ok other => exact congrArg Except.ok h

theorem Alike.bind {first : Except ε α} {second : Except ε β} {next : α → Except ε γ}
    {next' : β → Except ε δ} (h : Alike related first second)
    (h' : ∀ result other, related result other → Alike related' (next result) (next' other)) :
    Alike related' (first >>= next) (second >>= next') := by
  cases first with
  | error error =>
      cases second with
      | error other => exact h
      | ok other => exact h.elim
  | ok result =>
      cases second with
      | error other => exact h.elim
      | ok other => exact h' result other h

/-- Computations that start in the same way are alike if what follows is. -/
theorem Alike.bind_eq {first second : Except ε α} {next : α → Except ε γ}
    {next' : α → Except ε δ} (h : first = second)
    (h' : ∀ result, Alike related' (next result) (next' result)) :
    Alike related' (first >>= next) (second >>= next') := by
  subst h
  cases first with
  | error error => exact rfl
  | ok result => exact h' result

theorem Alike.map {first : Except ε α} {second : Except ε β} {f : α → γ} {f' : β → δ}
    (h : Alike related first second)
    (h' : ∀ result other, related result other → related' (f result) (f' other)) :
    Alike related' (first.map f) (second.map f') := by
  cases first with
  | error error =>
      cases second with
      | error other => exact h
      | ok other => exact h.elim
  | ok result =>
      cases second with
      | error other => exact h.elim
      | ok other => exact h' result other h

/-- What is read item by item from related lists is alike if it is alike for related items. -/
theorem Alike.mapM {step : α → Except ε γ} {step' : β → Except ε γ}
    (h : ∀ item other, related item other → step item = step' other) {items : List α}
    {others : List β} (each : List.Forall₂ related items others) :
    items.mapM step = others.mapM step' := by
  induction each with
  | nil => rfl
  | cons head _ ih => rw [List.mapM_cons, List.mapM_cons, h _ _ head, ih]

theorem Alike.of_eq {related : α → α → Prop} {first second : Except ε α}
    (refl : ∀ result, related result result) (h : first = second) :
    Alike related first second := by
  subst h
  cases first with
  | error error => exact rfl
  | ok result => exact refl result

section Outcomes

variable {first : Except ε α} {second : Except ε β} (h : Alike related first second)

include h

theorem Alike.related_of_ok {result : α} {other : β} (found : first = .ok result)
    (found' : second = .ok other) : related result other := by
  subst found found'
  exact h

theorem Alike.error_of_first {error : ε} (failed : first = .error error) :
    second = .error error := by
  subst failed
  cases second with
  | error other => exact congrArg Except.error (Eq.symm h)
  | ok other => exact h.elim

theorem Alike.error_of_second {error : ε} (failed : second = .error error) :
    first = .error error := by
  subst failed
  cases first with
  | error other => exact congrArg Except.error h
  | ok result => exact h.elim

end Outcomes

end Except

end PolicyTopology
