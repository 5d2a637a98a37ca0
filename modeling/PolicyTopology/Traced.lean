/-!
# Computations that leave a trace

A computation that notes events on the way and ends in a result or an error. What was noted before
an error stays noted. The trace is only written, never read, so the result cannot depend on it.
-/

namespace PolicyTopology

/-- The events of a computation in order, and what it came to. -/
structure Traced (ω ε α : Type) where
  trace : List ω
  result : Except ε α

namespace Traced

variable {ω ω' ε ε' α β : Type}

/-- Run `next` on the value of `first`, unless `first` failed. -/
def andThen (first : Traced ω ε α) (next : α → Traced ω ε β) : Traced ω ε β :=
  match first.result with
  | .ok value => ⟨first.trace ++ (next value).trace, (next value).result⟩
  | .error error => ⟨first.trace, .error error⟩

instance : Monad (Traced ω ε) where
  pure value := ⟨[], .ok value⟩
  bind := andThen

instance : MonadLift (Except ε) (Traced ω ε) := ⟨fun result => ⟨[], result⟩⟩

def note (event : ω) : Traced ω ε Unit := ⟨[event], .ok ()⟩

def fail (error : ε) : Traced ω ε α := ⟨[], .error error⟩

def adapt (event : ω → ω') (error : ε → ε') (computation : Traced ω ε α) : Traced ω' ε' α :=
  ⟨computation.trace.map event, computation.result.mapError error⟩

@[simp] theorem trace_pure (value : α) : (pure value : Traced ω ε α).trace = [] := rfl

@[simp] theorem result_pure (value : α) : (pure value : Traced ω ε α).result = .ok value := rfl

theorem result_bind (first : Traced ω ε α) (next : α → Traced ω ε β) :
    (first >>= next).result = first.result.bind fun value => (next value).result := by
  change (andThen first next).result = _
  unfold andThen
  cases h : first.result <;> rfl

theorem bind_of_ok {first : Traced ω ε α} {value : α} (h : first.result = .ok value)
    (next : α → Traced ω ε β) :
    first >>= next = ⟨first.trace ++ (next value).trace, (next value).result⟩ := by
  change andThen first next = _
  simp only [andThen, h]

theorem bind_of_error {first : Traced ω ε α} {error : ε} (h : first.result = .error error)
    (next : α → Traced ω ε β) : first >>= next = ⟨first.trace, .error error⟩ := by
  change andThen first next = _
  simp only [andThen, h]

private theorem andThen_pure (x : Traced ω ε α) : (x.andThen fun a => ⟨[], .ok a⟩) = x := by
  obtain ⟨trace, result⟩ := x
  cases result <;> simp [andThen]

private theorem andThen_assoc {γ : Type} (x : Traced ω ε α) (f : α → Traced ω ε β)
    (g : β → Traced ω ε γ) : (x.andThen f).andThen g = x.andThen fun a => (f a).andThen g := by
  obtain ⟨trace, result⟩ := x
  cases result with
  | error e => simp [andThen]
  | ok a =>
    simp only [andThen]
    cases (f a).result <;> simp

instance : LawfulMonad (Traced ω ε) :=
  LawfulMonad.mk' (Traced ω ε) (fun x => andThen_pure x) (fun a f => by
    change andThen ⟨[], .ok a⟩ f = f a
    simp [andThen]) (fun x f g => andThen_assoc x f g)

end Traced

end PolicyTopology
