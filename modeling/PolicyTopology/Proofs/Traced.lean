import PolicyTopology.Traced

/-!
# Results of traced computations

What a computation comes to can be read without its trace: each operation on traced computations
acts on the results as the same operation of `Except` does. Statements about merges and about the
work on nodes are statements about results, so from here on a trace is met only where a theorem is
about recorded calls, or about which events can be noted at all.
-/

namespace PolicyTopology

namespace Except

variable {ε ε' α β : Type}

theorem bind_ok_iff {first : Except ε α} {next : α → Except ε β} {value : β} :
    first >>= next = .ok value ↔ ∃ middle, first = .ok middle ∧ next middle = .ok value := by
  cases first with
  | error error =>
      change Except.error error = .ok value ↔ _
      simp
  | ok middle =>
      change next middle = .ok value ↔ _
      simp

theorem bind_error_iff {first : Except ε α} {next : α → Except ε β} {error : ε} :
    first >>= next = .error error ↔
      first = .error error ∨ ∃ middle, first = .ok middle ∧ next middle = .error error := by
  cases first with
  | error found =>
      change Except.error found = .error error ↔ _
      simp
  | ok middle =>
      change next middle = .error error ↔ _
      simp

theorem map_ok_iff {f : α → β} {computation : Except ε α} {value : β} :
    f <$> computation = .ok value ↔ ∃ middle, computation = .ok middle ∧ f middle = value := by
  cases computation with
  | error error =>
      change Except.error error = .ok value ↔ _
      simp
  | ok middle =>
      change Except.ok (f middle) = .ok value ↔ _
      simp

theorem map_error_iff {f : α → β} {computation : Except ε α} {error : ε} :
    f <$> computation = .error error ↔ computation = .error error := by
  cases computation with
  | error found =>
      change Except.error found = .error error ↔ _
      simp
  | ok middle =>
      change Except.ok (f middle) = .error error ↔ _
      simp

theorem throw_bind (error : ε) (next : α → Except ε β) :
    ((throw error : Except ε α) >>= next) = .error error := rfl

theorem mapError_ok_iff {f : ε → ε'} {computation : Except ε α} {value : α} :
    computation.mapError f = .ok value ↔ computation = .ok value := by
  cases computation with
  | error found =>
      change Except.error (f found) = .ok value ↔ _
      simp
  | ok found =>
      change Except.ok found = .ok value ↔ _
      simp

theorem mapError_error_iff {f : ε → ε'} {computation : Except ε α} :
    (∃ error, computation.mapError f = .error error) ↔ ∃ error, computation = .error error := by
  cases computation with
  | error found =>
      change (∃ error, Except.error (f found) = .error error) ↔ _
      simp
  | ok found =>
      change (∃ error, Except.ok found = .error error) ↔ _
      simp

theorem mapError_bind (first : Except ε α) (next : α → Except ε β) (f : ε → ε') :
    (first >>= next).mapError f = first.mapError f >>= fun value => (next value).mapError f := by
  cases first <;> rfl

end Except

namespace Traced

variable {ω ω' ε ε' α β σ : Type}

theorem result_bindM (first : Traced ω ε α) (next : α → Traced ω ε β) :
    (first >>= next).result = first.result >>= fun value => (next value).result :=
  result_bind first next

@[simp] theorem result_map (f : α → β) (computation : Traced ω ε α) :
    (f <$> computation).result = f <$> computation.result := by
  rw [← bind_pure_comp, result_bindM]
  cases computation.result <;> rfl

@[simp] theorem result_note (event : ω) : (note event : Traced ω ε Unit).result = .ok () := rfl

@[simp] theorem result_fail (error : ε) : (fail error : Traced ω ε α).result = .error error := rfl

@[simp] theorem result_lift (computation : Except ε α) :
    (liftM computation : Traced ω ε α).result = computation := rfl

@[simp] theorem result_adapt (event : ω → ω') (error : ε → ε') (computation : Traced ω ε α) :
    (adapt event error computation).result = computation.result.mapError error := rfl

/-- A loop comes to what the same loop over the results comes to. -/
theorem result_foldlM (step : σ → α → Traced ω ε σ) (items : List α) (start : σ) :
    (items.foldlM step start).result =
      items.foldlM (fun state item => (step state item).result) start := by
  induction items generalizing start with
  | nil => rfl
  | cons item rest ih =>
      rw [List.foldlM_cons, List.foldlM_cons, result_bindM]
      cases (step start item).result with
      | error error => rfl
      | ok middle => exact ih middle

/-- A loop depends on its step only at the items that it meets. -/
theorem foldlM_congr {m : Type → Type} [Monad m] {step step' : σ → α → m σ} {items : List α}
    (h : ∀ item ∈ items, ∀ state, step state item = step' state item) (start : σ) :
    items.foldlM step start = items.foldlM step' start := by
  induction items generalizing start with
  | nil => rfl
  | cons item rest ih =>
      rw [List.foldlM_cons, List.foldlM_cons, h item List.mem_cons_self]
      congr 1
      funext state
      exact ih (fun other member => h other (List.mem_cons_of_mem item member)) state

/-! ### What a trace holds -/

/-- Every event that a computation notes has the property, whether or not the computation fails. -/
def Notes (property : ω → Prop) (computation : Traced ω ε α) : Prop :=
  ∀ event ∈ computation.trace, property event

namespace Notes

variable {property : ω → Prop}

theorem pure (value : α) : (pure value : Traced ω ε α).Notes property :=
  fun _ noted => nomatch noted

theorem fail (error : ε) : (fail error : Traced ω ε α).Notes property :=
  fun _ noted => nomatch noted

theorem note {event : ω} (h : property event) : (note event : Traced ω ε Unit).Notes property :=
  fun _ noted => List.mem_singleton.mp noted ▸ h

theorem bind {first : Traced ω ε α} {next : α → Traced ω ε β} (h : first.Notes property)
    (h' : ∀ value, (next value).Notes property) : (first >>= next).Notes property := by
  intro event noted
  cases result : first.result with
  | error error =>
      rw [bind_of_error result] at noted
      exact h event noted
  | ok value =>
      rw [bind_of_ok result] at noted
      exact (List.mem_append.mp noted).elim (h event) (h' value event)

theorem map {computation : Traced ω ε α} (h : computation.Notes property) (f : α → β) :
    (f <$> computation).Notes property := by
  rw [← bind_pure_comp]
  exact h.bind fun value => .pure (f value)

theorem foldlM {step : σ → α → Traced ω ε σ} (h : ∀ state item, (step state item).Notes property)
    (items : List α) (start : σ) : (items.foldlM step start).Notes property := by
  induction items generalizing start with
  | nil => exact .pure start
  | cons item rest ih =>
      rw [List.foldlM_cons]
      exact (h start item).bind ih

end Notes

end Traced

end PolicyTopology
