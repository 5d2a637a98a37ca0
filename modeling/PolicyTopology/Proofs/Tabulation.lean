import PolicyTopology.Proofs.Filling

/-!
# Computations entry by entry

A computation of a table may be no more than the computations of its entries. It then comes to a
result exactly if each entry does, to the table of these; and when it fails, the entry of some key
fails in the same way. Computations that follow each other do so entry by entry, if each takes its
entry under a key from that of the one before.
-/

namespace PolicyTopology

/-- Come to a result that has under each key what the entry of that key comes to, or fail as the
entry of some key does. -/
def Except.Tabulates {ε κ α β : Type} (entry : κ → Except ε β) (lookup : α → κ → β) :
    Except ε α → Prop
  | .ok result => ∀ key, entry key = .ok (lookup result key)
  | .error error => ∃ key, entry key = .error error

namespace Except.Tabulates

variable {ε ε' κ κ' α α' β β' : Type} {entry entry' : κ → Except ε β} {lookup : α → κ → β}
  {lookup' : α' → κ → β'} {computation : Except ε α}

theorem ok (h : Tabulates entry lookup computation) {result : α} (found : computation = .ok result)
    (key : κ) : entry key = .ok (lookup result key) := by
  rw [found] at h
  exact h key

theorem error (h : Tabulates entry lookup computation) {error : ε}
    (found : computation = .error error) : ∃ key, entry key = .error error := by
  rw [found] at h
  exact h

/-- The whole fails exactly if some entry does. -/
theorem error_iff (h : Tabulates entry lookup computation) :
    (∃ error, computation = .error error) ↔ ∃ key error, entry key = .error error := by
  constructor
  · rintro ⟨error, found⟩
    obtain ⟨key, failed⟩ := h.error found
    exact ⟨key, error, failed⟩
  · rintro ⟨key, error, failed⟩
    cases found : computation with
    | error error => exact ⟨error, rfl⟩
    | ok result => exact nomatch failed.symm.trans (h.ok found key)

/-- What comes next goes on from each entry. -/
theorem bind (next : κ → β → Except ε β') {rest : α → Except ε α'}
    (h : Tabulates entry lookup computation)
    (h' : ∀ result, computation = .ok result →
      Tabulates (fun key => next key (lookup result key)) lookup' (rest result)) :
    Tabulates (fun key => entry key >>= next key) lookup' (computation >>= rest) := by
  cases computation with
  | error error =>
      obtain ⟨key, failed⟩ := h
      exact ⟨key, congrArg (· >>= next key) failed⟩
  | ok result =>
      have same : (fun key => entry key >>= next key) =
          fun key => next key (lookup result key) := by
        funext key
        exact congrArg (· >>= next key) (h key)
      rw [same]
      exact h' result rfl

theorem map {lookup' : α' → κ → β} {f : α → α'} (h : Tabulates entry lookup computation)
    (h' : ∀ result, lookup' (f result) = lookup result) :
    Tabulates entry lookup' (f <$> computation) := by
  cases computation with
  | error error => exact h
  | ok result =>
      intro key
      rw [h']
      exact h key

theorem mapError (f : ε → ε') (h : Tabulates entry lookup computation) :
    Tabulates (fun key => (entry key).mapError f) lookup (computation.mapError f) := by
  cases computation with
  | error error =>
      obtain ⟨key, failed⟩ := h
      exact ⟨key, congrArg (Except.mapError f) failed⟩
  | ok result => exact fun key => congrArg (Except.mapError f) (h key)

theorem ok_of_mapError {f : ε → ε'} {computation : Except ε' α}
    (h : Tabulates (fun key => (entry key).mapError f) lookup computation) {result : α}
    (found : computation = .ok result) (key : κ) : entry key = .ok (lookup result key) :=
  Except.mapError_ok_iff.mp (h.ok found key)

theorem error_iff_of_mapError {f : ε → ε'} {computation : Except ε' α}
    (h : Tabulates (fun key => (entry key).mapError f) lookup computation) :
    (∃ error, computation = .error error) ↔ ∃ key error, entry key = .error error :=
  h.error_iff.trans (exists_congr fun _ => Except.mapError_error_iff)

/-- Entries may stand under several keys. -/
theorem comap {f : κ' → κ} (surjective : f.Surjective) (h : Tabulates entry lookup computation) :
    Tabulates (entry ∘ f) (fun result => lookup result ∘ f) computation := by
  cases computation with
  | error error =>
      obtain ⟨key, failed⟩ := h
      obtain ⟨other, rfl⟩ := surjective key
      exact ⟨other, failed⟩
  | ok result => exact fun key => h (f key)

/-- Entries may have entries themselves. -/
theorem nest (inner : κ → κ' → Except ε β') (lookup' : β → κ' → β')
    (h : Tabulates entry lookup computation)
    (h' : ∀ key, Tabulates (inner key) lookup' (entry key)) :
    Tabulates (fun key : κ × κ' => inner key.1 key.2)
      (fun result key => lookup' (lookup result key.1) key.2) computation := by
  cases computation with
  | error error =>
      obtain ⟨key, failed⟩ := h
      obtain ⟨other, failed⟩ := (h' key).error failed
      exact ⟨(key, other), failed⟩
  | ok result => exact fun key => (h' key.1).ok (h key.1) key.2

variable [DecidableEq κ]

open Table (fill gather valuesAt)

/-- To fill a table is to gather the items of each key. -/
theorem fill (combine : κ → Option α → β → Except ε α) (items : List (κ × β)) (start : Table κ α) :
    Tabulates (fun key => gather (combine key) (start.get? key) (valuesAt items key)) Table.get?
      (fill combine items start) := by
  cases found : Table.fill combine items start with
  | error error => exact Table.exists_of_fill_error found
  | ok table => exact Table.get?_of_fill found

/-- To fill a table from the values that another one has is to work on each of these. -/
theorem fill_const {combine : β → Except ε α} {items : List (κ × β)} {start : Table κ α}
    {base : κ → Option β} (values : ∀ key value, value ∈ valuesAt items key ↔ base key = some value)
    (absent : ∀ key, base key = none → start.get? key = none) :
    Tabulates (fun key => (base key).elim (.ok none) fun value => some <$> combine value) Table.get?
      (Table.fill (fun _ _ value => combine value) items start) := by
  have filled := fill (fun _ _ value => combine value) items start
  have each : ∀ key, gather (fun _ value => combine value) (start.get? key) (valuesAt items key) =
      (base key).elim (.ok none) fun value => some <$> combine value := by
    intro key
    cases found : base key with
    | none =>
        have empty : valuesAt items key = [] :=
          List.eq_nil_iff_forall_not_mem.mpr fun value member =>
            nomatch found.symm.trans ((values key value).mp member)
        rw [empty, absent key found]
        rfl
    | some value =>
        have member := (values key value).mpr found
        refine Table.gather_const_eq (fun other member' => ?_) (List.ne_nil_of_mem member)
        exact Option.some.inj (((values key other).mp member').symm.trans found)
  rwa [funext each] at filled

end Except.Tabulates

end PolicyTopology
