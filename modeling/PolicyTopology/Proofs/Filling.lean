import PolicyTopology.Proofs.Traced
import PolicyTopology.Table

/-!
# Loops that fill a table

A loop over keyed items that, for each item, combines what the table has under its key with the
item. Items of different keys do not meet, so under each key the table ends up with what the items
of that key come to by themselves, and the loop fails only if the items of some key do.
-/

namespace PolicyTopology

namespace Table

variable {ε κ α β : Type} [DecidableEq κ]

/-- The values of the items under a key, in order. -/
def valuesAt (items : List (κ × β)) (key : κ) : List β :=
  (items.filter fun item => item.1 = key).map Prod.snd

@[simp] theorem valuesAt_nil (key : κ) : valuesAt ([] : List (κ × β)) key = [] := rfl

theorem valuesAt_cons (item : κ × β) (rest : List (κ × β)) (key : κ) :
    valuesAt (item :: rest) key =
      if item.1 = key then item.2 :: valuesAt rest key else valuesAt rest key := by
  unfold valuesAt
  rw [List.filter_cons]
  by_cases h : item.1 = key
  · simp [h]
  · simp [h]

theorem valuesAt_append (first second : List (κ × β)) (key : κ) :
    valuesAt (first ++ second) key = valuesAt first key ++ valuesAt second key := by
  simp [valuesAt]

theorem mem_valuesAt {items : List (κ × β)} {key : κ} {value : β} :
    value ∈ valuesAt items key ↔ (key, value) ∈ items := by
  simp [valuesAt]

/-- A table has at most one entry under a key, wherever sorting puts it. -/
theorem valuesAt_of_perm {table : Table κ β} {items : List (κ × β)}
    (h : items.Perm table.entries) (key : κ) : valuesAt items key = (table.get? key).toList := by
  have perm : (valuesAt items key).Perm (valuesAt table.entries key) :=
    (h.filter _).map Prod.snd
  have entry : valuesAt table.entries key = (table.get? key).toList := by
    obtain ⟨entries, nodup⟩ := table
    change valuesAt entries key = (Entries.get? entries key).toList
    clear h perm
    induction entries with
    | nil => rfl
    | cons first rest ih =>
        rw [Entries.keys_cons, List.nodup_cons] at nodup
        rw [valuesAt_cons, Entries.get?_cons, ih nodup.2]
        by_cases same : first.1 = key
        · have absent : Entries.get? rest key = none :=
            Entries.get?_eq_none_iff.mpr (same ▸ nodup.1)
          simp [same, absent]
        · simp [same]
  rw [entry] at perm
  generalize table.get? key = found at perm ⊢
  cases found with
  | none => exact List.perm_nil.mp perm
  | some value => exact List.perm_singleton.mp perm

/-- Combine items with what a table has under their keys, one after the other. -/
def fill (combine : κ → Option α → β → Except ε α) (items : List (κ × β)) (start : Table κ α) :
    Except ε (Table κ α) :=
  items.foldlM (fun table item => table.set item.1 <$> combine item.1 (table.get? item.1) item.2)
    start

/-- Combine values one after the other with what is there so far. -/
def gather (combine : Option α → β → Except ε α) (start : Option α) (values : List β) :
    Except ε (Option α) :=
  values.foldlM (fun found value => some <$> combine found value) start

variable {combine : κ → Option α → β → Except ε α} {items : List (κ × β)} {start table : Table κ α}
  {error : ε}

theorem gather_cons (combine : Option α → β → Except ε α) (found : Option α) (value : β)
    (rest : List β) : gather combine found (value :: rest) =
      combine found value >>= fun next => gather combine (some next) rest := by
  unfold gather
  rw [List.foldlM_cons]
  cases combine found value <;> rfl

theorem gather_append (combine : Option α → β → Except ε α) (found : Option α)
    (first second : List β) : gather combine found (first ++ second) =
      gather combine found first >>= fun next => gather combine next second :=
  List.foldlM_append

theorem gather_mapError {ε' : Type} (combine : Option α → β → Except ε α) (f : ε → ε')
    (found : Option α) (values : List β) :
    gather (fun found value => (combine found value).mapError f) found values =
      (gather combine found values).mapError f := by
  induction values generalizing found with
  | nil => rfl
  | cons value rest ih =>
      rw [gather_cons, gather_cons, Except.mapError_bind]
      exact congrArg _ (funext fun next => ih (some next))

/-- Some values come to some result. -/
theorem exists_of_gather {combine : Option α → β → Except ε α} {found result : Option α}
    {values : List β} (nonempty : values ≠ []) (h : gather combine found values = .ok result) :
    ∃ combined, result = some combined := by
  induction values generalizing found with
  | nil => exact absurd rfl nonempty
  | cons value rest ih =>
      rw [gather_cons, Except.bind_ok_iff] at h
      obtain ⟨next, _, h⟩ := h
      cases rest with
      | nil =>
          cases h
          exact ⟨next, rfl⟩
      | cons second others => exact ih (List.cons_ne_nil second others) h

/-- There is a result if there was one already, or anything to combine. -/
theorem isSome_of_gather {combine : Option α → β → Except ε α} {found result : Option α}
    {values : List β} (h : gather combine found values = .ok result) :
    result.isSome = true ↔ found.isSome = true ∨ values ≠ [] := by
  cases values with
  | nil =>
      cases h
      simp
  | cons value rest =>
      obtain ⟨combined, rfl⟩ := exists_of_gather (List.cons_ne_nil value rest) h
      simp

/-- What every combination preserves holds of what values come to. -/
theorem gather_invariant (property : α → Prop) {combine : Option α → β → Except ε α}
    {values : List β} {found result : Option α}
    (step : ∀ found, (∀ member, found = some member → property member) → ∀ value ∈ values,
      ∀ next, combine found value = .ok next → property next)
    (start : ∀ member, found = some member → property member)
    (h : gather combine found values = .ok result) :
    ∀ member, result = some member → property member := by
  induction values generalizing found with
  | nil =>
      cases h
      exact start
  | cons value rest ih =>
      rw [gather_cons, Except.bind_ok_iff] at h
      obtain ⟨next, combined, h⟩ := h
      refine ih (fun found holds other member => step found holds other
        (List.mem_cons_of_mem value member)) (fun member same => ?_) h
      cases same
      exact step found start value List.mem_cons_self next combined

/-- To combine one value without regard to what is there is to do so once, however often it
occurs. -/
theorem gather_const_eq {combine : β → Except ε α} {start : Option α} {values : List β} {value : β}
    (same : ∀ other ∈ values, other = value) (nonempty : values ≠ []) :
    gather (fun _ value => combine value) start values = some <$> combine value := by
  induction values generalizing start with
  | nil => exact absurd rfl nonempty
  | cons first rest ih =>
      rw [gather_cons, same first List.mem_cons_self]
      cases rest with
      | nil => cases combine value <;> rfl
      | cons second others =>
          cases found : combine value with
          | error error => rfl
          | ok combined =>
              have rest := @ih (some combined)
                (fun other member => same other (List.mem_cons_of_mem first member))
                (List.cons_ne_nil second others)
              rwa [found] at rest

/-- A table that is filled without regard to what is there holds, under a key of the items, what
their one value comes to. -/
theorem gather_const {combine : β → Except ε α} {start result : Option α}
    {values : List β} (value : β) (same : ∀ other ∈ values, other = value) (nonempty : values ≠ [])
    (h : gather (fun _ value => combine value) start values = .ok result) :
    ∃ combined, combine value = .ok combined ∧ result = some combined := by
  rw [gather_const_eq same nonempty, Except.map_ok_iff] at h
  obtain ⟨combined, found, rfl⟩ := h
  exact ⟨combined, found, rfl⟩

theorem gather_const_error {combine : β → Except ε α} {start : Option α}
    {values : List β} {error : ε}
    (h : gather (fun _ value => combine value) start values = .error error) :
    ∃ value ∈ values, combine value = .error error := by
  induction values generalizing start with
  | nil => cases h
  | cons first rest ih =>
      rw [gather_cons, Except.bind_error_iff] at h
      rcases h with failed | ⟨combined, _, h⟩
      · exact ⟨first, List.mem_cons_self, failed⟩
      · obtain ⟨value, member, failed⟩ := ih h
        exact ⟨value, List.mem_cons_of_mem first member, failed⟩

theorem fill_cons (combine : κ → Option α → β → Except ε α) (item : κ × β) (rest : List (κ × β))
    (start : Table κ α) : fill combine (item :: rest) start =
      combine item.1 (start.get? item.1) item.2 >>= fun value =>
        fill combine rest (start.set item.1 value) := by
  unfold fill
  rw [List.foldlM_cons]
  cases combine item.1 (start.get? item.1) item.2 <;> rfl

theorem get?_of_fill (h : fill combine items start = .ok table) (key : κ) :
    gather (combine key) (start.get? key) (valuesAt items key) = .ok (table.get? key) := by
  induction items generalizing start with
  | nil =>
      cases h
      rfl
  | cons item rest ih =>
      rw [fill_cons, Except.bind_ok_iff] at h
      obtain ⟨value, combined, h⟩ := h
      have rest := ih h
      rw [get?_set] at rest
      rw [valuesAt_cons]
      split
      · next same =>
        subst same
        rw [if_pos rfl] at rest
        rw [gather_cons, combined]
        exact rest
      · next other =>
        rwa [if_neg other] at rest

theorem exists_of_fill_error (h : fill combine items start = .error error) :
    ∃ key, gather (combine key) (start.get? key) (valuesAt items key) = .error error := by
  induction items generalizing start with
  | nil => cases h
  | cons item rest ih =>
      rw [fill_cons, Except.bind_error_iff] at h
      rcases h with failed | ⟨value, combined, h⟩
      · refine ⟨item.1, ?_⟩
        rw [valuesAt_cons, if_pos rfl, gather_cons, failed]
        rfl
      · obtain ⟨key, failed⟩ := ih h
        refine ⟨key, ?_⟩
        rw [get?_set] at failed
        rw [valuesAt_cons]
        split
        · next same =>
          subst same
          rw [if_pos rfl] at failed
          rw [gather_cons, combined]
          exact failed
        · next other =>
          rwa [if_neg other] at failed

end Table

end PolicyTopology
