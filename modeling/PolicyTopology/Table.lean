import PolicyTopology.Entries

/-!
# Tables

Entries whose keys are pairwise distinct. The distinctness is part of the type, so the size of a
table counts its keys and every operation states how it keeps them apart.
-/

namespace PolicyTopology

/-- A finite map that remembers the order in which its keys arrived. -/
structure Table (κ α : Type) where
  entries : Entries κ α
  nodup_keys : entries.keys.Nodup

namespace Table

variable {κ α β : Type}

def empty : Table κ α := ⟨[], List.nodup_nil⟩

instance : Inhabited (Table κ α) := ⟨empty⟩

def keys (table : Table κ α) : List κ := table.entries.keys

def values (table : Table κ α) : List α := table.entries.map Prod.snd

def size (table : Table κ α) : Nat := table.entries.length

@[simp] theorem keys_empty : (empty : Table κ α).keys = [] := rfl

@[simp] theorem length_keys (table : Table κ α) : table.keys.length = table.size := by
  simp [keys, size, Entries.keys]

def mapValues (f : α → β) (table : Table κ α) : Table κ β :=
  ⟨table.entries.map fun entry => (entry.1, f entry.2), by
    simpa [Entries.keys, List.map_map, Function.comp_def] using table.nodup_keys⟩

@[simp] theorem keys_mapValues (f : α → β) (table : Table κ α) :
    (table.mapValues f).keys = table.keys := by
  simp [mapValues, keys, Entries.keys, List.map_map, Function.comp_def]

variable [DecidableEq κ]

def get? (table : Table κ α) (key : κ) : Option α := table.entries.get? key

def contains (table : Table κ α) (key : κ) : Bool := table.entries.contains key

@[simp] theorem get?_empty (key : κ) : (empty : Table κ α).get? key = none := rfl

theorem contains_iff {table : Table κ α} {key : κ} :
    table.contains key = true ↔ key ∈ table.keys := Entries.contains_iff

theorem contains_eq_isSome (table : Table κ α) (key : κ) :
    table.contains key = (table.get? key).isSome := rfl

theorem get?_eq_none_iff {table : Table κ α} {key : κ} :
    table.get? key = none ↔ key ∉ table.keys := Entries.get?_eq_none_iff

/-- Each key has one entry, so look-up finds every entry. -/
theorem mem_entries_iff {table : Table κ α} {key : κ} {value : α} :
    (key, value) ∈ table.entries ↔ table.get? key = some value := by
  obtain ⟨entries, nodup⟩ := table
  change (key, value) ∈ entries ↔ Entries.get? entries key = some value
  induction entries with
  | nil => simp
  | cons entry rest ih =>
    rw [Entries.keys_cons, List.nodup_cons] at nodup
    rw [List.mem_cons, Entries.get?_cons]
    by_cases h : entry.1 = key
    · have absent : (key, value) ∉ rest := fun member =>
        nodup.1 (h ▸ List.mem_map_of_mem (f := Prod.fst) member)
      simp [absent, h, Prod.ext_iff, eq_comm]
    · simp [Prod.ext_iff, Ne.symm h, h, ih nodup.2]

/-- Give `key` the value `value`; a new key goes to the end. -/
def set (table : Table κ α) (key : κ) (value : α) : Table κ α where
  entries := table.entries.set key value
  nodup_keys := by
    by_cases h : table.entries.contains key = true
    · rw [Entries.keys_set_of_contains value h]
      exact table.nodup_keys
    · have hk : key ∉ table.entries.keys := fun hm => h (Entries.contains_iff.mpr hm)
      rw [Entries.keys_set_of_not_contains value (by simpa using h), List.nodup_append]
      refine ⟨table.nodup_keys, by simp, ?_⟩
      rintro a ha b hb rfl
      exact hk (by simp_all)

@[simp] theorem get?_set_self (table : Table κ α) (key : κ) (value : α) :
    (table.set key value).get? key = some value := Entries.get?_set_self ..

theorem get?_set_ne (table : Table κ α) {key other : κ} (value : α) (h : key ≠ other) :
    (table.set key value).get? other = table.get? other :=
  Entries.get?_set_ne _ _ (beq_false_of_ne h)

theorem get?_set (table : Table κ α) (key other : κ) (value : α) :
    (table.set key value).get? other = if key = other then some value else table.get? other := by
  split
  · next h => subst h; simp
  · next h => exact get?_set_ne _ _ h

/-- A key that has the value already keeps it, and its place. -/
theorem set_of_get? {table : Table κ α} {key : κ} {value : α} (h : table.get? key = some value) :
    table.set key value = table := by
  have present : table.entries.contains key = true := Option.isSome_of_eq_some h
  have same : table.entries.set key value = table.entries := by
    rw [Entries.set, if_pos present]
    refine (List.map_congr_left fun entry member => ?_).trans (List.map_id _)
    obtain ⟨other, held⟩ := entry
    have stored := mem_entries_iff.mp member
    split
    · next here =>
      have same : other = key := eq_of_beq here
      rw [same, h] at stored
      rw [Option.some.inj stored]
      rfl
    · rfl
  obtain ⟨entries, nodup⟩ := table
  simp only [set, same]

/-- Give `key` the value `value` unless it has one already: the first value wins. -/
def insertNew (table : Table κ α) (key : κ) (value : α) : Table κ α :=
  if table.contains key then table else table.set key value

theorem get?_insertNew (table : Table κ α) (key other : κ) (value : α) :
    (table.insertNew key value).get? other =
      if key = other then some ((table.get? key).getD value) else table.get? other := by
  unfold insertNew
  split
  · next h =>
    rw [contains_eq_isSome, Option.isSome_iff_exists] at h
    obtain ⟨v, hv⟩ := h
    split
    · next he => subst he; simp [hv]
    · rfl
  · next h =>
    have hn : table.get? key = none := by simpa [contains_eq_isSome] using h
    simp [get?_set, hn]

/-- Collect entries; a later value for a key replaces the earlier one at its place. -/
def ofEntries (entries : Entries κ α) : Table κ α :=
  entries.foldl (fun table entry => table.set entry.1 entry.2) empty

end Table

end PolicyTopology
