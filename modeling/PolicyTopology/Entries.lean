/-!
# Entries in order of arrival

A finite map written as a list of keyed entries. Keys are told apart by `==`, which may hold between
two spellings of one key: a key keeps the spelling in which it first arrived and the place at which
it did, and a new value for it changes neither. Look-up returns the value of the first entry of a
key.

The look-up lemmas hold for every list, also for one that repeats a key: each operation is
determined, for look-up, by what look-up finds in its arguments.
-/

namespace PolicyTopology

/-- Values under keys, in the order in which the keys first arrived. -/
abbrev Entries (κ α : Type) := List (κ × α)

namespace Entries

variable {κ α β : Type}

def keys (entries : Entries κ α) : List κ := entries.map Prod.fst

@[simp] theorem keys_nil : keys ([] : Entries κ α) = [] := rfl

@[simp] theorem keys_cons (entry : κ × α) (rest : Entries κ α) :
    keys (entry :: rest) = entry.1 :: keys rest := rfl

@[simp] theorem keys_append (first second : Entries κ α) :
    keys (first ++ second) = keys first ++ keys second := List.map_append

/-- The entries in ascending order of their keys; entries of one key keep their order. -/
def sorted [LE κ] [DecidableLE κ] (entries : Entries κ α) : Entries κ α :=
  entries.mergeSort fun first second => first.1 ≤ second.1

theorem sorted_perm [LE κ] [DecidableLE κ] (entries : Entries κ α) :
    (sorted entries).Perm entries := List.mergeSort_perm _ _

variable [BEq κ]

def get? : Entries κ α → κ → Option α
  | [], _ => none
  | entry :: rest, key => if entry.1 == key then some entry.2 else get? rest key

@[simp] theorem get?_nil (key : κ) : get? ([] : Entries κ α) key = none := rfl

theorem get?_cons (entry : κ × α) (rest : Entries κ α) (key : κ) :
    get? (entry :: rest) key = if entry.1 == key then some entry.2 else get? rest key := rfl

theorem get?_eq_find? (entries : Entries κ α) (key : κ) :
    get? entries key = (entries.find? (·.1 == key)).map Prod.snd := by
  induction entries with
  | nil => rfl
  | cons entry rest ih =>
    rw [get?_cons, List.find?_cons, ih]
    cases entry.1 == key <;> rfl

/-- Look-up does not depend on the spelling of a key. -/
theorem get?_congr [PartialEquivBEq κ] (entries : Entries κ α) {key other : κ}
    (h : key == other) : get? entries key = get? entries other := by
  induction entries with
  | nil => rfl
  | cons entry rest ih => rw [get?_cons, get?_cons, BEq.congr_right h, ih]

/-- Entries at the front hide those behind them. -/
theorem get?_append (first second : Entries κ α) (key : κ) :
    get? (first ++ second) key = (get? first key).or (get? second key) := by
  induction first with
  | nil => simp
  | cons entry rest ih =>
    simp only [List.cons_append, get?_cons]
    split
    · rfl
    · exact ih

def contains (entries : Entries κ α) (key : κ) : Bool := (get? entries key).isSome

theorem contains_congr [PartialEquivBEq κ] (entries : Entries κ α) {key other : κ}
    (h : key == other) : contains entries key = contains entries other := by
  rw [contains, contains, get?_congr entries h]

/-- A key has an entry if one of the keys in the list is the same. -/
theorem contains_eq_any (entries : Entries κ α) (key : κ) :
    contains entries key = (keys entries).any (· == key) := by
  induction entries with
  | nil => rfl
  | cons entry rest ih =>
    simp only [contains, get?_cons, keys_cons, List.any_cons] at ih ⊢
    by_cases h : entry.1 == key <;> simp [h, ih]

theorem contains_iff [LawfulBEq κ] {entries : Entries κ α} {key : κ} :
    contains entries key = true ↔ key ∈ keys entries := by
  simp [contains_eq_any]

theorem get?_eq_none_iff [LawfulBEq κ] {entries : Entries κ α} {key : κ} :
    get? entries key = none ↔ key ∉ keys entries := by
  rw [← contains_iff, contains]
  simp

/-- Give `key` the value `value`: at its place if it has one, otherwise at the end. -/
def set (entries : Entries κ α) (key : κ) (value : α) : Entries κ α :=
  if contains entries key then
    entries.map fun entry => if entry.1 == key then (entry.1, value) else entry
  else entries ++ [(key, value)]

theorem get?_update [PartialEquivBEq κ] (entries : Entries κ α) (key other : κ) (value : α) :
    get? (entries.map fun entry => if entry.1 == key then (entry.1, value) else entry) other =
      if key == other then (get? entries other).map fun _ => value else get? entries other := by
  induction entries with
  | nil => simp
  | cons entry rest ih =>
    obtain ⟨k, v⟩ := entry
    rw [List.map_cons, get?_cons, ih, get?_cons]
    by_cases hk : k == key
    · have hkey : (k == other) = (key == other) := BEq.congr_left hk
      by_cases ho : key == other <;> simp [hk, ho, hkey]
    · by_cases ho : key == other
      · have hkey : (k == other) = false := by
          rw [← BEq.congr_right ho]
          simpa using hk
        simp [hk, ho, hkey]
      · simp [hk, ho]

@[simp] theorem get?_set_self [EquivBEq κ] (entries : Entries κ α) (key : κ) (value : α) :
    get? (set entries key value) key = some value := by
  unfold set
  split
  · next h =>
    rw [contains, Option.isSome_iff_exists] at h
    obtain ⟨v, hv⟩ := h
    simp [get?_update, hv]
  · next h =>
    have hn : get? entries key = none := by simpa [contains] using h
    simp [get?_append, get?_cons, hn]

theorem get?_set_ne [PartialEquivBEq κ] (entries : Entries κ α) {key other : κ} (value : α)
    (h : (key == other) = false) : get? (set entries key value) other = get? entries other := by
  unfold set
  split
  · simp [get?_update, h]
  · simp [get?_append, get?_cons, h]

theorem get?_set [EquivBEq κ] (entries : Entries κ α) (key other : κ) (value : α) :
    get? (set entries key value) other =
      if key == other then some value else get? entries other := by
  split
  · next h => rw [← get?_congr _ h, get?_set_self]
  · next h => exact get?_set_ne _ _ (by simpa using h)

/-- Writing to a key that is present moves nothing and keeps its spelling. -/
theorem keys_set_of_contains {entries : Entries κ α} {key : κ} (value : α)
    (h : contains entries key = true) : keys (set entries key value) = keys entries := by
  simp only [set, h, if_true, keys, List.map_map]
  refine List.map_congr_left fun entry _ => ?_
  by_cases hk : entry.1 == key <;> simp [hk]

/-- A key that was absent goes to the end. -/
theorem keys_set_of_not_contains {entries : Entries κ α} {key : κ} (value : α)
    (h : contains entries key = false) : keys (set entries key value) = keys entries ++ [key] := by
  simp [set, h, keys]

def erase (entries : Entries κ α) (key : κ) : Entries κ α :=
  entries.filter fun entry => !(entry.1 == key)

theorem get?_erase [PartialEquivBEq κ] (entries : Entries κ α) (key other : κ) :
    get? (erase entries key) other = if key == other then none else get? entries other := by
  induction entries with
  | nil => simp [erase]
  | cons entry rest ih =>
    obtain ⟨k, v⟩ := entry
    simp only [erase, List.filter_cons] at ih ⊢
    rw [get?_cons]
    by_cases hk : k == key
    · have hkey : (k == other) = (key == other) := BEq.congr_left hk
      by_cases ho : key == other <;> simp [hk, ho, hkey, ih]
    · by_cases ho : key == other
      · have hkey : (k == other) = false := by
          rw [← BEq.congr_right ho]
          simpa using hk
        simp [hk, ho, hkey, ih, get?_cons]
      · simp [hk, ho, ih, get?_cons]

def newTo (entries : Entries κ α) (known : Entries κ β) : Entries κ α :=
  entries.filter fun entry => !contains known entry.1

theorem get?_newTo [PartialEquivBEq κ] (entries : Entries κ α) (known : Entries κ β) (key : κ) :
    get? (newTo entries known) key = if contains known key then none else get? entries key := by
  induction entries with
  | nil => simp [newTo]
  | cons entry rest ih =>
    obtain ⟨k, v⟩ := entry
    simp only [newTo, List.filter_cons] at ih ⊢
    rw [get?_cons]
    by_cases hk : k == key
    · have hc : contains known k = contains known key := contains_congr known hk
      by_cases h : contains known key <;> simp [hk, hc, h, ih, get?_cons]
    · by_cases h : contains known k <;> simp [hk, h, ih, get?_cons]

end Entries

end PolicyTopology
