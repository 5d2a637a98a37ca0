import PolicyTopology.Proofs.Document.Union
import Mathlib.Data.List.Basic

/-!
# Documents that match

Two documents match if their objects list the same keys in one order and everything else in them is
one and the same. Matching documents hold the same value, and they meet each other in the same
clashes whichever comes first. To combine a document with one that has been combined into it already
changes nothing up to matching, so a level that is laid over its ancestors twice matches what it
came to the first time.
-/

namespace PolicyTopology

namespace Entries

variable {κ α β : Type} [BEq κ] {entries : Entries κ α} {others : Entries κ β} {key : κ}

/-- Only its keys decide what an object has. -/
theorem contains_of_keys (h : keys entries = keys others) (key : κ) :
    contains entries key = contains others key := by
  rw [contains_eq_any, contains_eq_any, h]

theorem get?_eq_none_of_keys (h : keys entries = keys others) (absent : get? others key = none) :
    get? entries key = none := by
  have same := contains_of_keys h key
  rw [contains, contains, absent] at same
  simpa using same

theorem keys_set (entries : Entries κ α) (key : κ) (value : α) :
    keys (set entries key value) =
      if contains entries key then keys entries else keys entries ++ [key] := by
  split
  · next present => exact keys_set_of_contains value present
  · next absent => exact keys_set_of_not_contains value (by simpa using absent)

theorem keys_newTo (entries : Entries κ α) (known : Entries κ β) :
    keys (newTo entries known) = (keys entries).filter fun key => !contains known key := by
  unfold keys newTo
  rw [List.filter_map]
  rfl

/-- There is nothing to leave out. -/
theorem erase_of_absent (absent : get? entries key = none) : erase entries key = entries := by
  have known : (keys entries).any (· == key) = false := by
    rw [← contains_eq_any, contains, absent]
    rfl
  refine List.filter_eq_self.mpr fun entry member => ?_
  have other := List.any_eq_false.mp known entry.1 (List.mem_map_of_mem member)
  simpa using other

/-- One key is left out and another one written, in either order. -/
theorem erase_set_ne [PartialEquivBEq κ] {other : κ} (value : α) (h : (key == other) = false) :
    erase (set entries key value) other = set (erase entries other) key value := by
  have present : contains (erase entries other) key = contains entries key := by
    have unlike : (other == key) = false := by rw [BEq.comm, h]
    rw [contains, get?_erase, unlike]
    rfl
  unfold set
  rw [present]
  split
  · unfold erase
    rw [List.filter_map]
    refine congrArg (List.map _) (List.filter_congr fun entry _ => ?_)
    simp only [Function.comp_apply]
    split <;> rfl
  · unfold erase
    rw [List.filter_append, List.filter_cons_of_pos (by simp [h]), List.filter_nil]

end Entries

namespace Document

/-- Two documents whose objects have the same keys in one order, and which are equal elsewhere. -/
inductive Matches : Document → Document → Prop
  | leaf {value : Document} (isLeaf : value.isObject = false) : Matches value value
  | object {first second : Fields} (keys : Entries.keys first = Entries.keys second)
      (values : ∀ key value other, Entries.get? first key = some value →
        Entries.get? second key = some other → Matches value other) :
      Matches (.object first) (.object second)

variable {first second third value : Document} {fields others more : Fields}
  {settle : Document → Document → Document}

theorem matches_object_iff : Matches (.object fields) (.object others) ↔
    Entries.keys fields = Entries.keys others ∧ ∀ key value other,
      Entries.get? fields key = some value → Entries.get? others key = some other →
        Matches value other := by
  constructor
  · intro h
    cases h with
    | leaf isLeaf => cases isLeaf
    | object keys values => exact ⟨keys, values⟩
  · rintro ⟨keys, values⟩
    exact .object keys values

namespace Matches

theorem refl (document : Document) : Matches document document := by
  induction document with
  | scalar value => exact .leaf rfl
  | array items => exact .leaf rfl
  | object fields ih =>
      refine .object rfl fun key value other found found' => ?_
      cases found.symm.trans found'
      exact ih key value found

theorem symm (h : Matches first second) : Matches second first := by
  induction h with
  | leaf isLeaf => exact .leaf isLeaf
  | object keys values ih =>
      exact .object keys.symm fun key value other found found' => ih key other value found' found

theorem trans (h : Matches first second) (h' : Matches second third) : Matches first third := by
  induction h generalizing third with
  | leaf isLeaf => exact h'
  | @object fields others keys values ih =>
      cases h' with
      | leaf isLeaf => cases isLeaf
      | object keys' values' =>
          refine .object (keys.trans keys') fun key value other found found' => ?_
          cases middle : Entries.get? others key with
          | none => cases found.symm.trans (Entries.get?_eq_none_of_keys keys middle)
          | some between => exact ih key value between found middle (values' key _ _ middle found')

/-- Two objects have the same keys and match under each of them. -/
theorem get?_rel (h : Matches (.object fields) (.object others)) (key : Scalar) :
    Option.Rel Matches (Entries.get? fields key) (Entries.get? others key) := by
  obtain ⟨keys, values⟩ := matches_object_iff.mp h
  cases found : Entries.get? fields key with
  | none =>
      rw [Entries.get?_eq_none_of_keys keys.symm found]
      exact .none
  | some value =>
      cases found' : Entries.get? others key with
      | none => cases found.symm.trans (Entries.get?_eq_none_of_keys keys found')
      | some other => exact .some (values key value other found found')

/-- What matches is the same. -/
theorem same (h : Matches first second) : same first second = true := by
  induction h with
  | leaf _ => exact same_refl _
  | @object fields others keys values ih =>
      refine same_object_iff.mpr ⟨fun key value found => ?_, fun key absent => ?_⟩
      · cases found' : Entries.get? others key with
        | none => cases found.symm.trans (Entries.get?_eq_none_of_keys keys found')
        | some other => exact ⟨other, rfl, ih key value other found found'⟩
      · exact Entries.get?_eq_none_of_keys keys.symm absent

/-- Matching objects still match when matching values are written to both. -/
theorem set (h : Matches (.object fields) (.object others)) (held : Matches first second)
    (key : Scalar) : Matches (.object (Entries.set fields key first))
      (.object (Entries.set others key second)) := by
  obtain ⟨keys, values⟩ := matches_object_iff.mp h
  refine .object ?_ fun other value value' found found' => ?_
  · rw [Entries.keys_set, Entries.keys_set, keys, Entries.contains_of_keys keys]
  · rw [Entries.get?_set] at found found'
    split at found
    · next same =>
      rw [if_pos same] at found'
      exact Option.some.inj found ▸ Option.some.inj found' ▸ held
    · next apart =>
      rw [if_neg apart] at found'
      exact values other value value' found found'

end Matches

/-- To write what is there already changes nothing. -/
theorem matches_set_self {key : Scalar} (found : Entries.get? fields key = some second)
    (h : Matches first second) :
    Matches (.object (Entries.set fields key first)) (.object fields) := by
  have present : Entries.contains fields key = true := by rw [Entries.contains, found]; rfl
  refine .object (Entries.keys_set_of_contains first present)
    fun other value value' held held' => ?_
  rw [Entries.get?_set] at held
  split at held
  · next same =>
    rw [← Entries.get?_congr fields same, found] at held'
    exact Option.some.inj held ▸ Option.some.inj held' ▸ h
  · cases held.symm.trans held'
    exact .refl value

section Combining

/-- The keys of two combined objects: those of the first one and those that are new. -/
theorem keys_combined (settle : Document → Document → Document) (first second : Fields) :
    Entries.keys (combineFields settle first second ++ Entries.newTo second first) =
      Entries.keys first ++
        (Entries.keys second).filter fun key => !Entries.contains first key := by
  rw [Entries.keys_append, keys_combineFields, Entries.keys_newTo]

/-- An object without new keys adds none. -/
theorem keys_combined_of_known (settle : Document → Document → Document) {first second : Fields}
    (known : ∀ key value, Entries.get? second key = some value →
      (Entries.get? first key).isSome = true) :
    Entries.keys (combineFields settle first second ++ Entries.newTo second first) =
      Entries.keys first := by
  rw [keys_combined]
  refine (congrArg _ (List.filter_eq_nil_iff.mpr fun key member => ?_)).trans (List.append_nil _)
  obtain ⟨entry, listed, rfl⟩ := List.mem_map.mp member
  obtain ⟨value, found⟩ := Entries.exists_get?_of_mem listed
  rw [Entries.contains, known entry.1 value found]
  decide

/-- Matching documents combine to what matches them. -/
theorem matches_combine (settle : Document → Document → Document)
    (settles : ∀ value, settle value value = value) (h : Matches first second) :
    Matches (combine settle first second) first := by
  induction h with
  | @leaf value isLeaf =>
      rw [combine_of_not_isObject (by simp [isLeaf]), settles]
      exact .leaf isLeaf
  | @object fields others keys values ih =>
      rw [combine_object]
      refine .object ?_ fun key value other found found' => ?_
      · refine keys_combined_of_known settle fun key value found => ?_
        cases held : Entries.get? fields key with
        | some _ => rfl
        | none => cases found.symm.trans (Entries.get?_eq_none_of_keys keys.symm held)
      · rw [get?_combined, found'] at found
        cases held : Entries.get? others key with
        | none => cases found'.symm.trans (Entries.get?_eq_none_of_keys keys held)
        | some value' =>
            rw [held] at found
            exact Option.some.inj found ▸ ih key other value' found' held

variable (settles : ∀ first second, settle first second = first ∨ settle first second = second)

include settles

theorem settle_self (value : Document) : settle value value = value :=
  (settles value value).elim id id

theorem matches_combine_right_of_leaf (leaf : (first.isObject && second.isObject) = false) :
    Matches (combine settle (combine settle first second) second)
      (combine settle first second) := by
  rw [combine_of_not_isObject leaf]
  rcases settles first second with same | same
  · rw [same, combine_of_not_isObject leaf, same]
    exact .refl _
  · rw [same]
    exact matches_combine settle (settle_self settles) (.refl second)

theorem matches_combine_left_of_leaf (leaf : (first.isObject && second.isObject) = false) :
    Matches (combine settle first (combine settle first second)) (combine settle first second) := by
  rw [combine_of_not_isObject leaf]
  rcases settles first second with same | same
  · rw [same]
    exact matches_combine settle (settle_self settles) (.refl first)
  · rw [same, combine_of_not_isObject leaf, same]
    exact .refl _

/-- What has been combined with a document before is no different after it is combined with it
again. -/
theorem matches_combine_right (first second : Document) :
    Matches (combine settle (combine settle first second) second)
      (combine settle first second) := by
  induction first generalizing second with
  | scalar value => exact matches_combine_right_of_leaf settles rfl
  | array items => exact matches_combine_right_of_leaf settles rfl
  | object fields ih =>
      rcases both_objects (.object fields) second with ⟨_, others, same, rfl⟩ | leaf
      · cases same
        rw [combine_object, combine_object]
        refine .object ?_ fun key value other found found' => ?_
        · refine keys_combined_of_known settle fun key value found => ?_
          rw [get?_combined, found]
          cases Entries.get? fields key <;> rfl
        · rw [get?_combined, found'] at found
          rw [get?_combined] at found'
          cases held : Entries.get? fields key with
          | none =>
              rw [held] at found'
              rw [show Entries.get? others key = some other from found'] at found
              cases found
              exact matches_combine settle (settle_self settles) (.refl other)
          | some value' =>
              rw [held] at found'
              cases held' : Entries.get? others key with
              | none =>
                  rw [held'] at found found'
                  cases found
                  exact .refl _
              | some other' =>
                  rw [held'] at found found'
                  cases found
                  cases found'
                  exact ih key value' held other'
      · exact matches_combine_right_of_leaf settles leaf

/-- What a document has been combined into is no different after the document is combined with
it. -/
theorem matches_combine_left (first second : Document) :
    Matches (combine settle first (combine settle first second))
      (combine settle first second) := by
  induction first generalizing second with
  | scalar value => exact matches_combine_left_of_leaf settles rfl
  | array items => exact matches_combine_left_of_leaf settles rfl
  | object fields ih =>
      rcases both_objects (.object fields) second with ⟨_, others, same, rfl⟩ | leaf
      · cases same
        rw [combine_object, combine_object]
        refine .object ?_ fun key value other found found' => ?_
        · rw [keys_combined, keys_combined, List.filter_append, List.filter_filter,
            List.filter_eq_nil_iff.mpr]
          · simp
          · intro key member
            obtain ⟨entry, listed, rfl⟩ := List.mem_map.mp member
            obtain ⟨value, found⟩ := Entries.exists_get?_of_mem listed
            simp [Entries.contains, found]
        · rw [get?_combined, found'] at found
          rw [get?_combined] at found'
          cases held : Entries.get? fields key with
          | none =>
              rw [held] at found
              cases found
              exact .refl _
          | some value' =>
              rw [held] at found found'
              cases found
              cases held' : Entries.get? others key with
              | none =>
                  rw [held'] at found'
                  cases found'
                  exact matches_combine settle (settle_self settles) (.refl other)
              | some other' =>
                  rw [held'] at found'
                  cases found'
                  exact ih key value' held other'
      · exact matches_combine_left_of_leaf settles leaf

end Combining

theorem overlay_eq_combine (base top : Fields) : Document.object (base.overlay top) =
    combine (fun _ value => value) (.object base) (.object top) := (combine_object ..).symm

theorem join_eq_combine (first second : Fields) : Document.object (first.join second) =
    combine (fun value _ => value) (.object first) (.object second) := (combine_object ..).symm

/-- Matching objects come to matching ones, whichever of the two is laid over the other. -/
theorem Matches.overlay_comm (h : Matches (.object fields) (.object others)) :
    Matches (.object (fields.overlay others)) (.object (others.overlay fields)) := by
  rw [overlay_eq_combine, overlay_eq_combine]
  exact (matches_combine _ (fun _ => rfl) h).trans
    (h.trans (matches_combine _ (fun _ => rfl) h.symm).symm)

theorem Matches.join_comm (h : Matches (.object fields) (.object others)) :
    Matches (.object (fields.join others)) (.object (others.join fields)) := by
  rw [join_eq_combine, join_eq_combine]
  exact (matches_combine _ (fun _ => rfl) h).trans
    (h.trans (matches_combine _ (fun _ => rfl) h.symm).symm)

theorem overlay_self_matches (fields : Fields) :
    Matches (.object (fields.overlay fields)) (.object fields) := by
  rw [overlay_eq_combine]
  exact matches_combine _ (fun _ => rfl) (.refl _)

theorem join_self_matches (fields : Fields) :
    Matches (.object (fields.join fields)) (.object fields) := by
  rw [join_eq_combine]
  exact matches_combine _ (fun _ => rfl) (.refl _)

/-- To lay something on top, or under, once more changes nothing. -/
theorem overlay_top_matches (base top : Fields) :
    Matches (.object ((base.overlay top).overlay top)) (.object (base.overlay top)) := by
  rw [overlay_eq_combine (base.overlay top), overlay_eq_combine base]
  exact matches_combine_right (fun _ _ => .inr rfl) _ _

theorem overlay_base_matches (base top : Fields) :
    Matches (.object (base.overlay (base.overlay top))) (.object (base.overlay top)) := by
  rw [overlay_eq_combine base (base.overlay top), overlay_eq_combine base top]
  exact matches_combine_left (fun _ _ => .inr rfl) _ _

theorem join_second_matches (first second : Fields) :
    Matches (.object ((first.join second).join second)) (.object (first.join second)) := by
  rw [join_eq_combine (first.join second), join_eq_combine first]
  exact matches_combine_right (fun _ _ => .inl rfl) _ _

/-- Objects with the same keys spell each of them in the same way. -/
theorem find?_of_keys (keys : Entries.keys fields = Entries.keys others) (key : Scalar) :
    (fields.find? (·.1 == key)).map Prod.fst = (others.find? (·.1 == key)).map Prod.fst := by
  have spelled : ∀ entries : Fields,
      (entries.find? (·.1 == key)).map Prod.fst = (Entries.keys entries).find? (· == key) := by
    intro entries
    rw [Entries.keys, List.find?_map]
    rfl
  rw [spelled, spelled, keys]

/-- Matching documents meet in the same clash, whichever comes first. -/
theorem Matches.clash?_comm (h : Matches first second) (path : List Scalar) :
    clash? path first second = clash? path second first := by
  induction h generalizing path with
  | leaf _ => rfl
  | @object fields others keys values ih =>
      have clashes : ∀ key ∈ Entries.keys others,
          (Entries.get? (clashFields path fields others) key).join =
            (Entries.get? (clashFields path others fields) key).join := by
        intro key _
        have spells := find?_of_keys keys key
        rw [get?_clashFields, get?_clashFields, Entries.get?_eq_find?, Entries.get?_eq_find?]
        cases found : fields.find? (·.1 == key) with
        | none =>
            rw [found] at spells
            rw [Option.map_eq_none_iff.mp spells.symm]
        | some entry =>
            rw [found] at spells
            obtain ⟨entry', found', same⟩ := Option.map_eq_some_iff.mp spells.symm
            rw [found']
            have held : Entries.get? fields key = some entry.2 := by
              rw [Entries.get?_eq_find?, found]
              rfl
            have held' : Entries.get? others key = some entry'.2 := by
              rw [Entries.get?_eq_find?, found']
              rfl
            change clash? (path ++ [entry'.1]) entry.2 entry'.2 =
              clash? (path ++ [entry.1]) entry'.2 entry.2
            rw [same]
            exact ih key entry.2 entry'.2 held held' (path ++ [entry.1])
      have firsts : ∀ (entries : Fields) (found : Scalar → Option Clash),
          entries.findSome? (fun entry => found entry.1) =
            (Entries.keys entries).findSome? found := fun entries found =>
        (List.findSome?_map ..).symm
      rw [clash?, clash?, firsts others fun key =>
          (Entries.get? (clashFields path fields others) key).join,
        firsts fields fun key => (Entries.get? (clashFields path others fields) key).join, keys]
      rw [← List.head?_filterMap, ← List.head?_filterMap, List.filterMap_congr clashes]

end Document

end PolicyTopology
