import PolicyTopology.Proofs.Document.Reading
import Mathlib.Data.List.Find

/-!
# Agreement between documents

To hold the same value is an equivalence of documents. Two documents are consistent if no path leads
to values in both that leave a doubt: either both are objects, or they agree. A join of consistent
documents is consistent with a third one exactly if both of them are, so whether any number of
documents can be united does not depend on the order in which they are.
-/

namespace PolicyTopology

namespace Entries

variable {κ α : Type} [BEq κ] {entries : Entries κ α} {key : κ}

theorem exists_mem_of_get? {value : α} (h : get? entries key = some value) :
    ∃ entry ∈ entries, (entry.1 == key) = true ∧ entry.2 = value := by
  induction entries with
  | nil => cases h
  | cons first rest ih =>
      rw [get?_cons] at h
      split at h
      · next same => exact ⟨first, List.mem_cons_self, same, Option.some.inj h⟩
      · obtain ⟨entry, member, found⟩ := ih h
        exact ⟨entry, List.mem_cons_of_mem first member, found⟩

theorem exists_get?_of_mem [ReflBEq κ] {entry : κ × α} (member : entry ∈ entries) :
    ∃ value, get? entries entry.1 = some value := by
  induction entries with
  | nil => cases member
  | cons first rest ih =>
      rw [get?_cons]
      split
      · exact ⟨first.2, rfl⟩
      · next other =>
        rcases List.mem_cons.mp member with rfl | member
        · exact absurd BEq.rfl other
        · exact ih member

end Entries

namespace Document

/-- Induction over documents, where the parts of an object are the values that look-up finds. -/
@[elab_as_elim, induction_eliminator]
theorem induct {motive : Document → Prop} (scalar : ∀ value, motive (.scalar value))
    (array : ∀ items, (∀ item ∈ items, motive item) → motive (.array items))
    (object : ∀ fields : Fields,
      (∀ key value, Entries.get? fields key = some value → motive value) →
      motive (.object fields)) (document : Document) : motive document := by
  cases document with
  | scalar value => exact scalar value
  | array items => exact array items fun item member => induct scalar array object item
  | object fields =>
      refine object fields fun key value found => ?_
      have smaller : sizeOf value < 1 + sizeOf fields := by
        obtain ⟨entry, member, _, rfl⟩ := Entries.exists_mem_of_get? found
        have := List.sizeOf_lt_of_mem member
        obtain ⟨key, value⟩ := entry
        rw [Prod.mk.sizeOf_spec] at this
        dsimp only
        omega
      exact induct scalar array object value
termination_by sizeOf document
decreasing_by
  · have := List.sizeOf_lt_of_mem member
    simp only [Document.array.sizeOf_spec]
    omega
  · simpa only [Document.object.sizeOf_spec] using smaller

theorem get?_agreement (first second : Fields) (key : Scalar) :
    Entries.get? (agreement first second) key = (Entries.get? first key).map fun value =>
      match Entries.get? second key with
      | some other => same value other
      | none => false := by
  induction first with
  | nil => simp [agreement]
  | cons entry rest ih =>
      simp only [agreement, Entries.get?_cons]
      split
      · next h =>
        rw [Entries.get?_congr second h]
        rfl
      · exact ih

/-- Objects are the same if look-up finds the same in them. -/
theorem same_object_iff {first second : Fields} :
    same (.object first) (.object second) = true ↔
      (∀ key value, Entries.get? first key = some value →
        ∃ other, Entries.get? second key = some other ∧ same value other = true) ∧
      ∀ key, Entries.get? first key = none → Entries.get? second key = none := by
  rw [same]
  simp only [Bool.and_eq_true, List.all_eq_true, beq_iff_eq]
  refine and_congr ?_ ?_
  · constructor
    · intro all key value found
      have agreed := get?_agreement first second key
      rw [found, Option.map_some] at agreed
      obtain ⟨entry, member, spelled, _⟩ := Entries.exists_mem_of_get? agreed
      have holds := all entry member
      rw [Entries.get?_congr _ spelled, agreed] at holds
      cases held : Entries.get? second key with
      | none => simp [held] at holds
      | some other => exact ⟨other, rfl, by simpa [held] using holds⟩
    · intro each entry member
      obtain ⟨value, found⟩ := Entries.exists_get?_of_mem member
      rw [get?_agreement] at found ⊢
      obtain ⟨value, held, _⟩ := Option.map_eq_some_iff.mp found
      obtain ⟨other, held', agrees⟩ := each entry.1 value held
      rw [held, held', Option.map_some]
      exact congrArg some agrees
  · constructor
    · intro all key absent
      rw [Option.eq_none_iff_forall_ne_some]
      intro value found
      obtain ⟨entry, member, spelled, _⟩ := Entries.exists_mem_of_get? found
      have known := all entry member
      rw [Entries.contains_congr _ spelled, Entries.contains, absent] at known
      cases known
    · intro none entry member
      obtain ⟨value, found⟩ := Entries.exists_get?_of_mem member
      rw [Entries.contains, Option.isSome_iff_ne_none]
      intro absent
      cases (none entry.1 absent).symm.trans found

theorem same_refl (document : Document) : same document document = true := by
  induction document with
  | scalar value =>
      rw [same]
      exact BEq.rfl
  | array items ih =>
      rw [same]
      induction items with
      | nil => rfl
      | cons item rest next =>
          rw [sameItems, ih item List.mem_cons_self,
            next fun other member => ih other (List.mem_cons_of_mem item member)]
          rfl
  | object fields ih =>
      exact same_object_iff.mpr ⟨fun key value found => ⟨value, found, ih key value found⟩,
        fun _ none => none⟩

/-- Two lists are the same if their items are the same as those of a third list. -/
theorem sameItems_of_sameItems {items second third : List Document}
    (step : ∀ item ∈ items, ∀ {second third : Document}, same item second = true →
      same item third = true → same second third = true)
    (h : sameItems items second = true) (h' : sameItems items third = true) :
    sameItems second third = true := by
  induction items generalizing second third with
  | nil =>
      cases second with
      | cons item rest => cases h
      | nil =>
      cases third with
      | cons item rest => cases h'
      | nil => rfl
  | cons item rest next =>
      cases second with
      | nil => cases h
      | cons item' rest' =>
      cases third with
      | nil => cases h'
      | cons item'' rest'' =>
          rw [sameItems, Bool.and_eq_true] at h h' ⊢
          exact ⟨step item List.mem_cons_self h.1 h'.1,
            next (fun other member => step other (List.mem_cons_of_mem item member)) h.2 h'.2⟩

/-- Two objects are the same if they are the same as a third one. -/
theorem same_object_of_same_object {fields second third : Fields}
    (step : ∀ key value, Entries.get? fields key = some value → ∀ {second third : Document},
      same value second = true → same value third = true → same second third = true)
    (h : same (.object fields) (.object second) = true)
    (h' : same (.object fields) (.object third) = true) :
    same (.object second) (.object third) = true := by
  obtain ⟨agrees, keys⟩ := same_object_iff.mp h
  obtain ⟨agrees', keys'⟩ := same_object_iff.mp h'
  refine same_object_iff.mpr ⟨fun key value found => ?_, fun key none => keys' key ?_⟩
  · cases held : Entries.get? fields key with
    | none => exact nomatch (keys key held).symm.trans found
    | some common =>
        obtain ⟨value', found', same'⟩ := agrees key common held
        obtain ⟨other, found'', same''⟩ := agrees' key common held
        rw [found] at found'
        cases found'
        exact ⟨other, found'', step key common held same' same''⟩
  · rw [Option.eq_none_iff_forall_ne_some]
    intro common held
    obtain ⟨value, found, _⟩ := agrees key common held
    exact nomatch none.symm.trans found

/-- Two documents that are the same as a third one are the same. -/
theorem same_of_same {first second third : Document} (h : same first second = true)
    (h' : same first third = true) : same second third = true := by
  induction first generalizing second third with
  | scalar value =>
      cases second with
      | array items => cases h
      | object fields => cases h
      | scalar second =>
      cases third with
      | array items => cases h'
      | object fields => cases h'
      | scalar third =>
          rw [same] at h h' ⊢
          exact BEq.trans (BEq.symm h) h'
  | array items ih =>
      cases second with
      | scalar value => cases h
      | object fields => cases h
      | array second =>
      cases third with
      | scalar value => cases h'
      | object fields => cases h'
      | array third =>
          rw [same] at h h' ⊢
          exact sameItems_of_sameItems ih h h'
  | object fields ih =>
      cases second with
      | scalar value => cases h
      | array items => cases h
      | object second =>
      cases third with
      | scalar value => cases h'
      | array items => cases h'
      | object third =>
          exact same_object_of_same_object ih h h'

theorem isObject_of_same {first second : Document} (h : same first second = true) :
    first.isObject = second.isObject := by
  cases first <;> cases second <;> first | rfl | cases h

theorem isNotANumber_iff {value : Scalar} :
    (Document.scalar value).isNotANumber = true ↔ value.value = .number .notANumber := by
  cases value with
  | float value => cases value <;> simp [isNotANumber, Scalar.value, Binary64.value]
  | null => simp [isNotANumber, Scalar.value]
  | bool value => simp [isNotANumber, Scalar.value]
  | int value => simp [isNotANumber, Scalar.value]
  | string text => simp [isNotANumber, Scalar.value]

theorem isNotANumber_of_same {first second : Document} (h : same first second = true) :
    first.isNotANumber = second.isNotANumber := by
  cases first with
  | array items => cases second <;> first | rfl | cases h
  | object fields => cases second <;> first | rfl | cases h
  | scalar value =>
      cases second with
      | array items => cases h
      | object fields => cases h
      | scalar other =>
          rw [same, Scalar.beq_iff] at h
          rw [Bool.eq_iff_iff, isNotANumber_iff, isNotANumber_iff, h]

/-- Two documents that agree with a third one agree. -/
theorem agrees_of_agrees {first second third : Document} (h : agrees first second = true)
    (h' : agrees first third = true) : agrees second third = true := by
  unfold agrees at h h' ⊢
  rw [Bool.and_eq_true] at h h' ⊢
  exact ⟨same_of_same h.1 h'.1, isNotANumber_of_same h.1 ▸ h.2⟩

theorem agrees_symm {first second : Document} (h : agrees first second = true) :
    agrees second first = true := by
  unfold agrees at h ⊢
  rw [Bool.and_eq_true] at h ⊢
  exact ⟨same_of_same h.1 (same_refl first), isNotANumber_of_same h.1 ▸ h.2⟩

theorem isObject_of_agrees {first second : Document} (h : agrees first second = true) :
    first.isObject = second.isObject := by
  unfold agrees at h
  rw [Bool.and_eq_true] at h
  exact isObject_of_same h.1

/-- Two values under one key leave no doubt. -/
def Compatible (first second : Document) : Prop :=
  (first.isObject = true ∧ second.isObject = true) ∨ agrees first second = true

/-- Wherever a path leads in both documents, it leads to compatible values. -/
def Consistent (first second : Document) : Prop :=
  ∀ path value other, first.at? path = some value → second.at? path = some other →
    value.Compatible other

theorem Compatible.symm {first second : Document} (h : first.Compatible second) :
    second.Compatible first :=
  h.imp And.symm agrees_symm

theorem Consistent.symm {first second : Document} (h : first.Consistent second) :
    second.Consistent first :=
  fun path value other found found' => (h path other value found' found).symm

theorem consistent_iff_agrees {first second : Document}
    (h : (first.isObject && second.isObject) = false) :
    first.Consistent second ↔ agrees first second = true := by
  constructor
  · intro consistent
    rcases consistent [] first second (at?_nil first) (at?_nil second) with objects | agrees
    · rw [objects.1, objects.2] at h
      cases h
    · exact agrees
  · intro agree path value other found found'
    cases path with
    | nil =>
        rw [at?_nil] at found found'
        cases found
        cases found'
        exact .inr agree
    | cons key rest =>
        rw [← isObject_of_agrees agree, Bool.and_self] at h
        rw [at?_cons_of_not_isObject h] at found
        cases found

theorem consistent_object_iff {first second : Fields} :
    Consistent (.object first) (.object second) ↔ ∀ key value other,
      Entries.get? first key = some value → Entries.get? second key = some other →
        value.Consistent other := by
  constructor
  · intro consistent key value other held held' path
    have below := consistent (key :: path)
    rwa [at?_object_cons, at?_object_cons, held, held'] at below
  · intro each path value other found found'
    cases path with
    | nil =>
        rw [at?_nil] at found found'
        cases found
        cases found'
        exact .inl ⟨rfl, rfl⟩
    | cons key rest =>
        rw [at?_object_cons, Option.bind_eq_some_iff] at found found'
        obtain ⟨value', held, found⟩ := found
        obtain ⟨other', held', found'⟩ := found'
        exact each key value' other' held held' rest value other found found'

theorem get?_clashFields (path : List Scalar) (first second : Fields) (key : Scalar) :
    Entries.get? (clashFields path first second) key =
      (Entries.get? first key).map fun value => match second.find? (·.1 == key) with
        | some (spelled, other) => clash? (path ++ [spelled]) value other
        | none => none := by
  induction first with
  | nil => rfl
  | cons entry rest ih =>
      simp only [clashFields, Entries.get?_cons]
      split
      · next h =>
        rw [List.find?_congr fun other _ => (BEq.congr_right h : (other.1 == entry.1) = _)]
        rfl
      · exact ih

/-- Under a key that both objects have, the path to a clash spells it as the second one does. -/
theorem get?_clashFields_of_held (path : List Scalar) {first second : Fields} {key : Scalar}
    {value other : Document} (held : Entries.get? first key = some value)
    (held' : Entries.get? second key = some other) :
    ∃ spelled, (spelled == key) = true ∧
      (Entries.get? (clashFields path first second) key).join =
        clash? (path ++ [spelled]) value other := by
  rw [Entries.get?_eq_find?, Option.map_eq_some_iff] at held'
  obtain ⟨⟨spelled, _⟩, found, rfl⟩ := held'
  refine ⟨spelled, by simpa using List.find?_some found, ?_⟩
  rw [get?_clashFields, held, found]
  rfl

theorem get?_clashFields_of_absent {path : List Scalar} {first second : Fields} {key : Scalar}
    (h : Entries.get? first key = none ∨ Entries.get? second key = none) :
    (Entries.get? (clashFields path first second) key).join = none := by
  rw [get?_clashFields]
  rcases h with absent | absent
  · rw [absent]
    rfl
  · rw [Entries.get?_eq_find?, Option.map_eq_none_iff] at absent
    rw [absent]
    cases Entries.get? first key <;> rfl

/-- There is no clash between objects whose values under each key are consistent. -/
theorem clash?_object_eq_none_iff {fields others : Fields} (path : List Scalar)
    (step : ∀ key value, Entries.get? fields key = some value → ∀ {second : Document}
      (path : List Scalar), clash? path value second = none ↔ value.Consistent second) :
    clash? path (.object fields) (.object others) = none ↔
      Consistent (.object fields) (.object others) := by
  rw [consistent_object_iff, clash?, List.findSome?_eq_none_iff]
  constructor
  · intro none key value other held held'
    obtain ⟨entry, member, spelled, _⟩ := Entries.exists_mem_of_get? held'
    have none := none entry member
    obtain ⟨key', _, found⟩ := get?_clashFields_of_held path held held'
    rw [Entries.get?_congr _ spelled, found] at none
    exact (step key value held (path ++ [key'])).mp none
  · intro consistent entry member
    obtain ⟨other, held'⟩ := Entries.exists_get?_of_mem member
    cases held : Entries.get? fields entry.1 with
    | none => exact get?_clashFields_of_absent (.inl held)
    | some value =>
        obtain ⟨key', _, found⟩ := get?_clashFields_of_held path held held'
        rw [found]
        exact (step entry.1 value held (path ++ [key'])).mpr
          (consistent entry.1 value other held held')

/-- There is no clash between consistent documents, and there is one between any others. -/
theorem clash?_eq_none_iff {first second : Document} (path : List Scalar) :
    clash? path first second = none ↔ first.Consistent second := by
  induction first generalizing second path with
  | scalar value =>
      rw [consistent_iff_agrees rfl, clash?]
      · simp
      · simp
  | array items =>
      rw [consistent_iff_agrees rfl, clash?]
      · simp
      · simp
  | object fields ih =>
      cases second with
      | scalar value =>
          rw [consistent_iff_agrees rfl, clash?]
          · simp
          · simp
      | array items =>
          rw [consistent_iff_agrees rfl, clash?]
          · simp
          · simp
      | object others =>
          exact clash?_object_eq_none_iff path ih

theorem not_consistent {first second : Document} (h : first.isObject ≠ second.isObject) :
    ¬ first.Consistent second := by
  have single : (first.isObject && second.isObject) = false := by
    rw [Bool.eq_false_iff]
    intro both
    rw [Bool.and_eq_true] at both
    exact h (both.1.trans both.2.symm)
  rw [consistent_iff_agrees single]
  exact fun agrees => h (isObject_of_agrees agrees)

theorem consistent_combine_iff_of_leaf {first second third : Document}
    (h : first.Consistent second) (leaf : (first.isObject && second.isObject) = false) :
    (combine (fun value _ => value) first second).Consistent third ↔
      first.Consistent third ∧ second.Consistent third := by
  rw [combine_of_not_isObject leaf]
  rw [consistent_iff_agrees leaf] at h
  have alike := isObject_of_agrees h
  rw [alike, Bool.and_self] at leaf
  rw [consistent_iff_agrees (by rw [alike, leaf, Bool.false_and]),
    consistent_iff_agrees (by rw [leaf, Bool.false_and])]
  exact ⟨fun agree => ⟨agree, agrees_of_agrees h agree⟩, And.left⟩

/-- The join of consistent documents is consistent with what both of them are consistent with. -/
theorem consistent_combine_iff {first second third : Document} (h : first.Consistent second) :
    (combine (fun value _ => value) first second).Consistent third ↔
      first.Consistent third ∧ second.Consistent third := by
  induction first generalizing second third with
  | scalar value => exact consistent_combine_iff_of_leaf h rfl
  | array items => exact consistent_combine_iff_of_leaf h rfl
  | object fields ih =>
      rcases both_objects (.object fields) second with ⟨_, others, same, rfl⟩ | leaf
      · cases same
        have leafless : third.isObject = false → ∀ fields, ¬ Consistent (.object fields) third :=
          fun leaf fields => not_consistent (by rw [leaf, isObject]; decide)
        rw [combine_object]
        cases third with
        | scalar value => simp only [leafless rfl, and_self]
        | array items => simp only [leafless rfl, and_self]
        | object third =>
            rw [consistent_object_iff] at h
            simp only [consistent_object_iff, get?_combined]
            refine (forall_congr' fun key => ?_).trans forall_and
            have both := fun value other held found consistent =>
              @ih key value held other consistent (h key value other held found)
            cases held : Entries.get? fields key with
            | none => simp
            | some value =>
                cases found : Entries.get? others key with
                | none => simp
                | some other =>
                    cases Entries.get? third key with
                    | none => simp
                    | some last => simpa using both value other held found last
      · exact consistent_combine_iff_of_leaf h leaf

theorem consistent_object_congr {first second : Fields} {third : Document}
    (h : ∀ key, Entries.get? first key = Entries.get? second key) :
    Consistent (.object first) third ↔ Consistent (.object second) third := by
  cases third with
  | object third => simp only [consistent_object_iff, h]
  | scalar value =>
      exact ⟨fun bad => absurd bad (not_consistent (by simp [isObject])),
        fun bad => absurd bad (not_consistent (by simp [isObject]))⟩
  | array items =>
      exact ⟨fun bad => absurd bad (not_consistent (by simp [isObject])),
        fun bad => absurd bad (not_consistent (by simp [isObject]))⟩

end Document

namespace Fields

theorem clash?_eq_none_iff {first second : Fields} :
    first.clash? second = none ↔ Document.Consistent (.object first) (.object second) :=
  Document.clash?_eq_none_iff []

theorem consistent_join_iff {first second : Fields} {third : Document}
    (h : Document.Consistent (.object first) (.object second)) :
    Document.Consistent (.object (first.join second)) third ↔
      Document.Consistent (.object first) third ∧ Document.Consistent (.object second) third := by
  rw [← Document.consistent_combine_iff h, Document.combine_object]
  rfl

end Fields

end PolicyTopology
