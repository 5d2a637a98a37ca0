import PolicyTopology.Proofs.Document.Union

/-!
# The union of two objects as a partial join

Two objects have a union unless a path leads to a clash between them, and then the union ends in
such a clash. The union holds a value under a path if one of the two does, that of the first one if
both do. Taken up to what the objects hold, the order and the grouping of unions make no difference,
also not to whether there is a union at all. An object has a union with itself if no path leads to
the mark that there is no number, which agrees with nothing.
-/

namespace PolicyTopology

/-- Two computations that succeed together, with results that are related. -/
def Except.Together {ε ε' α β : Type} (related : α → β → Prop) : Except ε α → Except ε' β → Prop
  | .ok first, .ok second => related first second
  | .error _, .error _ => True
  | _, _ => False

namespace Except

variable {ε ε' ε'' α β γ : Type} {first : Except ε α} {second : Except ε' β} {third : Except ε'' γ}
  {related : α → β → Prop} {related' : β → γ → Prop}

theorem Together.swap (h : Together related first second) :
    Together (fun result other => related other result) second first := by
  cases first <;> cases second <;> exact h

theorem Together.trans (h : Together related first second) (h' : Together related' second third) :
    Together (fun result other => ∃ middle, related result middle ∧ related' middle other)
      first third := by
  cases second with
  | error error =>
      cases first with
      | ok result => exact h.elim
      | error error => cases third <;> exact h'
  | ok middle =>
      cases first with
      | error error => exact h.elim
      | ok result =>
          cases third with
          | error error => exact h'.elim
          | ok other => exact ⟨middle, h, h'⟩

theorem Together.imp {related' : α → β → Prop} (h : Together related first second)
    (imp : ∀ result other, related result other → related' result other) :
    Together related' first second := by
  cases first <;> cases second <;> first | exact imp _ _ h | exact h

end Except

namespace Document

variable {first second : Document} {path : List Scalar}

theorem at?_combine_of_leaf (h : first.Consistent second)
    (leaf : (first.isObject && second.isObject) = false) :
    (combine (fun value _ => value) first second).at? path =
      (first.at? path).merge (combine fun value _ => value) (second.at? path) := by
  rw [combine_of_not_isObject leaf]
  have alike := isObject_of_agrees ((consistent_iff_agrees leaf).mp h)
  cases path with
  | nil => rw [at?_nil, at?_nil, Option.merge_some_some, combine_of_not_isObject leaf]
  | cons key rest =>
      rw [alike, Bool.and_self] at leaf
      rw [at?_cons_of_not_isObject (alike.trans leaf), at?_cons_of_not_isObject leaf,
        Option.merge_none_right]

/-- The join of consistent documents holds what one of them holds, and where both hold something
what the two come to. -/
theorem at?_combine (h : first.Consistent second) :
    (combine (fun value _ => value) first second).at? path =
      (first.at? path).merge (combine fun value _ => value) (second.at? path) := by
  induction first generalizing second path with
  | scalar value => exact at?_combine_of_leaf h rfl
  | array items => exact at?_combine_of_leaf h rfl
  | object fields ih =>
      rcases both_objects (.object fields) second with ⟨_, others, same, rfl⟩ | leaf
      · cases same
        cases path with
        | nil => rw [at?_nil, at?_nil, at?_nil, Option.merge_some_some]
        | cons key rest =>
            rw [combine_object, at?_object_cons, at?_object_cons, at?_object_cons, get?_combined]
            cases held : Entries.get? fields key with
            | none => simp
            | some value =>
                cases held' : Entries.get? others key with
                | none => simp
                | some other =>
                    exact ih key value held (consistent_object_iff.mp h key value other held held')
      · exact at?_combine_of_leaf h leaf

theorem combine_eq_leaf_iff {value : Document} :
    combine (fun value _ => value) first second = value ∧ value.isObject = false ↔
      first = value ∧ value.isObject = false := by
  rcases both_objects first second with ⟨fields, others, rfl, rfl⟩ | leaf
  · rw [combine_object]
    constructor
    · rintro ⟨rfl, leaf⟩
      cases leaf
    · rintro ⟨rfl, leaf⟩
      cases leaf
  · rw [combine_of_not_isObject leaf]

theorem clash?_of_leaf (above : List Scalar) (leaf : (first.isObject && second.isObject) = false) :
    clash? above first second =
      if agrees first second then none else some ⟨above, first, second⟩ := by
  cases first with
  | scalar value => rw [clash?]; simp
  | array items => rw [clash?]; simp
  | object fields =>
      cases second with
      | scalar value => rw [clash?]; simp
      | array items => rw [clash?]; simp
      | object others => cases leaf

/-- A clash between two objects is one between what they hold under a key. -/
theorem exists_of_clash?_object {fields others : Fields} {above : List Scalar} {clash : Clash}
    (h : clash? above (.object fields) (.object others) = some clash) :
    ∃ key value other, Entries.get? fields key = some value ∧
      Entries.get? others key = some other ∧ clash? (above ++ [key]) value other = some clash := by
  rw [clash?] at h
  obtain ⟨entry, member, h⟩ := List.exists_of_findSome?_eq_some h
  obtain ⟨other, held'⟩ := Entries.exists_get?_of_mem member
  cases held : Entries.get? fields entry.1 with
  | none =>
      have absent := (get?_clashFields_of_absent (.inl held)).symm.trans h
      cases absent
  | some value =>
      obtain ⟨key, spelled, found⟩ := get?_clashFields_of_held above held held'
      exact ⟨key, value, other, (Entries.get?_congr fields spelled).trans held,
        (Entries.get?_congr others spelled).trans held', found.symm.trans h⟩

theorem leads_of_clash?_of_leaf {above : List Scalar} {clash : Clash}
    (h : clash? above first second = some clash)
    (leaf : (first.isObject && second.isObject) = false) :
    ∃ below, clash.path = above ++ below ∧ first.at? below = some clash.first ∧
      second.at? below = some clash.second ∧
      (clash.first.isObject && clash.second.isObject) = false ∧
      agrees clash.first clash.second = false := by
  rw [clash?_of_leaf above leaf] at h
  split at h
  · cases h
  · next differ =>
    cases h
    exact ⟨[], (List.append_nil above).symm, at?_nil first, at?_nil second, leaf,
      Bool.eq_false_iff.mpr differ⟩

/-- A clash is found where a path leads to it in both documents. -/
theorem leads_of_clash? {above : List Scalar} {clash : Clash}
    (h : clash? above first second = some clash) :
    ∃ below, clash.path = above ++ below ∧ first.at? below = some clash.first ∧
      second.at? below = some clash.second ∧
      (clash.first.isObject && clash.second.isObject) = false ∧
      agrees clash.first clash.second = false := by
  induction first generalizing second above with
  | scalar value => exact leads_of_clash?_of_leaf h rfl
  | array items => exact leads_of_clash?_of_leaf h rfl
  | object fields ih =>
      rcases both_objects (.object fields) second with ⟨_, others, same, rfl⟩ | leaf
      · cases same
        obtain ⟨key, value, other, held, held', h⟩ := exists_of_clash?_object h
        obtain ⟨below, path, leads, leads', differ⟩ := ih key value held h
        refine ⟨key :: below, ?_, ?_, ?_, differ⟩
        · rw [path, List.append_assoc, List.singleton_append]
        · rw [at?_object_cons, held, Option.bind_some, leads]
        · rw [at?_object_cons, held', Option.bind_some, leads']
      · exact leads_of_clash?_of_leaf h leaf

end Document

namespace Fields

variable {first second third fields : Fields} {path : List Scalar} {value other : Document}

/-- A path leads to a value in each of two objects, not to two objects, and they do not agree. -/
structure ClashesAt (first second : Fields) (path : List Scalar) (value other : Document) :
    Prop where
  first : Document.at? (.object first) path = some value
  second : Document.at? (.object second) path = some other
  leaf : (value.isObject && other.isObject) = false
  differ : Document.agrees value other = false

theorem consistent_iff : first.Consistent second ↔
    ¬ ∃ path value other, first.ClashesAt second path value other := by
  constructor
  · rintro consistent ⟨path, value, other, clash⟩
    rcases consistent path value other clash.first clash.second with both | agree
    · have leaf := clash.leaf
      rw [both.1, both.2] at leaf
      cases leaf
    · exact nomatch clash.differ.symm.trans agree
  · intro none path value other found found'
    cases leaf : value.isObject && other.isObject with
    | true => exact .inl (Bool.and_eq_true_iff.mp leaf)
    | false =>
        cases differ : Document.agrees value other with
        | true => exact .inr differ
        | false => exact absurd ⟨path, value, other, found, found', leaf, differ⟩ none

theorem union_ok_iff :
    first.union second = .ok fields ↔ first.Consistent second ∧ first.join second = fields := by
  unfold union Consistent
  rw [← clash?_eq_none_iff]
  cases first.clash? second <;> simp

theorem clashesAt_of_union {clash : Clash} (h : first.union second = .error clash) :
    first.ClashesAt second clash.path clash.first clash.second := by
  unfold union at h
  split at h
  · next found =>
    cases h
    obtain ⟨below, path, leads, leads', leaf, differ⟩ := Document.leads_of_clash? found
    rw [List.nil_append] at path
    exact ⟨path ▸ leads, path ▸ leads', leaf, differ⟩
  · cases h

theorem at?_join (h : first.Consistent second) :
    Document.at? (.object (first.join second)) path =
      (Document.at? (.object first) path).merge (Document.combine fun value _ => value)
        (Document.at? (.object second) path) := by
  rw [← Document.at?_combine h, Document.combine_object]
  rfl

/-- Values other than objects are those of the first object where it has something. -/
theorem hasLeaf_join_iff (h : first.Consistent second) :
    Document.HasLeaf (.object (first.join second)) path value ↔
      Document.HasLeaf (.object first) path value ∨
        Document.at? (.object first) path = none ∧
          Document.HasLeaf (.object second) path value := by
  unfold Document.HasLeaf
  rw [at?_join h]
  cases Document.at? (.object first) path with
  | none => simp
  | some found =>
      cases Document.at? (.object second) path with
      | none => simp
      | some found' => simpa using Document.combine_eq_leaf_iff

def Same (first second : Fields) : Prop := Document.same (.object first) (.object second) = true

theorem same_of_shows (h : ∀ path value, first.Shows path value ↔ second.Shows path value) :
    first.Same second := Document.same_of_shows h

theorem Same.symm (h : first.Same second) : second.Same first := Document.same_symm h

theorem Same.trans (h : first.Same second) (h' : second.Same third) : first.Same third :=
  Document.same_of_same h.symm h'

theorem together_refl (outcome : Except Clash Fields) : Except.Together Same outcome outcome := by
  cases outcome with
  | ok fields => exact Document.same_refl _
  | error clash => trivial

/-- Objects in which look-up finds the same are the same. -/
theorem same_of_get? (h : ∀ key, Entries.get? first key = Entries.get? second key) :
    first.Same second :=
  same_of_shows fun _ _ => Document.shows_object_congr h

theorem Consistent.symm (h : first.Consistent second) : second.Consistent first :=
  Document.Consistent.symm h

section Laws

variable {parts others all : List Fields} {left right : Except Clash Fields}
  {next : Fields → Except Clash Fields}

/-- What comes of uniting consistent objects in some order and grouping. -/
structure JoinOf (parts : List Fields) (fields : Fields) : Prop where
  consistent : parts.Pairwise Consistent
  consistent_iff : ∀ other, fields.Consistent other ↔ ∀ part ∈ parts, part.Consistent other
  shows_iff : ∀ path value, fields.Shows path value ↔ ∃ part ∈ parts, part.Shows path value

/-- The outcome of uniting objects in some order and grouping. -/
def Unites (parts : List Fields) : Except Clash Fields → Prop
  | .ok fields => JoinOf parts fields
  | .error _ => ¬ parts.Pairwise Consistent

theorem joinOf_singleton (fields : Fields) : JoinOf [fields] fields where
  consistent := List.pairwise_singleton _ _
  consistent_iff other := by simp
  shows_iff path value := by simp

theorem JoinOf.union (h : JoinOf parts first) (h' : JoinOf others second) :
    Unites (parts ++ others) (first.union second) := by
  have consistent_iff : first.Consistent second ↔
      ∀ part ∈ parts, ∀ other ∈ others, part.Consistent other := by
    rw [h.consistent_iff]
    refine forall₂_congr fun part _ => ?_
    exact ⟨fun both other member => ((h'.consistent_iff part).mp both.symm other member).symm,
      fun each => ((h'.consistent_iff part).mpr fun other member => (each other member).symm).symm⟩
  cases united : first.union second with
  | error clash =>
      intro pairwise
      have consistent := consistent_iff.mpr (List.pairwise_append.mp pairwise).2.2
      rw [union_of_consistent consistent] at united
      cases united
  | ok fields =>
      obtain ⟨consistent, rfl⟩ := union_ok_iff.mp united
      refine ⟨List.pairwise_append.mpr ⟨h.consistent, h'.consistent, consistent_iff.mp consistent⟩,
        fun other => ?_, fun path value => ?_⟩
      · rw [Consistent, consistent_join_iff consistent]
        refine (and_congr (h.consistent_iff other) (h'.consistent_iff other)).trans ?_
        simp only [List.mem_append, or_imp, forall_and]
      · rw [shows_join_iff consistent, h.shows_iff, h'.shows_iff]
        simp only [List.mem_append, or_and_right, exists_or]

/-- What cannot be united by itself cannot be united with more. -/
theorem Unites.bind (h : Unites parts left) (among : parts.Sublist all)
    (h' : ∀ fields, JoinOf parts fields → Unites all (next fields)) :
    Unites all (left >>= next) := by
  cases left with
  | error clash => exact fun pairwise => h (pairwise.sublist among)
  | ok fields => exact h' fields h

theorem Unites.perm (h : Unites parts left) (perm : parts.Perm others) : Unites others left := by
  have pairwise := perm.pairwise_iff fun {first second : Fields} (h : first.Consistent second) =>
    h.symm
  cases left with
  | error clash => exact fun consistent => h (pairwise.mpr consistent)
  | ok fields =>
      refine ⟨pairwise.mp h.consistent, fun other => ?_, fun path value => ?_⟩
      · simp only [h.consistent_iff, perm.mem_iff]
      · simp only [h.shows_iff, perm.mem_iff]

/-- However objects are united, it comes to the same. -/
theorem Unites.together (h : Unites parts left) (h' : Unites parts right) :
    Except.Together Same left right := by
  cases left with
  | error clash =>
      cases right with
      | error clash => trivial
      | ok fields => exact h h'.consistent
  | ok fields =>
      cases right with
      | error clash => exact h' h.consistent
      | ok others => exact same_of_shows fun path value => by rw [h.shows_iff, h'.shows_iff]

theorem unites_union (first second : Fields) : Unites [first, second] (first.union second) :=
  (joinOf_singleton first).union (joinOf_singleton second)

theorem union_comm (first second : Fields) :
    Except.Together Same (first.union second) (second.union first) :=
  (unites_union first second).together
    ((unites_union second first).perm (List.Perm.swap first second []))

theorem union_assoc (first second third : Fields) :
    Except.Together Same (first.union second >>= fun joined => joined.union third)
      (second.union third >>= fun joined => first.union joined) := by
  have leftmost : Unites [first, second, third]
      (first.union second >>= fun joined => joined.union third) :=
    (unites_union first second).bind (List.sublist_append_left [first, second] [third])
      fun _ joined => joined.union (joinOf_singleton third)
  have rightmost : Unites [first, second, third]
      (second.union third >>= fun joined => first.union joined) :=
    (unites_union second third).bind (List.sublist_cons_self first [second, third])
      fun _ joined => (joinOf_singleton first).union joined
  exact leftmost.together rightmost

/-- An object is consistent with itself if every number in it is one. -/
theorem consistent_self_iff : first.Consistent first ↔
    ∀ path value, Document.at? (.object first) path = some value → value.isNotANumber = false := by
  constructor
  · intro consistent path value found
    rcases consistent path value value found found with ⟨isObject, _⟩ | agree
    · cases value with
      | object fields => rfl
      | scalar value => cases isObject
      | array items => cases isObject
    · rw [Document.agrees, Bool.and_eq_true, Bool.not_eq_true'] at agree
      exact agree.2
  · intro numbers path value other found found'
    obtain rfl : value = other := Option.some.inj (found.symm.trans found')
    refine .inr ?_
    rw [Document.agrees, Document.same_refl, numbers path value found]
    rfl

theorem same_of_union_self (h : first.union first = .ok fields) : fields.Same first := by
  have joined : JoinOf [first, first] fields := by
    have united := unites_union first first
    rwa [h] at united
  exact same_of_shows fun path value => by simp [joined.shows_iff]

/-- The union of two objects is their join, path by path. -/
structure JoinsPaths (first second : Fields) : Prop where
  /-- There is a union unless a path leads to a clash. -/
  exists_iff : (∃ fields, first.union second = .ok fields) ↔
    ¬ ∃ path value other, first.ClashesAt second path value other
  /-- What is reported when there is none is such a clash. -/
  clash : ∀ clash, first.union second = .error clash →
    first.ClashesAt second clash.path clash.first clash.second
  /-- A path leads to something if it does in one of the two. -/
  holds_iff : ∀ fields, first.union second = .ok fields → ∀ path,
    (Document.at? (.object fields) path).isSome = true ↔
      (Document.at? (.object first) path).isSome = true ∨
        (Document.at? (.object second) path).isSome = true
  /-- What is no object comes from the first one, or else from the second one. -/
  leaf_iff : ∀ fields, first.union second = .ok fields → ∀ path value,
    Document.HasLeaf (.object fields) path value ↔
      Document.HasLeaf (.object first) path value ∨
        Document.at? (.object first) path = none ∧ Document.HasLeaf (.object second) path value
  /-- It agrees with what the second one has there, if both have something. -/
  agrees : ∀ fields, first.union second = .ok fields → ∀ path value other,
    Document.HasLeaf (.object fields) path value →
      Document.at? (.object first) path ≠ none →
        Document.at? (.object second) path = some other → Document.agrees value other = true

theorem joinsPaths (first second : Fields) : JoinsPaths first second where
  exists_iff := by
    rw [← consistent_iff]
    constructor
    · rintro ⟨fields, united⟩
      exact (union_ok_iff.mp united).1
    · exact fun consistent => ⟨_, union_of_consistent consistent⟩
  clash _ := clashesAt_of_union
  holds_iff := by
    intro fields united path
    obtain ⟨consistent, rfl⟩ := union_ok_iff.mp united
    rw [at?_join consistent]
    cases Document.at? (.object first) path <;> cases Document.at? (.object second) path <;> simp
  leaf_iff := by
    intro fields united path value
    obtain ⟨consistent, rfl⟩ := union_ok_iff.mp united
    exact hasLeaf_join_iff consistent
  agrees := by
    intro fields united path value other leaf present found
    obtain ⟨consistent, rfl⟩ := union_ok_iff.mp united
    rcases (hasLeaf_join_iff consistent).mp leaf with ⟨found', _⟩ | ⟨absent, _⟩
    · rcases consistent path value other found' found with ⟨isObject, _⟩ | agree
      · exact nomatch leaf.2.symm.trans isObject
      · exact agree
    · exact absurd absent present

/-- The laws of unions, up to what objects hold. -/
structure JoinLaws (first second third : Fields) : Prop where
  paths : JoinsPaths first second
  comm : Except.Together Same (first.union second) (second.union first)
  assoc : Except.Together Same (first.union second >>= fun joined => joined.union third)
    (second.union third >>= fun joined => first.union joined)
  /-- An object has a union with itself if every number in it is one, and that is the object. -/
  idem_iff : Except.Together Same (first.union first) (.ok first : Except Clash Fields) ↔
    ∀ path value, Document.at? (.object first) path = some value → value.isNotANumber = false

theorem joinLaws (first second third : Fields) : JoinLaws first second third where
  paths := joinsPaths first second
  comm := union_comm first second
  assoc := union_assoc first second third
  idem_iff := by
    rw [← consistent_self_iff]
    cases united : first.union first with
    | ok fields => exact ⟨fun _ => (union_ok_iff.mp united).1, fun _ => same_of_union_self united⟩
    | error clash =>
        refine ⟨False.elim, fun consistent => ?_⟩
        rw [union_of_consistent consistent] at united
        cases united

end Laws

end Fields

end PolicyTopology
