import PolicyTopology.Proofs.Document.Layering
import PolicyTopology.Proofs.Document.Matching

/-!
# The leaves of an overlay

A leaf is a value other than an object, at the end of a path of keys. An overlay has the leaves of
the document on top, and from under it those whose paths that document leaves open: it holds nothing
there, and nothing but objects on the way. It has no other leaves. So a document laid over itself is
that document, and one that is laid on top once more changes nothing. Both hold to the letter of
documents whose objects list no key twice, and up to matching of all.
-/

namespace PolicyTopology

namespace Entries

variable {κ α : Type} [BEq κ] {entries others : Entries κ α} {key : κ}

/-- No key is listed twice, however it is spelled. -/
def Distinct (entries : Entries κ α) : Prop :=
  (keys entries).Pairwise fun key other => (key == other) = false

theorem get?_eq_none_of_forall (h : ∀ listed ∈ keys entries, (listed == key) = false) :
    get? entries key = none := by
  have unlisted : contains entries key = false := by
    rw [contains_eq_any, List.any_eq_false]
    exact fun listed member => by simp [h listed member]
  simpa [contains] using unlisted

/-- Entries of distinct keys are told by their keys and by what look-up finds. -/
theorem eq_of_get? [EquivBEq κ] (distinct : Distinct entries) (same : keys entries = keys others)
    (found : ∀ key, get? entries key = get? others key) : entries = others := by
  induction entries generalizing others with
  | nil => exact (List.map_eq_nil_iff.mp same.symm).symm
  | cons entry rest ih =>
    cases others with
    | nil => cases same
    | cons other more =>
      obtain ⟨key, value⟩ := entry
      obtain ⟨key', value'⟩ := other
      obtain ⟨rfl, tail⟩ : key = key' ∧ keys rest = keys more := List.cons.inj same
      obtain ⟨unlike, distinct⟩ := List.pairwise_cons.mp distinct
      have first : value = value' := by
        have first := found key
        rw [get?_cons, get?_cons, if_pos BEq.rfl, if_pos BEq.rfl] at first
        exact Option.some.inj first
      have later : ∀ key, get? rest key = get? more key := by
        intro sought
        cases here : key == sought with
        | false =>
            have later := found sought
            rwa [get?_cons, get?_cons, if_neg (by simp [here]), if_neg (by simp [here])] at later
        | true =>
            have absent : get? rest sought = none := by
              rw [← get?_congr rest here]
              exact get?_eq_none_of_forall fun listed member => by
                rw [BEq.comm, unlike listed member]
            rw [absent, get?_eq_none_of_keys tail.symm absent]
      rw [first, ih distinct tail later]

end Entries

namespace Document

variable {document base top first second value : Document} {fields : Fields} {path : List Scalar}

/-- Nothing is held under a path, and nothing but objects on the way to it. -/
def LeavesOpen (document : Document) (path : List Scalar) : Prop :=
  document.at? path = none ∧ ∀ above below value, path = above ++ below → above ≠ [] → below ≠ [] →
    document.at? above = some value → value.isObject = true

/-- A path that leads to a missing key leads through objects. -/
theorem isObject_of_misses {above below : List Scalar} (h : document.Misses (above ++ below))
    (further : below ≠ []) (found : document.at? above = some value) : value.isObject = true := by
  induction above generalizing document with
  | nil =>
      rw [at?_nil] at found
      cases found
      obtain ⟨key, rest, rfl⟩ := List.exists_cons_of_ne_nil further
      cases value with
      | object fields => rfl
      | scalar value => cases h
      | array items => cases h
  | cons key rest ih =>
      cases document with
      | scalar value => cases h
      | array items => cases h
      | object fields =>
          rw [at?_object_cons, Option.bind_eq_some_iff] at found
          obtain ⟨inner, held, found⟩ := found
          exact ih (misses_object_cons.mp h inner held) found

theorem leavesOpen_of_misses (h : document.Misses path) : document.LeavesOpen path := by
  refine ⟨at?_of_misses h, fun above below value parts _ further found => ?_⟩
  rw [parts] at h
  exact isObject_of_misses h further found

/-- Under a key an object leaves open what the value there does. -/
theorem misses_of_leavesOpen (h : LeavesOpen (.object fields) path) :
    Misses (.object fields) path := by
  obtain ⟨absent, objects⟩ := h
  induction path generalizing fields with
  | nil =>
      rw [at?_nil] at absent
      cases absent
  | cons key rest ih =>
      refine misses_object_cons.mpr fun value held => ?_
      rw [at?_object_cons, held, Option.bind_some] at absent
      have further : rest ≠ [] := by
        rintro rfl
        rw [at?_nil] at absent
        cases absent
      have found : at? (.object fields) [key] = some value := by
        rw [at?_object_cons, held, Option.bind_some, at?_nil]
      have isObject := objects [key] rest value rfl (List.cons_ne_nil _ _) further found
      cases value with
      | scalar value => cases isObject
      | array items => cases isObject
      | object inner =>
          refine ih absent fun above below value parts _ further found => ?_
          refine objects (key :: above) below value (congrArg _ parts) (List.cons_ne_nil _ _)
            further ?_
          rw [at?_object_cons, held, Option.bind_some, found]

theorem leavesOpen_iff_misses : LeavesOpen (.object fields) path ↔ Misses (.object fields) path :=
  ⟨misses_of_leavesOpen, leavesOpen_of_misses⟩

/-- An overlay has the leaves on top, and those under it where a key is missed on top. -/
theorem hasLeaf_overlay_iff : (base.overlay top).HasLeaf path value ↔
    top.HasLeaf path value ∨ top.Misses path ∧ base.HasLeaf path value := by
  simp only [hasLeaf_iff]
  by_cases misses : top.Misses path
  · rw [look_overlay_of_misses misses, look_of_misses misses]
    simp [misses]
  · rw [look_overlay_of_not_misses misses]
    simp [misses]

/-- Objects list no key twice, wherever they are reached through objects. -/
inductive Keyed : Document → Prop
  | leaf {value : Document} (isLeaf : value.isObject = false) : Keyed value
  | object {fields : Fields} (distinct : Entries.Distinct fields)
      (held : ∀ key value, Entries.get? fields key = some value → Keyed value) :
      Keyed (.object fields)

/-- What matches a document that lists no key twice is that document. -/
theorem Matches.eq (h : Matches first second) (keyed : Keyed first) : first = second := by
  induction h with
  | leaf _ => rfl
  | @object fields others keys values ih =>
      cases keyed with
      | leaf isLeaf => cases isLeaf
      | object distinct held =>
          refine congrArg _ (Entries.eq_of_get? distinct keys fun key => ?_)
          cases found : Entries.get? fields key with
          | none => rw [Entries.get?_eq_none_of_keys keys.symm found]
          | some value =>
              cases found' : Entries.get? others key with
              | none => cases found.symm.trans (Entries.get?_eq_none_of_keys keys found')
              | some other => rw [ih key value other found found' (held key value found)]

section Keyed

variable {settle : Document → Document → Document} {others : Fields}

theorem distinct_combined (h : Entries.Distinct fields) (h' : Entries.Distinct others) :
    Entries.Distinct (combineFields settle fields others ++ Entries.newTo others fields) := by
  rw [Entries.Distinct, keys_combined, List.pairwise_append]
  refine ⟨h, List.Pairwise.filter _ h', fun key listed other new => ?_⟩
  have absent := (List.mem_filter.mp new).2
  rw [Entries.contains_eq_any, Bool.not_eq_true', List.any_eq_false] at absent
  simpa using absent key listed

variable (settles : ∀ first second, settle first second = first ∨ settle first second = second)

include settles

theorem keyed_combine_of_leaf (leaf : (first.isObject && second.isObject) = false)
    (h : Keyed first) (h' : Keyed second) : Keyed (combine settle first second) := by
  rw [combine_of_not_isObject leaf]
  rcases settles first second with same | same
  · rwa [same]
  · rwa [same]

/-- To combine two documents repeats no key. -/
theorem keyed_combine (h : Keyed first) (h' : Keyed second) :
    Keyed (combine settle first second) := by
  induction h generalizing second with
  | leaf isLeaf =>
      exact keyed_combine_of_leaf settles (by rw [isLeaf, Bool.false_and]) (.leaf isLeaf) h'
  | @object fields distinct held ih =>
      cases h' with
      | leaf isLeaf =>
          exact keyed_combine_of_leaf settles (by rw [isLeaf, Bool.and_false])
            (.object distinct held) (.leaf isLeaf)
      | @object others distinct' held' =>
          rw [combine_object]
          refine .object (distinct_combined distinct distinct') fun key value found => ?_
          rw [get?_combined] at found
          cases below : Entries.get? fields key with
          | none =>
              rw [below] at found
              exact held' key value found
          | some lower =>
              cases above : Entries.get? others key with
              | none =>
                  rw [below, above] at found
                  exact Option.some.inj found ▸ held key lower below
              | some upper =>
                  rw [below, above] at found
                  exact Option.some.inj found ▸ ih key lower below (held' key upper above)

end Keyed

end Document

namespace Fields

variable {base top : Fields} {path : List Scalar} {value : Document}

/-- A leaf of an object. -/
def HasLeaf (fields : Fields) (path : List Scalar) (value : Document) : Prop :=
  Document.HasLeaf (.object fields) path value

def HasLeafLike (fields : Fields) (path : List Scalar) (value : Document) : Prop :=
  ∃ kept, fields.HasLeaf path kept ∧ Document.same value kept = true

/-- An object leaves a path open. -/
def LeavesOpen (fields : Fields) (path : List Scalar) : Prop :=
  Document.LeavesOpen (.object fields) path

/-- An object lists no key twice, nor do the objects in it. -/
def Keyed (fields : Fields) : Prop := Document.Keyed (.object fields)

/-- Two objects list the same keys in one order, and everything else in them is equal. -/
def Matches (first second : Fields) : Prop :=
  Document.Matches (.object first) (.object second)

theorem hasLeaf_overlay_iff : (base.overlay top).HasLeaf path value ↔
    top.HasLeaf path value ∨ top.LeavesOpen path ∧ base.HasLeaf path value := by
  rw [HasLeaf, ← Document.overlay_object, Document.hasLeaf_overlay_iff, LeavesOpen,
    Document.leavesOpen_iff_misses]
  rfl

theorem keyed_overlay (h : base.Keyed) (h' : top.Keyed) : (base.overlay top).Keyed := by
  rw [Keyed, Document.overlay_eq_combine]
  exact Document.keyed_combine (fun _ _ => .inr rfl) h h'

theorem eq_of_matches {first second : Fields} (h : first.Matches second) (keyed : first.Keyed) :
    first = second :=
  Document.object.inj (Document.Matches.eq h keyed)

-- An object on top hides a leaf, even if the object is empty.
example : overlay [(.string "codes", .object [(.string "last", .int 504)]),
      (.string "backoff", .int 1)]
    [(.string "backoff", .object []), (.string "codes", .object [(.string "first", .int 502)])] =
    [(.string "codes", .object [(.string "last", .int 504), (.string "first", .int 502)]),
      (.string "backoff", .object [])] := by
  rfl

/-- Of two objects, one laid over the other, every leaf is accounted for, and to lay one over again
changes nothing. -/
structure OverlaysExactly (base top : Fields) : Prop where
  /-- What is on top stays. -/
  top_stays : ∀ path value, top.HasLeaf path value → (base.overlay top).HasLeaf path value
  /-- What is under it stays where its path is left open, or the very value is on top. -/
  base_stays_iff : ∀ path value, base.HasLeaf path value →
    ((base.overlay top).HasLeaf path value ↔ top.LeavesOpen path ∨ top.HasLeaf path value)
  /-- So it does when values that are the same count as one. -/
  base_stays_like_iff : ∀ path value, base.HasLeaf path value →
    ((base.overlay top).HasLeafLike path value ↔ top.LeavesOpen path ∨ top.HasLeafLike path value)
  /-- There are no other leaves. -/
  no_others : ∀ path value, (base.overlay top).HasLeaf path value →
    top.HasLeaf path value ∨ base.HasLeaf path value ∧ top.LeavesOpen path
  self : (top.overlay top).Matches top
  again : ((base.overlay top).overlay top).Matches (base.overlay top)
  self_eq : top.Keyed → top.overlay top = top
  again_eq : base.Keyed → top.Keyed → (base.overlay top).overlay top = base.overlay top

theorem hasLeafLike_overlay_iff (h : base.HasLeaf path value) :
    (base.overlay top).HasLeafLike path value ↔
      top.LeavesOpen path ∨ top.HasLeafLike path value := by
  constructor
  · rintro ⟨kept, leaf, same⟩
    rcases hasLeaf_overlay_iff.mp leaf with onTop | ⟨isOpen, _⟩
    · exact .inr ⟨kept, onTop, same⟩
    · exact .inl isOpen
  · rintro (isOpen | ⟨kept, onTop, same⟩)
    · exact ⟨value, hasLeaf_overlay_iff.mpr (.inr ⟨isOpen, h⟩), Document.same_refl value⟩
    · exact ⟨kept, hasLeaf_overlay_iff.mpr (.inl onTop), same⟩

theorem overlaysExactly (base top : Fields) : base.OverlaysExactly top where
  top_stays path value onTop := hasLeaf_overlay_iff.mpr (.inl onTop)
  base_stays_iff path value below := by
    rw [hasLeaf_overlay_iff, and_iff_left below, or_comm]
  base_stays_like_iff path value below := hasLeafLike_overlay_iff below
  no_others path value leaf := by
    rw [and_comm]
    exact hasLeaf_overlay_iff.mp leaf
  self := Document.overlay_self_matches top
  again := Document.overlay_top_matches base top
  self_eq keyed := (eq_of_matches (Document.overlay_self_matches top).symm keyed).symm
  again_eq keyed keyed' :=
    (eq_of_matches (Document.overlay_top_matches base top).symm (keyed_overlay keyed keyed')).symm

end Fields

end PolicyTopology
