import PolicyTopology.Proofs.Alike
import PolicyTopology.Proofs.Document.Matching
import PolicyTopology.Proofs.Policy.DirectMerge
import PolicyTopology.Proofs.Policy.Legible

/-!
# Policies that cannot be told apart

A namespace may be passed twice on the way to a route: the gateway has merged its policies already,
and the route merges them with the result once more. What comes out the second time is a twin of
what came out the first time: the manifests are equal around the specifications, these have one
reference to the target, and beside it they match. Twins have the same content, and merged with each
other as peers they come to the same content, or meet the same conflict, whichever goes first.
-/

namespace PolicyTopology

theorem Entries.set_set {κ α : Type} [BEq κ] [EquivBEq κ] (entries : Entries κ α) (key : κ)
    (value other : α) : (entries.set key value).set key other = entries.set key other := by
  have present : contains (entries.set key value) key = true := by
    rw [contains, get?_set_self]
    rfl
  rw [set, if_pos present]
  unfold set
  split
  · rw [List.map_map]
    refine List.map_congr_left fun entry _ => ?_
    simp only [Function.comp_apply]
    by_cases same : (entry.1 == key) = true <;> simp [same]
  · next absent =>
    rw [List.map_append]
    refine congrArg₂ _ ((List.map_congr_left fun entry member => ?_).trans (List.map_id _)) ?_
    · rw [contains_eq_any] at absent
      have other := List.any_eq_false.mp (Bool.eq_false_iff.mpr absent) entry.1
        (List.mem_map_of_mem member)
      rw [if_neg other]
      rfl
    · simp

namespace Except

variable {α β : Type} {related : α → β → Prop}

/-- What can be read alike can be read alike inside a merge. -/
theorem Alike.lift {first : Except ShapeError α} {second : Except ShapeError β}
    (h : Alike related first second) :
    Alike related (liftM first : Except MergeError α) (liftM second : Except MergeError β) := by
  cases first with
  | error error =>
      cases second with
      | error other => exact congrArg (MergeError.fault ∘ MergeFault.malformed) h
      | ok other => exact h.elim
  | ok result =>
      cases second with
      | error other => exact h.elim
      | ok other => exact h

end Except

namespace Document

variable {first second : Document} {fields others : Fields}

/-- Only what is present is read as something else than an empty object. -/
theorem eq_some_of_orEmpty {field : Option Document} {value : Document}
    (h : orEmpty field = value) (nonempty : value ≠ empty) :
    field = some value ∧ value.isPresent = true := by
  cases field with
  | none => exact absurd h.symm nonempty
  | some found =>
      rw [orEmpty_some] at h
      split at h
      · next present => exact ⟨congrArg some h, h ▸ present⟩
      · exact absurd h.symm nonempty

theorem Matches.isEmpty_eq (h : Matches (.object fields) (.object others)) :
    fields.isEmpty = others.isEmpty := by
  have none := congrArg List.isEmpty (matches_object_iff.mp h).1
  rwa [Entries.keys, Entries.keys, List.isEmpty_map, List.isEmpty_map] at none

theorem Matches.orEmpty {field other : Option Document} (h : Option.Rel Matches field other) :
    Matches (orEmpty field) (orEmpty other) := by
  cases h with
  | none => exact .refl _
  | @some value value' held =>
      cases held with
      | leaf _ => exact .refl _
      | @object fields others keys values =>
          have present : isPresent (.object fields) = isPresent (.object others) :=
            congrArg not (Matches.object keys values).isEmpty_eq
          rw [orEmpty_some, orEmpty_some, present]
          split
          · exact .object keys values
          · exact .refl _

end Document

/-- Two specifications with one reference to the target that match beside it. -/
structure Fields.TwinSpecs (first second : Fields) : Prop where
  reference : Entries.get? first "targetRef" = Entries.get? second "targetRef"
  beside : Document.Matches (.object (Entries.erase first "targetRef"))
    (.object (Entries.erase second "targetRef"))

namespace Fields

variable {first second third fields others : Fields} {name : String}

namespace TwinSpecs

theorem refl (spec : Fields) : TwinSpecs spec spec := ⟨rfl, .refl _⟩

theorem symm (h : TwinSpecs first second) : TwinSpecs second first :=
  ⟨h.reference.symm, h.beside.symm⟩

theorem trans (h : TwinSpecs first second) (h' : TwinSpecs second third) : TwinSpecs first third :=
  ⟨h.reference.trans h'.reference, h.beside.trans h'.beside⟩

theorem get?_rel (h : TwinSpecs first second) {key : Scalar}
    (other : (("targetRef" : Scalar) == key) = false) :
    Option.Rel Document.Matches (Entries.get? first key) (Entries.get? second key) := by
  have held := h.beside.get?_rel key
  rwa [Entries.get?_erase, Entries.get?_erase, other] at held

/-- Twin specifications hold the same. -/
theorem same (h : TwinSpecs first second) :
    Document.same (.object first) (.object second) = true := by
  have held : ∀ key, Option.Rel (fun value other => Document.same value other = true)
      (Entries.get? first key) (Entries.get? second key) := by
    intro key
    cases reference : (("targetRef" : Scalar) == key) with
    | true =>
        rw [← Entries.get?_congr first reference, ← Entries.get?_congr second reference,
          h.reference]
        cases Entries.get? second "targetRef" with
        | none => exact .none
        | some value => exact .some (Document.same_refl value)
    | false =>
        generalize Entries.get? first key = field, Entries.get? second key = other,
          h.get?_rel reference = found
        cases found with
        | none => exact .none
        | some held => exact .some held.same
  refine Document.same_object_iff.mpr ⟨fun key value found => ?_, fun key absent => ?_⟩
  · have held := held key
    rw [found] at held
    generalize Entries.get? second key = other at held
    cases held with
    | some same => exact ⟨_, rfl, same⟩
  · have held := held key
    rw [absent] at held
    generalize Entries.get? second key = other at held
    cases held with
    | none => rfl

/-- Matching sections are written to twin specifications. -/
theorem writeSection (h : TwinSpecs first second)
    (held : Document.Matches (.object fields) (.object others)) (other : "targetRef" ≠ name) :
    TwinSpecs (first.writeSection name fields) (second.writeSection name others) := by
  unfold Fields.writeSection
  rw [held.isEmpty_eq]
  split
  · exact h
  · have unlike : ((name : Scalar) == ("targetRef" : Scalar)) = false := by
      simpa using other.symm
    refine ⟨?_, ?_⟩
    · rw [get?_set_name _ other.symm, get?_set_name _ other.symm, h.reference]
    · rw [Entries.erase_set_ne _ unlike, Entries.erase_set_ne _ unlike]
      exact h.beside.set held name

end TwinSpecs

/-- To write a section that matches what is there changes nothing. -/
theorem twinSpecs_writeSection_self (held : first.sectionFields? name = some others)
    (h : Document.Matches (.object fields) (.object others)) (other : "targetRef" ≠ name) :
    TwinSpecs (first.writeSection name fields) first := by
  unfold Fields.writeSection
  split
  · exact .refl first
  · next nonempty =>
    have unlike : ((name : Scalar) == ("targetRef" : Scalar)) = false := by
      simpa using other.symm
    have listed : others.isEmpty = false := by
      rw [← h.isEmpty_eq]
      simpa using nonempty
    have found : Entries.get? first name = some (.object others) := by
      have read := Except.ok.inj (getPresent_of_sectionFields? held)
      refine (Document.eq_some_of_orEmpty read fun same => ?_).1
      cases same
      cases listed
    refine ⟨get?_set_name _ other.symm, ?_⟩
    rw [Entries.erase_set_ne _ unlike]
    refine Document.matches_set_self ?_ h
    rw [Entries.get?_erase, if_neg (by simpa using other), found]

end Fields

/-- What a specification says of the target is put back into a union. -/
def Fields.withReference (reference : Option Document) (fields : Fields) : Fields :=
  match reference with
  | none | some .null => fields
  | some reference => Entries.set fields "targetRef" reference

theorem Fields.erase_withReference {fields : Fields} (reference : Option Document)
    (absent : Entries.get? fields "targetRef" = none) :
    Entries.erase (fields.withReference reference) "targetRef" = fields := by
  unfold withReference
  split
  · exact Entries.erase_of_absent absent
  · exact Entries.erase_of_absent absent
  · rw [Entries.erase_set_self, Entries.erase_of_absent absent]

/-- Matching unions are twins with the same reference put back. -/
theorem Fields.twinSpecs_withReference {fields others : Fields} (reference : Option Document)
    (h : Document.Matches (.object fields) (.object others))
    (absent : Entries.get? fields "targetRef" = none) :
    TwinSpecs (fields.withReference reference) (others.withReference reference) := by
  have absent' := Entries.get?_eq_none_of_keys (Document.matches_object_iff.mp h).1.symm absent
  refine ⟨?_, by rwa [erase_withReference _ absent, erase_withReference _ absent']⟩
  unfold withReference
  split
  · exact absent.trans absent'.symm
  · exact absent.trans absent'.symm
  · rw [Entries.get?_set_self, Entries.get?_set_self]

namespace ManifestPolicy

/-- Two manifest policies that differ in their specifications at most, and these are twins. -/
inductive Twins : ManifestPolicy → ManifestPolicy → Prop
  | of_specs {inherited : Bool} {fields others spec spec' : Fields}
      (held : Entries.get? fields "spec" = some (.object spec))
      (held' : Entries.get? others "spec" = some (.object spec'))
      (around : ∀ value, Entries.set fields "spec" value = Entries.set others "spec" value)
      (specs : Fields.TwinSpecs spec spec') :
      Twins ⟨.object fields, inherited⟩ ⟨.object others, inherited⟩

variable {first second merged middle keep : ManifestPolicy} {fields others spec spec' : Fields}
  {inherited : Bool} {kind : MergeKind}

theorem spec_of_get? (held : Entries.get? fields "spec" = some (.object spec)) :
    ManifestPolicy.spec ⟨.object fields, inherited⟩ = .ok (.object spec) := by
  change Except.ok (Document.orEmpty (Entries.get? fields _)) = _
  rw [held, Document.orEmpty_some]
  cases spec <;> rfl

namespace Twins

theorem symm (h : Twins first second) : Twins second first := by
  cases h with
  | of_specs held held' around specs =>
      exact .of_specs held' held (fun value => (around value).symm) specs.symm

/-- Around equal manifests twin specifications make twin policies. -/
theorem replaceSpec (around : ∀ value, Entries.set fields "spec" value =
      Entries.set others "spec" value) (specs : Fields.TwinSpecs spec spec') :
    Twins (.replaceSpec inherited fields spec) (.replaceSpec inherited others spec') := by
  refine .of_specs (Entries.get?_set_self ..) (Entries.get?_set_self ..) (fun value => ?_) specs
  rw [Entries.set_set, Entries.set_set]
  exact around value

theorem get?_eq
    (around : ∀ value, Entries.set fields "spec" value = Entries.set others "spec" value)
    {key : Scalar} (other : (("spec" : Scalar) == key) = false) :
    Entries.get? fields key = Entries.get? others key := by
  rw [← Entries.get?_set_ne fields .null other, around, Entries.get?_set_ne _ _ other]

theorem kind_eq (h : Twins first second) : first.kind = second.kind := by
  cases h with
  | of_specs held held' around specs =>
      simp only [kind, Document.nameAt, Document.get_object,
        get?_eq around (show (("spec" : Scalar) == ("apiVersion" : Scalar)) = false by simp),
        get?_eq around (show (("spec" : Scalar) == ("kind" : Scalar)) = false by simp)]

end Twins

end ManifestPolicy

/-- Two policies with the same content. -/
def Policy.Same : Policy → Policy → Prop
  | .manifest first, .manifest second =>
    first.inherited = second.inherited ∧ first.manifest.same second.manifest = true
  | .plain first, .plain second =>
    Document.same (.object first.fields) (.object second.fields) = true
  | _, _ => False

theorem Policy.Same.refl (policy : Policy) : policy.Same policy := by
  cases policy with
  | manifest policy => exact ⟨rfl, Document.same_refl _⟩
  | plain policy => exact Document.same_refl _

/-- Twins have the same content. -/
theorem ManifestPolicy.Twins.same {first second : ManifestPolicy} (h : Twins first second) :
    Policy.Same (.manifest first) (.manifest second) := by
  cases h with
  | @of_specs _ fields others spec spec' held held' around specs =>
      refine ⟨rfl, Document.same_object_iff.mpr ⟨fun key value found => ?_, fun key absent => ?_⟩⟩
      · cases atSpec : (("spec" : Scalar) == key) with
        | true =>
            rw [← Entries.get?_congr fields atSpec, held] at found
            rw [← Entries.get?_congr others atSpec, held']
            exact ⟨_, rfl, Option.some.inj found ▸ specs.same⟩
        | false =>
            rw [← get?_eq around atSpec]
            exact ⟨value, found, Document.same_refl value⟩
      · cases atSpec : (("spec" : Scalar) == key) with
        | true =>
            rw [← Entries.get?_congr fields atSpec, held] at absent
            cases absent
        | false => rwa [← get?_eq around atSpec]

namespace ManifestPolicy

variable {first second merged middle keep child parent : ManifestPolicy}
  {fields others spec spec' kept united : Fields} {inherited : Bool} {kind : MergeKind}
  {ancestor : Policy}

/-- The union of two direct policies around a third one: where the specifications unite, the
reference to the target is put back. -/
theorem unite_eq (hk : keep.spec = .ok (.object kept)) (hf : first.spec = .ok (.object spec))
    (hs : second.spec = .ok (.object spec')) (readable : keep.kind = .ok kind)
    (same : keep.manifest = .object fields) :
    unite keep first second =
      ((Fields.union (Entries.erase spec "targetRef") (Entries.erase spec' "targetRef")).mapError
          fun clash => MergeError.conflict ⟨kind, .clash clash⟩).map fun united =>
        .replaceSpec keep.inherited fields
          (united.withReference (Entries.get? kept "targetRef")) := by
  unfold unite
  simp only [hf, hs, hk, readable, Document.get_object, Document.without_object,
    Except.lift_ok_bind]
  cases Fields.union (Entries.erase spec "targetRef") (Entries.erase spec' "targetRef") with
  | error clash => rfl
  | ok united =>
      generalize Entries.get? kept "targetRef" = reference
      simp only [withSpec_object same]
      cases reference with
      | none => rfl
      | some reference =>
          cases reference with
          | array items => rfl
          | object fields => rfl
          | scalar value => cases value <;> rfl

theorem layer_eq (same : keep.manifest = .object fields) (spec defaults overrides : Fields) :
    keep.layer (.object spec) defaults overrides = .ok (.replaceSpec keep.inherited fields
      ((spec.writeSection "default" defaults).writeSection "override" overrides)) := by
  unfold layer
  rw [Fields.withSection_object, Fields.withSection_object, withSpec_object same]
  rfl

/-- What the merge of the policy of an ancestor with that of a descendant comes to. -/
inductive MergesLevels (parent child : ManifestPolicy) : ManifestPolicy → Prop
  | layered {fields upper lower defaults overrides : Fields}
      (inherits : child.inherited = true) (same : child.manifest = .object fields)
      (ofChild : child.spec = .ok (.object lower)) (ofParent : parent.spec = .ok (.object upper))
      (hd : Document.layerSection "default" (.object upper) (.object lower) = .ok defaults)
      (ho : Document.layerSection "override" (.object lower) (.object upper) = .ok overrides) :
      MergesLevels parent child (.replaceSpec child.inherited fields
        ((lower.writeSection "default" defaults).writeSection "override" overrides))
  | united {fields upper lower united : Fields}
      (direct : child.inherited = false) (same : child.manifest = .object fields)
      (ofChild : child.spec = .ok (.object lower)) (ofParent : parent.spec = .ok (.object upper))
      (union : Fields.union (Entries.erase upper "targetRef") (Entries.erase lower "targetRef") =
        .ok united) :
      MergesLevels parent child (.replaceSpec child.inherited fields
        (united.withReference (Entries.get? lower "targetRef")))

theorem exists_mergesLevels {ancestor descendant : Policy}
    (h : mergeLevels ancestor descendant = .ok merged) :
    ∃ parent child, ancestor = .manifest parent ∧ descendant = .manifest child ∧
      MergesLevels parent child merged := by
  unfold mergeLevels at h
  obtain ⟨⟨parent, child⟩, reconciled, rest⟩ := Except.bind_ok_iff.mp h
  obtain ⟨rfl, rfl, inheritance, kind, _, found⟩ := reconcilable_ok_iff.mp reconciled
  have readable : ∃ kind, child.kind = .ok kind := ⟨kind, found⟩
  refine ⟨parent, child, rfl, rfl, ?_⟩
  dsimp only at rest
  split at rest
  · next inherits =>
    simp only [Except.bind_ok_iff, Except.lift_ok_iff] at rest
    obtain ⟨parentSpec, above, spec, below, defaults, hd, overrides, ho, rest⟩ := rest
    obtain ⟨⟨upper, rfl⟩, lower, rfl⟩ := exists_object_of_layerSection hd
    obtain ⟨fields, same⟩ := exists_fields_of_spec below
    rw [layer_eq same] at rest
    cases rest
    exact .layered (inheritance ▸ inherits) same below above hd ho
  · next direct =>
    obtain ⟨above, below⟩ := specs_of_unite rest
    obtain ⟨fields, same⟩ := exists_fields_of_spec below
    obtain ⟨kind, found⟩ := readable
    rw [unite_eq below above below found same] at rest
    generalize union : Fields.union _ _ = outcome at rest
    cases outcome with
    | error clash => cases rest
    | ok united =>
        cases rest
        exact .united (by simpa [← inheritance] using direct) same below above union

/-- The two sections that went into a section that was laid over another one. -/
theorem exists_of_layerSection {name : String} {base top merged : Fields}
    (h : Document.layerSection name (.object base) (.object top) = .ok merged) :
    ∃ lower upper, (Document.orEmpty (Entries.get? base name)).toFields = .ok lower ∧
      top.sectionFields? name = some upper ∧ merged = lower.overlay upper := by
  obtain ⟨upper, held⟩ := Document.legible_of_layerSection h
  unfold Document.layerSection at h
  obtain ⟨below, readBelow, h⟩ := Except.bind_ok_iff.mp h
  obtain ⟨above, readAbove, h⟩ := Except.bind_ok_iff.mp h
  obtain ⟨lower, fields, h⟩ := Except.bind_ok_iff.mp h
  rw [Fields.getPresent_of_sectionFields? held] at readAbove
  cases readAbove
  refine ⟨lower, upper, ?_, held, (Except.ok.inj h).symm⟩
  rwa [← show Document.orEmpty (Entries.get? base name) = below from Except.ok.inj readBelow]
    at fields

/-- Sections that could be laid over those of the ancestors can be laid over the outcome, and come
to the outcome laid over once more. -/
theorem exists_layerSections_again {upper lower defaults overrides : Fields}
    (hd : Document.layerSection "default" (.object upper) (.object lower) = .ok defaults)
    (ho : Document.layerSection "override" (.object lower) (.object upper) = .ok overrides) :
    ∃ defaults' overrides',
      Document.layerSection "default" (.object ((lower.writeSection "default"
        defaults).writeSection "override" overrides)) (.object lower) = .ok defaults' ∧
      Document.layerSection "override" (.object lower) (.object ((lower.writeSection "default"
        defaults).writeSection "override" overrides)) = .ok overrides' ∧
      Document.Matches (.object defaults') (.object defaults) ∧
      Document.Matches (.object overrides') (.object overrides) := by
  obtain ⟨base, own, _, hasDefaults, rfl⟩ := exists_of_layerSection hd
  obtain ⟨ownOverrides, top, hasOverrides, _, rfl⟩ := exists_of_layerSection ho
  have noDefaults : base.overlay own = [] → lower.sectionFields? "default" = some [] := by
    intro empty
    rwa [(Fields.eq_nil_of_overlay empty).2] at hasDefaults
  have noOverrides : ownOverrides.overlay top = [] → lower.sectionFields? "override" = some [] := by
    intro empty
    rw [(Fields.eq_nil_of_overlay empty).1] at hasOverrides
    exact Document.sectionFields?_of_toFields_nil hasOverrides
  -- Both sections of the outcome are what was written there.
  obtain ⟨ofDefaults, ofOverrides⟩ := Fields.sectionFields?_written noDefaults noOverrides
  exact ⟨_, _,
    Document.layerSection_of_toFields (Document.toFields_of_sectionFields? ofDefaults) hasDefaults,
    Document.layerSection_of_toFields hasOverrides ofOverrides,
    Document.overlay_top_matches base own, Document.overlay_base_matches ownOverrides top⟩

/-- A specification that has been united with another one comes to the same when it is united with
the outcome. -/
theorem twinSpecs_unite_again {upper lower united united' : Fields} (reference : Option Document)
    (union : Fields.union (Entries.erase upper "targetRef") (Entries.erase lower "targetRef") =
      .ok united)
    (union' : Fields.union (Entries.erase (united.withReference reference) "targetRef")
      (Entries.erase lower "targetRef") = .ok united') :
    Fields.TwinSpecs (united'.withReference reference) (united.withReference reference) := by
  have absent := get?_union_of_without (Document.without_object upper "targetRef")
    (Document.without_object lower "targetRef") union
  have absent' := get?_union_of_without (Document.without_object _ "targetRef")
    (Document.without_object lower "targetRef") union'
  rw [Fields.erase_withReference _ absent] at union'
  obtain ⟨_, rfl⟩ := Fields.union_ok_iff.mp union
  obtain ⟨_, rfl⟩ := Fields.union_ok_iff.mp union'
  exact Fields.twinSpecs_withReference _ (Document.join_second_matches _ _) absent'

/-- What a level came to over its ancestors is not changed when the level is laid over it again. -/
theorem twins_of_mergeLevels_again (h : mergeLevels ancestor (.manifest child) = .ok middle)
    (h' : mergeLevels (.manifest middle) (.manifest child) = .ok merged) :
    Twins merged middle := by
  obtain ⟨_, _, rfl, same, first⟩ := exists_mergesLevels h
  obtain ⟨_, _, same', same'', second⟩ := exists_mergesLevels h'
  cases same
  cases same'
  cases same''
  cases first with
  | layered inherits same ofChild _ hd ho =>
      cases second with
      | united direct => cases inherits.symm.trans direct
      | layered _ same' ofChild' ofMiddle hd' ho' =>
          cases same.symm.trans same'
          cases ofChild.symm.trans ofChild'
          cases ofMiddle.symm.trans (spec_replaceSpec ..)
          obtain ⟨_, _, found, found', again, again'⟩ := exists_layerSections_again hd ho
          cases hd'.symm.trans found
          cases ho'.symm.trans found'
          exact .replaceSpec (fun _ => rfl) (((Fields.TwinSpecs.refl _).writeSection again
            (by decide)).writeSection again' (by decide))
  | united direct same ofChild _ union =>
      cases second with
      | layered inherits => cases inherits.symm.trans direct
      | united _ same' ofChild' ofMiddle union' =>
          cases same.symm.trans same'
          cases ofChild.symm.trans ofChild'
          cases ofMiddle.symm.trans (spec_replaceSpec ..)
          exact .replaceSpec (fun _ => rfl) (twinSpecs_unite_again _ union union')

/-- The kind of a target is read off the reference in the specification. -/
theorem exists_of_target_ok {reference : ObjectRef} (h : child.target = .ok reference) :
    ∃ refers, Document.getPresent (.object (Policy.manifest child).specFields) "targetRef" =
        .ok refers ∧ refers.nameAt "kind" "" = .ok reference.kind := by
  have read := spec_of_target h
  unfold ManifestPolicy.target at h
  rw [read] at h
  obtain ⟨_, readSpec, h⟩ := Except.bind_ok_iff.mp h
  cases readSpec
  obtain ⟨refers, readRefers, h⟩ := Except.bind_ok_iff.mp h
  obtain ⟨group, _, h⟩ := Except.bind_ok_iff.mp h
  obtain ⟨kind, readKind, h⟩ := Except.bind_ok_iff.mp h
  obtain ⟨nameSpace?, _, h⟩ := Except.bind_ok_iff.mp h
  refine ⟨refers, readRefers, ?_⟩
  -- What comes after the kind is read does not matter.
  cases nameSpace? with
  | some nameSpace =>
      obtain ⟨_, _, h⟩ := Except.bind_ok_iff.mp h
      obtain ⟨_, _, h⟩ := Except.bind_ok_iff.mp h
      cases h
      exact readKind
  | none =>
      obtain ⟨_, _, h⟩ := Except.bind_ok_iff.mp h
      obtain ⟨_, _, h⟩ := Except.bind_ok_iff.mp h
      cases h
      exact readKind

/-- A policy that names the kind of its target has a specification and a reference to it. -/
theorem exists_of_target {reference : ObjectRef} (h : child.target = .ok reference)
    (named : reference.kind ≠ "") :
    ∃ fields lower : Fields, ∃ target, child.manifest = .object fields ∧
      Entries.get? fields "spec" = some (.object lower) ∧
      Entries.get? lower "targetRef" = some target ∧ target ≠ .null := by
  have read := spec_of_target h
  obtain ⟨fields, same⟩ := exists_fields_of_spec read
  obtain ⟨refers, readRefers, readKind⟩ := exists_of_target_ok h
  generalize (Policy.manifest child).specFields = lower at read readRefers
  have nonempty : refers ≠ .empty := by
    rintro rfl
    exact named (Except.ok.inj readKind).symm
  obtain ⟨found, present⟩ := Document.eq_some_of_orEmpty (Except.ok.inj readRefers) nonempty
  refine ⟨fields, lower, refers, same, ?_, found, ?_⟩
  · refine (Document.eq_some_of_orEmpty ?_ fun empty => ?_).1
    · have held := read
      unfold ManifestPolicy.spec at held
      rw [same] at held
      exact Except.ok.inj held
    · cases empty
      cases found
  · rintro rfl
    cases present

/-- Sections that are laid over themselves stay what they are. -/
theorem twinSpecs_layer_self {lower defaults overrides : Fields}
    (hd : Document.layerSection "default" (.object lower) (.object lower) = .ok defaults)
    (ho : Document.layerSection "override" (.object lower) (.object lower) = .ok overrides) :
    Fields.TwinSpecs ((lower.writeSection "default" defaults).writeSection "override" overrides)
      lower := by
  obtain ⟨own, _, readDefaults, hasDefaults, rfl⟩ := exists_of_layerSection hd
  obtain ⟨own', _, readOverrides, hasOverrides, rfl⟩ := exists_of_layerSection ho
  cases readDefaults.symm.trans (Document.toFields_of_sectionFields? hasDefaults)
  cases readOverrides.symm.trans (Document.toFields_of_sectionFields? hasOverrides)
  have beside : (lower.writeSection "default" (own.overlay own)).sectionFields? "override" =
      some own' := (Fields.sectionFields?_writeSection_ne (by decide)).trans hasOverrides
  exact (Fields.twinSpecs_writeSection_self beside (Document.overlay_self_matches own')
    (by decide)).trans (Fields.twinSpecs_writeSection_self hasDefaults
      (Document.overlay_self_matches own) (by decide))

/-- A specification that refers to a target stays what it is when it is united with itself. -/
theorem twinSpecs_unite_self {lower united : Fields} {target : Document}
    (refers : Entries.get? lower "targetRef" = some target) (present : target ≠ .null)
    (union : Fields.union (Entries.erase lower "targetRef") (Entries.erase lower "targetRef") =
      .ok united) :
    Fields.TwinSpecs (united.withReference (Entries.get? lower "targetRef")) lower := by
  have absent := get?_union_of_without (Document.without_object lower "targetRef")
    (Document.without_object lower "targetRef") union
  obtain ⟨_, rfl⟩ := Fields.union_ok_iff.mp union
  refine ⟨?_, ?_⟩
  · rw [refers, Fields.withReference, Entries.get?_set_self]
    exact present
  · rw [Fields.erase_withReference _ absent]
    exact Document.join_self_matches _

/-- A policy of a level that names the kind of its target is not changed when it is laid over
itself. -/
theorem twins_of_mergeLevels_self {reference : ObjectRef} (h : child.target = .ok reference)
    (named : reference.kind ≠ "")
    (h' : mergeLevels (.manifest child) (.manifest child) = .ok merged) : Twins merged child := by
  obtain ⟨fields, lower, target, same, held, refers, present⟩ := exists_of_target h named
  obtain ⟨_, _, same', same'', merges⟩ := exists_mergesLevels h'
  cases same'
  cases same''
  obtain ⟨manifest, inherited⟩ := child
  cases same
  have read : ManifestPolicy.spec ⟨.object fields, inherited⟩ = .ok (.object lower) :=
    spec_of_get? held
  cases merges with
  | layered inherits same ofChild ofParent hd ho =>
      cases same
      cases read.symm.trans ofChild
      cases read.symm.trans ofParent
      exact .of_specs (Entries.get?_set_self ..) held (fun value => Entries.set_set ..)
        (twinSpecs_layer_self hd ho)
  | united direct same ofChild ofParent union =>
      cases same
      cases read.symm.trans ofChild
      cases read.symm.trans ofParent
      exact .of_specs (Entries.get?_set_self ..) held (fun value => Entries.set_set ..)
        (twinSpecs_unite_self refers present union)

/-- Whether one section can be laid over another, and what it comes to, is the same for matching
sections in either order. -/
theorem alike_layerSection {name : String} (h : Fields.TwinSpecs spec spec')
    (other : "targetRef" ≠ name) :
    Except.Alike (fun fields others => Document.Matches (.object fields) (.object others))
      (Document.layerSection name (.object spec') (.object spec))
      (Document.layerSection name (.object spec) (.object spec')) := by
  have held := Document.Matches.orEmpty (h.get?_rel (show
    (("targetRef" : Scalar) == (name : Scalar)) = false by simpa using other))
  have read : ∀ fields : Fields, Document.getPresent (.object fields) name =
      .ok (Document.orEmpty (Entries.get? fields name)) := fun _ => rfl
  unfold Document.layerSection
  rw [read, read]
  generalize Document.orEmpty (Entries.get? spec name) = upper,
    Document.orEmpty (Entries.get? spec' name) = lower at held
  cases held with
  | leaf _ => exact .of_eq (fun _ => .refl _) rfl
  | object keys values => exact (Document.Matches.object keys values).symm.overlay_comm

/-- Twins that are merged as peers come to twins, or fail in one way, whichever goes first. -/
theorem Twins.alike_mergePeers (h : Twins first second) (readable : ∃ kind, first.kind = .ok kind) :
    Except.Alike Twins (mergePeers (.manifest first) (.manifest second))
      (mergePeers (.manifest second) (.manifest first)) := by
  have kinds := h.kind_eq
  obtain ⟨kind, found⟩ := readable
  have found' := kinds.symm.trans found
  cases h with
  | @of_specs inherited fields others spec spec' held held' around specs =>
      have read : ManifestPolicy.spec ⟨.object fields, inherited⟩ = .ok (.object spec) :=
        spec_of_get? held
      have read' : ManifestPolicy.spec ⟨.object others, inherited⟩ = .ok (.object spec') :=
        spec_of_get? held'
      cases inherits : inherited with
      | true =>
          subst inherits
          rw [mergePeers_layered ⟨kind, found'⟩ kinds rfl rfl read read',
            mergePeers_layered ⟨kind, found⟩ kinds.symm rfl rfl read' read]
          refine (alike_layerSection specs (by decide)).lift.bind fun defaults defaults' hd => ?_
          refine (alike_layerSection specs (by decide)).lift.bind fun overrides overrides' ho => ?_
          rw [layer_eq rfl, layer_eq rfl]
          exact .replaceSpec around
            ((specs.writeSection hd (by decide)).writeSection ho (by decide))
      | false =>
          subst inherits
          rw [mergePeers_direct ⟨kind, found'⟩ kinds rfl rfl,
            mergePeers_direct ⟨kind, found⟩ kinds.symm rfl rfl,
            unite_eq read read read' found rfl, unite_eq read' read' read found' rfl,
            specs.reference]
          have absent : Entries.get? (Fields.join (Entries.erase spec "targetRef")
              (Entries.erase spec' "targetRef")) "targetRef" = none := by
            rw [Fields.join, Document.get?_combined, Entries.get?_erase, Entries.get?_erase]
            simp
          have clashes := specs.beside.clash?_comm []
          unfold Fields.union Fields.clash?
          rw [clashes]
          generalize Document.clash? [] _ _ = clash
          cases clash with
          | some clash => exact rfl
          | none =>
              exact .replaceSpec around
                (Fields.twinSpecs_withReference _ specs.beside.join_comm absent)

end ManifestPolicy

end PolicyTopology
