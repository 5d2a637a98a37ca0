import PolicyTopology.Proofs.Policy.Specification

/-!
# Merged policies

Two shaped policies are merged if they are compatible: of one merge kind, both inherited or both
direct, and without a clash between the specifications of direct ones. Otherwise the merge is a
conflict. `Policy.Merged` describes what a merge leaves; both ways of merging put the overrides of
the first policy on top, and they differ in the policy whose defaults win and whose manifest is
kept.
-/

namespace PolicyTopology

namespace Policy

/-- Two policies that the merge of specifications reconciles. -/
structure Compatible (first second : Policy) : Prop where
  kind : first.kind = second.kind
  inherited : first.inherited = second.inherited
  direct : first.inherited = false →
    first.directFields.clash? second.directFields = none

/-- Inherited policies of one kind are compatible, whatever they say. -/
theorem Compatible.of_inherited {first second : Policy} (kinds : first.kind = second.kind)
    (inherits : first.inherited = true) (inherits' : second.inherited = true) :
    first.Compatible second where
  kind := kinds
  inherited := inherits.trans inherits'.symm
  direct direct := nomatch inherits.symm.trans direct

/-- The policy whose manifest a merge keeps. -/
def kept : MergeOperation → Policy → Policy → Policy
  | .levels, _, descendant => descendant
  | .peers, first, _ => first

/-- The defaults of a merge of two inherited policies. -/
def mergedDefaults : MergeOperation → Fields → Fields → Fields
  | .levels, ancestor, descendant => ancestor.overlay descendant
  | .peers, first, second => second.overlay first

/-- What a merge of two policies leaves. -/
structure Merged (operation : MergeOperation) (first second merged : Policy) : Prop where
  shaped : merged.Shaped
  id : merged.id = (kept operation first second).id
  inherited : merged.inherited = first.inherited
  defaults : first.inherited = true → merged.sectionFields "default" =
    mergedDefaults operation (first.sectionFields "default") (second.sectionFields "default")
  overrides : first.inherited = true → merged.sectionFields "override" =
    (second.sectionFields "override").overlay (first.sectionFields "override")
  direct : first.inherited = false → ∀ key, Entries.get? merged.directFields key =
    Entries.get? (first.directFields.join second.directFields) key

theorem kind_of_id {first second : Policy} (shaped : first.Shaped) (h : second.id = first.id) :
    second.kind = first.kind := by
  cases first with
  | plain policy => exact shaped.elim
  | manifest policy =>
      obtain ⟨id, found⟩ := shaped.id
      rw [(parts_of_id found).1, (parts_of_id (h.trans found)).1]

end Policy

namespace KindMerger

open Policy (Compatible Merged)

variable {first second merged : Policy} {operation : MergeOperation}

theorem result_levels (first second : Policy) :
    (specification.merge .levels first second).result =
      .manifest <$> ManifestPolicy.mergeLevels first second := by
  change (liftM (ManifestPolicy.mergeLevels first second) >>= fun merged =>
    pure (.manifest merged) : Merging Policy).result = _
  rw [Traced.result_bindM, Traced.result_lift]
  cases ManifestPolicy.mergeLevels first second <;> rfl

theorem result_peers (first second : Policy) :
    (specification.merge .peers first second).result =
      .manifest <$> ManifestPolicy.mergePeers first second := by
  change (liftM (ManifestPolicy.mergePeers first second) >>= fun merged =>
    pure (.manifest merged) : Merging Policy).result = _
  rw [Traced.result_bindM, Traced.result_lift]
  cases ManifestPolicy.mergePeers first second <;> rfl

/-- Inherited policies of one kind are merged. -/
theorem merge_of_inherited {first second : ManifestPolicy} (hf : first.Shaped) (hs : second.Shaped)
    (kinds : first.kind = second.kind) (inherits : first.inherited = true)
    (inherits' : second.inherited = true) (operation : MergeOperation) :
    ∃ merged, (specification.merge operation (.manifest first) (.manifest second)).result =
        .ok merged ∧ Merged operation (.manifest first) (.manifest second) merged := by
  cases operation with
  | levels =>
      obtain ⟨merged, result, kept, defaults, overrides⟩ :=
        ManifestPolicy.mergeLevels_inherited hf hs kinds inherits inherits'
      refine ⟨.manifest merged, by rw [result_levels, result]; rfl, ?_⟩
      exact ⟨kept.shaped, kept.id, kept.inherited.trans (inherits'.trans inherits.symm),
        fun _ => defaults, fun _ => overrides, fun direct => nomatch inherits.symm.trans direct⟩
  | peers =>
      obtain ⟨merged, result, kept, defaults, overrides⟩ :=
        ManifestPolicy.mergePeers_inherited hf hs kinds inherits inherits'
      refine ⟨.manifest merged, by rw [result_peers, result]; rfl, ?_⟩
      exact ⟨kept.shaped, kept.id, kept.inherited, fun _ => defaults, fun _ => overrides,
        fun direct => nomatch inherits.symm.trans direct⟩

/-- Direct policies of one kind whose specifications do not clash are merged. -/
theorem merge_of_direct {first second : ManifestPolicy} (hf : first.Shaped) (hs : second.Shaped)
    (kinds : first.kind = second.kind) (direct : first.inherited = false)
    (direct' : second.inherited = false)
    (noClash : (Policy.manifest first).directFields.clash?
      (Policy.manifest second).directFields = none) (operation : MergeOperation) :
    ∃ merged, (specification.merge operation (.manifest first) (.manifest second)).result =
        .ok merged ∧ Merged operation (.manifest first) (.manifest second) merged := by
  have readable := Policy.exists_kind_of_id hs.id
  cases operation with
  | levels =>
      obtain ⟨merged, result, kept, fields⟩ :=
        ManifestPolicy.unite_of_no_clash hs hf hs direct' noClash
      rw [← ManifestPolicy.mergeLevels_direct readable kinds direct direct'] at result
      refine ⟨.manifest merged, by rw [result_levels, result]; rfl, ?_⟩
      exact ⟨kept.shaped, kept.id, kept.inherited.trans (direct'.trans direct.symm),
        fun inherits => (nomatch direct.symm.trans inherits),
        fun inherits => (nomatch direct.symm.trans inherits), fun _ => fields⟩
  | peers =>
      obtain ⟨merged, result, kept, fields⟩ :=
        ManifestPolicy.unite_of_no_clash hf hf hs direct noClash
      rw [← ManifestPolicy.mergePeers_direct readable kinds direct direct'] at result
      refine ⟨.manifest merged, by rw [result_peers, result]; rfl, ?_⟩
      exact ⟨kept.shaped, kept.id, kept.inherited,
        fun inherits => (nomatch direct.symm.trans inherits),
        fun inherits => (nomatch direct.symm.trans inherits), fun _ => fields⟩

/-- Compatible policies are merged. -/
theorem merge_of_compatible (hf : first.Shaped) (hs : second.Shaped)
    (h : first.Compatible second) (operation : MergeOperation) :
    ∃ merged, (specification.merge operation first second).result = .ok merged ∧
      Merged operation first second merged := by
  cases first with
  | plain policy => exact hf.elim
  | manifest first =>
  cases second with
  | plain policy => exact hs.elim
  | manifest second =>
  have kinds : first.kind = second.kind := h.kind
  have inheritance : first.inherited = second.inherited := h.inherited
  cases inherits : first.inherited with
  | true => exact merge_of_inherited hf hs kinds inherits (inheritance ▸ inherits) operation
  | false =>
      exact merge_of_direct hf hs kinds inherits (inheritance ▸ inherits) (h.direct inherits)
        operation

/-- Manifest policies of two kinds conflict, and so do an inherited one and a direct one, whatever
their specifications are. -/
theorem merge_of_differ {first second : ManifestPolicy}
    (hf : ∃ id, (Policy.manifest first).id = .ok id)
    (hs : ∃ id, (Policy.manifest second).id = .ok id)
    (differ : ¬ (first.kind = second.kind ∧ first.inherited = second.inherited))
    (operation : MergeOperation) :
    ∃ conflict, (specification.merge operation (.manifest first) (.manifest second)).result =
      .error (.conflict conflict) := by
  obtain ⟨conflict, found⟩ := ManifestPolicy.reconcilable_conflict hf hs differ
  refine ⟨conflict, ?_⟩
  cases operation with
  | levels =>
      rw [result_levels]
      unfold ManifestPolicy.mergeLevels
      rw [found]
      rfl
  | peers =>
      rw [result_peers]
      unfold ManifestPolicy.mergePeers
      rw [found]
      rfl

/-- Direct policies of one kind whose specifications clash conflict, and the conflict is about that
clash. -/
theorem conflict_of_clash {first second : ManifestPolicy} {kind : MergeKind} {clash : Clash}
    (hf : first.spec = .ok (.object (Policy.manifest first).specFields))
    (hs : second.spec = .ok (.object (Policy.manifest second).specFields))
    (kinds : first.kind = second.kind) (direct : first.inherited = false)
    (direct' : second.inherited = false) (readable : first.kind = .ok kind)
    (union : (Policy.manifest first).directFields.union (Policy.manifest second).directFields =
      .error clash) (operation : MergeOperation) :
    (specification.merge operation (.manifest first) (.manifest second)).result =
      .error (.conflict ⟨kind, .clash clash⟩) := by
  have readable' : second.kind = .ok kind := kinds.symm.trans readable
  cases operation with
  | levels =>
      rw [result_levels, ManifestPolicy.mergeLevels_direct ⟨kind, readable'⟩ kinds direct direct',
        ManifestPolicy.unite_of_clash hf hs hs readable' union]
      rfl
  | peers =>
      rw [result_peers, ManifestPolicy.mergePeers_direct ⟨kind, readable'⟩ kinds direct direct',
        ManifestPolicy.unite_of_clash hf hs hf readable union]
      rfl

/-- Incompatible policies conflict. -/
theorem merge_of_not_compatible (hf : first.Shaped) (hs : second.Shaped)
    (h : ¬ first.Compatible second) (operation : MergeOperation) :
    ∃ conflict, (specification.merge operation first second).result =
      .error (.conflict conflict) := by
  cases first with
  | plain policy => exact hf.elim
  | manifest first =>
  cases second with
  | plain policy => exact hs.elim
  | manifest second =>
  by_cases agree : first.kind = second.kind ∧ first.inherited = second.inherited
  · obtain ⟨kinds, inheritance⟩ := agree
    have direct : first.inherited = false := by
      cases inherits : first.inherited with
      | false => rfl
      | true => exact absurd (.of_inherited kinds inherits (inheritance.symm.trans inherits)) h
    cases found : (Policy.manifest first).directFields.clash?
        (Policy.manifest second).directFields with
    | none => exact absurd ⟨kinds, inheritance, fun _ => found⟩ h
    | some clash =>
        obtain ⟨kind, readable⟩ := Policy.exists_kind_of_id hf.id
        exact ⟨_, conflict_of_clash hf.spec hs.spec kinds direct (inheritance ▸ direct) readable
          (by rw [Fields.union, found]) operation⟩
  · exact merge_of_differ hf.id hs.id agree operation

theorem merged_of_ok (hf : first.Shaped) (hs : second.Shaped)
    (h : (specification.merge operation first second).result = .ok merged) :
    first.Compatible second ∧ Merged operation first second merged := by
  by_cases compatible : first.Compatible second
  · obtain ⟨merged', result, holds⟩ := merge_of_compatible hf hs compatible operation
    rw [result] at h
    exact ⟨compatible, Except.ok.inj h ▸ holds⟩
  · obtain ⟨conflict, result⟩ := merge_of_not_compatible hf hs compatible operation
    rw [result] at h
    cases h

end KindMerger

end PolicyTopology
