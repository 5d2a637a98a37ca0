import PolicyTopology.Proofs.Document.Join
import PolicyTopology.Proofs.Policy.Merged
import PolicyTopology.Proofs.Policy.Outline

/-!
# Merging direct policies

Two direct policies are merged exactly if the objects that they specify beside the reference to the
target have a union, which is what the merged policy then specifies. The union does not depend on
the order of the two, so neither the level nor the precedence of direct policies matters to what
comes of them, and a conflict between them is a clash that their specifications have.
-/

namespace PolicyTopology

namespace Policy

/-- A manifest policy of which a direct merge can read every part: its merge kind, and a
specification that is an object or not present. -/
def Unitable : Policy → Prop
  | .manifest policy => (∃ kind, policy.kind = .ok kind) ∧
      policy.spec = .ok (.object (Policy.manifest policy).specFields)
  | .plain _ => False

theorem Unitable.exists_kind {policy : Policy} (h : policy.Unitable) :
    ∃ kind, policy.kind = .ok kind := by
  cases policy with
  | manifest policy => exact h.1
  | plain policy => exact h.elim

end Policy

namespace ManifestPolicy

variable {keep first second merged policy : ManifestPolicy} {fields : Fields}

theorem spec_of_object (h : policy.spec = .ok (.object fields)) :
    policy.spec = .ok (.object (Policy.manifest policy).specFields) := by
  unfold Policy.specFields
  dsimp only
  rw [h]

/-- A union needs two specifications with fields. -/
theorem specs_of_unite (h : unite keep first second = .ok merged) :
    first.spec = .ok (.object (Policy.manifest first).specFields) ∧
      second.spec = .ok (.object (Policy.manifest second).specFields) := by
  unfold unite at h
  simp only [Except.bind_ok_iff, Except.lift_ok_iff] at h
  obtain ⟨firstSpec, found, secondSpec, found', _, _, _, _, _, erased, _, erased', _⟩ := h
  cases firstSpec with
  | scalar value => cases erased
  | array items => cases erased
  | object fields =>
  cases secondSpec with
  | scalar value => cases erased'
  | array items => cases erased'
  | object others => exact ⟨spec_of_object found, spec_of_object found'⟩

/-- What is united after it was found reconcilable can be read in every part. -/
theorem unitable_of_unite {ancestor descendant : Policy}
    (reconciled : reconcilable ancestor descendant = .ok (first, second))
    (united : unite keep first second = .ok merged) :
    ancestor.Unitable ∧ descendant.Unitable := by
  obtain ⟨spec, spec'⟩ := specs_of_unite united
  obtain ⟨rfl, rfl, _, kind, found, found'⟩ := reconcilable_ok_iff.mp reconciled
  exact ⟨⟨⟨kind, found⟩, spec⟩, ⟨⟨kind, found'⟩, spec'⟩⟩

/-- What two specifications have in common is the union, around any manifest that has fields. -/
theorem exists_unite_of_union {united : Fields}
    (hf : first.spec = .ok (.object (Policy.manifest first).specFields))
    (hs : second.spec = .ok (.object (Policy.manifest second).specFields))
    (hk : keep.spec = .ok (.object (Policy.manifest keep).specFields))
    (readable : ∃ kind, keep.kind = .ok kind)
    (union : (Policy.manifest first).directFields.union (Policy.manifest second).directFields =
      .ok united) :
    ∃ merged, unite keep first second = .ok merged ∧
      (Policy.manifest merged).directFields.Same united := by
  obtain ⟨kind, found⟩ := readable
  obtain ⟨fields, same⟩ := exists_fields_of_spec hk
  obtain ⟨spec, result, others⟩ := unite_of_union hf hs hk found same union
  have absent : ∀ key, (("targetRef" : Scalar) == key) = true →
      Entries.get? united key = none := by
    intro key reference
    rw [← (Fields.union_ok_iff.mp union).2]
    exact get?_join_directFields _ _ reference
  exact ⟨_, result, Fields.same_of_get? (get?_directFields_replaceSpec absent others)⟩

end ManifestPolicy

namespace KindMerger

open Policy (Unitable)

variable {first second merged : Policy} {operation : MergeOperation}

/-- Direct policies are only merged if they are unitable. -/
theorem unitable_of_merge (direct : first.inherited = false)
    (h : (specification.merge operation first second).result = .ok merged) :
    first.Unitable ∧ second.Unitable := by
  cases operation with
  | levels =>
      rw [result_levels] at h
      obtain ⟨_, h, _⟩ := Except.map_ok_iff.mp h
      unfold ManifestPolicy.mergeLevels at h
      obtain ⟨⟨parent, child⟩, reconciled, united⟩ := Except.bind_ok_iff.mp h
      have isDirect : parent.inherited = false := by
        rwa [(ManifestPolicy.reconcilable_ok_iff.mp reconciled).1] at direct
      change (if parent.inherited = true then _ else _) = _ at united
      rw [isDirect, if_neg Bool.false_ne_true] at united
      exact ManifestPolicy.unitable_of_unite reconciled united
  | peers =>
      rw [result_peers] at h
      obtain ⟨_, h, _⟩ := Except.map_ok_iff.mp h
      unfold ManifestPolicy.mergePeers at h
      obtain ⟨⟨winner, loser⟩, reconciled, united⟩ := Except.bind_ok_iff.mp h
      have isDirect : winner.inherited = false := by
        rwa [(ManifestPolicy.reconcilable_ok_iff.mp reconciled).1] at direct
      change (if winner.inherited = true then _ else _) = _ at united
      rw [isDirect, if_neg Bool.false_ne_true] at united
      exact ManifestPolicy.unitable_of_unite reconciled united

theorem error_of_not_unitable (direct : first.inherited = false)
    (h : ¬ (first.Unitable ∧ second.Unitable)) (operation : MergeOperation) :
    ∃ error, (specification.merge operation first second).result = .error error := by
  cases result : (specification.merge operation first second).result with
  | error error => exact ⟨error, rfl⟩
  | ok merged => exact absurd (unitable_of_merge direct result) h

section Unitable

variable (hf : first.Unitable) (hs : second.Unitable) (kinds : first.kind = second.kind)
  (direct : first.inherited = false) (direct' : second.inherited = false)
include hf hs kinds direct direct'

/-- Unitable policies are merged if what they specify has a union, and then they come to that. -/
theorem merge_of_union {fields : Fields}
    (union : first.directFields.union second.directFields = .ok fields)
    (operation : MergeOperation) :
    ∃ merged, (specification.merge operation first second).result = .ok merged ∧
      merged.directFields.Same fields := by
  cases first with
  | plain policy => exact hf.elim
  | manifest first =>
  cases second with
  | plain policy => exact hs.elim
  | manifest second =>
  obtain ⟨readable, spec⟩ := hf
  obtain ⟨readable', spec'⟩ := hs
  cases operation with
  | levels =>
      obtain ⟨merged, result, same⟩ :=
        ManifestPolicy.exists_unite_of_union spec spec' spec' readable' union
      rw [result_levels, ManifestPolicy.mergeLevels_direct readable' kinds direct direct', result]
      exact ⟨_, rfl, same⟩
  | peers =>
      obtain ⟨merged, result, same⟩ :=
        ManifestPolicy.exists_unite_of_union spec spec' spec readable union
      rw [result_peers, ManifestPolicy.mergePeers_direct readable' kinds direct direct', result]
      exact ⟨_, rfl, same⟩

/-- They conflict if it has a clash, and the conflict is about that clash. -/
theorem merge_of_clash {clash : Clash} {kind : MergeKind} (readable : first.kind = .ok kind)
    (union : first.directFields.union second.directFields = .error clash)
    (operation : MergeOperation) :
    (specification.merge operation first second).result =
      .error (.conflict ⟨kind, .clash clash⟩) := by
  cases first with
  | plain policy => exact hf.elim
  | manifest first =>
  cases second with
  | plain policy => exact hs.elim
  | manifest second =>
      exact conflict_of_clash hf.2 hs.2 kinds direct direct' readable union operation

/-- So merging unitable policies stands and falls with the union of what they specify. -/
theorem together_union (operation : MergeOperation) :
    Except.Together (fun merged fields => merged.directFields.Same fields)
      (specification.merge operation first second).result
      (first.directFields.union second.directFields) := by
  cases union : first.directFields.union second.directFields with
  | ok fields =>
      obtain ⟨merged, result, same⟩ := merge_of_union hf hs kinds direct direct' union operation
      rw [result]
      exact same
  | error clash =>
      obtain ⟨kind, readable⟩ := hf.exists_kind
      rw [merge_of_clash hf hs kinds direct direct' readable union]
      trivial

end Unitable

/-- Two merges that succeed together, with policies that specify the same beside the target. -/
def ComeToSame (left right : Merging Policy) : Prop :=
  Except.Together (fun merged other => merged.directFields.Same other.directFields)
    left.result right.result

theorem comeToSame_of_union {first' second' : Policy} {operation' : MergeOperation}
    {left right : Except Clash Fields}
    (h : Except.Together (fun merged fields => merged.directFields.Same fields)
      (specification.merge operation first second).result left)
    (same : Except.Together Fields.Same left right)
    (h' : Except.Together (fun merged fields => merged.directFields.Same fields)
      (specification.merge operation' first' second').result right) :
    ComeToSame (specification.merge operation first second)
      (specification.merge operation' first' second') := by
  refine ((h.trans same).trans h'.swap).imp fun merged other => ?_
  rintro ⟨fields, ⟨fields', merged', same⟩, other'⟩
  exact (merged'.trans same).trans other'.symm

theorem comeToSame_of_not_unitable {first' second' : Policy} {operation' : MergeOperation}
    (direct : first.inherited = false) (h : ¬ (first.Unitable ∧ second.Unitable))
    (direct' : first'.inherited = false) (h' : ¬ (first'.Unitable ∧ second'.Unitable)) :
    ComeToSame (specification.merge operation first second)
      (specification.merge operation' first' second') := by
  obtain ⟨error, result⟩ := error_of_not_unitable direct h operation
  obtain ⟨error', result'⟩ := error_of_not_unitable direct' h' operation'
  rw [ComeToSame, result, result']
  trivial

/-- What becomes of two direct policies of one kind. -/
structure MergedByUnion (first second : Policy) : Prop where
  /-- It comes to the same to merge them as policies of two levels and as peers. -/
  levels : ComeToSame (specification.merge .levels first second)
    (specification.merge .peers first second)
  /-- So does it to merge them as peers in either order. -/
  swapped : ComeToSame (specification.merge .peers first second)
    (specification.merge .peers second first)
  /-- If their parts can be read, they are merged just when there is a union of what they specify
  beside the target, and the merged policy specifies that. -/
  union : first.Unitable → second.Unitable → ∀ operation,
    Except.Together (fun merged fields => merged.directFields.Same fields)
      (specification.merge operation first second).result
      (first.directFields.union second.directFields)
  /-- Otherwise they conflict, and the conflict names the clash. -/
  conflict : first.Unitable → second.Unitable → ∀ operation clash,
    first.directFields.union second.directFields = .error clash → ∃ found : MergeConflict,
      (specification.merge operation first second).result = .error (.conflict found) ∧
        first.kind = .ok found.kind ∧ found.reason.message =
          ".".intercalate ("spec" :: clash.path.map Scalar.text) ++ " is set to both " ++
            clash.first.literal ++ " and " ++ clash.second.literal

/-- The union of objects is a partial join, so direct policies of one kind are merged into the same,
or not at all, at whatever levels and in whatever order they are met. -/
theorem direct_merge_is_join :
    (∀ first second third : Fields, Fields.JoinLaws first second third) ∧
      ∀ first second : Policy, first.inherited = false → second.inherited = false →
        first.kind = second.kind → MergedByUnion first second := by
  refine ⟨Fields.joinLaws, fun first second direct direct' kinds => ?_⟩
  have union := fun (hf : first.Unitable) (hs : second.Unitable) =>
    together_union hf hs kinds direct direct'
  have union' := fun (hs : second.Unitable) (hf : first.Unitable) =>
    together_union hs hf kinds.symm direct' direct
  refine ⟨?_, ?_, union, fun hf hs operation clash clashes => ?_⟩
  · by_cases both : first.Unitable ∧ second.Unitable
    · have merged := union both.1 both.2
      exact comeToSame_of_union (merged .levels) (Fields.together_refl _) (merged .peers)
    · exact comeToSame_of_not_unitable direct both direct both
  · by_cases both : first.Unitable ∧ second.Unitable
    · exact comeToSame_of_union (union both.1 both.2 .peers) (Fields.union_comm _ _)
        (union' both.2 both.1 .peers)
    · exact comeToSame_of_not_unitable direct both direct' fun both' => both both'.symm
  · obtain ⟨kind, readable⟩ := hf.exists_kind
    exact ⟨_, merge_of_clash hf hs kinds direct direct' readable clashes operation, readable, rfl⟩

def limiting (name : String) (limits : Fields) : Policy :=
  .manifest {
    manifest := .object [("apiVersion", .string "example.com/v1"), ("kind", .string "Quota"),
      ("metadata", .object [("name", .string name), ("namespace", .string "n")]),
      ("spec", .object (("targetRef", .object [("kind", .string "Gateway")]) :: limits))]
    inherited := false }

/-- One is the same limit as an integer and as a truth value. -/
theorem direct_merge_is_join_limits :
    (limiting "a" [("requests", .int 1)]).Unitable ∧
      (limiting "b" [("requests", .bool true), ("connections", .int 2)]).Unitable ∧
      MergedByUnion (limiting "a" [("requests", .int 1)])
        (limiting "b" [("requests", .bool true), ("connections", .int 2)]) :=
  ⟨⟨⟨_, rfl⟩, rfl⟩, ⟨⟨_, rfl⟩, rfl⟩, direct_merge_is_join.2 _ _ rfl rfl rfl⟩

/-- The mark that there is no number clashes with itself. -/
theorem union_self_notANumber :
    ¬ Except.Together Fields.Same
      (Fields.union [("requests", .float .notANumber)] [("requests", .float .notANumber)])
      (.ok [("requests", .float .notANumber)] : Except Clash Fields) :=
  id

end KindMerger

end PolicyTopology
