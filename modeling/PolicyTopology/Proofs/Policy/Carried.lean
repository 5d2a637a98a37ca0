import PolicyTopology.Proofs.Policy.Admitted

/-!
# What merges carry along

A leaf of a section is a value other than an object together with the path that leads to it. A
merge keeps every leaf of the section that is laid on top: when levels are laid over each other, the
overrides of the ancestors and the defaults of the descendants, and when peers are reconciled, every
leaf that both have.
-/

namespace PolicyTopology

def Policy.Carries (name : String) (source target : Policy) : Prop :=
  ∀ path value, Document.HasLeaf (.object (source.sectionFields name)) path value →
    Document.HasLeaf (.object (target.sectionFields name)) path value

/-- For every policy of one table there is one of its kind in another that is inherited or direct as
it is, and that has the leaves of its section if it is inherited. -/
def PoliciesByKind.Carries (name : String) (source target : PoliciesByKind) : Prop :=
  ∀ kind policy, source.get? kind = some policy → ∃ entry, target.get? kind = some entry ∧
    entry.inherited = policy.inherited ∧ (policy.inherited = true → policy.Carries name entry)

namespace PoliciesByKind.Carries

variable {name : String} {first second third : PoliciesByKind}

theorem trans (h : PoliciesByKind.Carries name first second)
    (h' : PoliciesByKind.Carries name second third) : PoliciesByKind.Carries name first third := by
  intro kind policy found
  obtain ⟨middle, found', inherited, carries⟩ := h kind policy found
  obtain ⟨entry, found'', inherited', carries'⟩ := h' kind middle found'
  refine ⟨entry, found'', inherited'.trans inherited, fun inherits path value leaf => ?_⟩
  exact carries' (inherited.trans inherits) path value (carries inherits path value leaf)

end PoliciesByKind.Carries

namespace MergerRegistry

variable {ancestor specific table : PoliciesByKind} {first : Option PoliciesByKind}
  {second source : PoliciesByKind}

theorem shaped_of_overlay (hancestor : ancestor.All Policy.Shaped)
    (hspecific : specific.All Policy.Shaped)
    (h : (specifications.overlay ancestor specific).result = .ok table) :
    table.All Policy.Shaped := by
  have tame := specifications_raisesOnlyConflicts.overlay hancestor hspecific
  change Merging.Tame _ (specifications.overlay ancestor specific).result at tame
  rw [h] at tame
  exact tame

/-- What is laid over ancestors keeps their overrides. -/
theorem carries_of_overlay_ancestor (hancestor : ancestor.All Policy.Shaped)
    (hspecific : specific.All Policy.Shaped)
    (h : (specifications.overlay ancestor specific).result = .ok table) :
    ancestor.Carries "override" table := by
  intro kind policy found
  have joins := joins_of_overlay h kind
  rw [found] at joins
  generalize table.get? kind = result at joins ⊢
  cases found' : specific.get? kind with
  | none =>
      rw [found'] at joins
      cases joins
      exact ⟨policy, rfl, rfl, fun _ _ _ leaf => leaf⟩
  | some child =>
      rw [found'] at joins
      cases joins with
      | both merge =>
          obtain ⟨_, merged⟩ := KindMerger.merged_of_ok (hancestor kind policy found)
            (hspecific kind child found') merge
          refine ⟨_, rfl, merged.inherited, fun inherits path value leaf => ?_⟩
          rw [merged.overrides inherits]
          exact Fields.hasLeaf_overlay leaf

/-- Defaults that are laid over those of ancestors are kept. -/
theorem carries_of_overlay_specific (hancestor : ancestor.All Policy.Shaped)
    (hspecific : specific.All Policy.Shaped)
    (h : (specifications.overlay ancestor specific).result = .ok table) :
    specific.Carries "default" table := by
  intro kind policy found
  have joins := joins_of_overlay h kind
  rw [found] at joins
  generalize table.get? kind = result at joins ⊢
  cases found' : ancestor.get? kind with
  | none =>
      rw [found'] at joins
      cases joins
      exact ⟨policy, rfl, rfl, fun _ _ _ leaf => leaf⟩
  | some parent =>
      rw [found'] at joins
      cases joins with
      | both merge =>
          obtain ⟨compatible, merged⟩ := KindMerger.merged_of_ok (hancestor kind parent found')
            (hspecific kind policy found) merge
          refine ⟨_, rfl, merged.inherited.trans compatible.inherited,
            fun inherits path value leaf => ?_⟩
          rw [merged.defaults (compatible.inherited.trans inherits)]
          exact Fields.hasLeaf_overlay leaf

theorem merged_of_mergeInPrecedence {existing policy merged : Policy} (he : existing.Shaped)
    (hp : policy.Shaped) (h : mergeInPrecedence .specification existing policy = .ok merged) :
    existing.Compatible policy ∧ Policy.Merged .peers existing policy merged ∨
      policy.Compatible existing ∧ Policy.Merged .peers policy existing merged := by
  obtain ⟨id, other, _, _, merge⟩ := mergeInPrecedence_of_shaped he hp
  rw [merge] at h
  split at h
  · exact .inl (KindMerger.merged_of_ok he hp h)
  · exact .inr (KindMerger.merged_of_ok hp he h)

/-- Reconciled peers keep the overrides that they both have. -/
theorem carries_of_reconcile
    (hfirst : ∀ policies, first = some policies → policies.All Policy.Shaped)
    (hsecond : second.All Policy.Shaped)
    (h : (specifications.reconcile first second).result = .ok table)
    (carried : ∀ policies, first = some policies → source.Carries "override" policies)
    (carried' : source.Carries "override" second) : source.Carries "override" table := by
  intro kind policy found
  obtain ⟨entry, stored, inherited, carries⟩ := carried' kind policy found
  have joins := joins_of_reconcile h kind
  rw [stored] at joins
  generalize table.get? kind = result at joins ⊢
  cases first with
  | none =>
      cases joins
      exact ⟨entry, rfl, inherited, carries⟩
  | some policies =>
      obtain ⟨entry', stored', inherited', carries'⟩ := carried policies rfl kind policy found
      rw [Option.getD_some, stored'] at joins
      cases joins with
      | both merge =>
          have shaped := hfirst policies rfl kind entry' stored'
          have shaped' := hsecond kind entry stored
          rcases merged_of_mergeInPrecedence shaped shaped' merge with ⟨_, merged⟩ | ⟨_, merged⟩
          · refine ⟨_, rfl, merged.inherited.trans inherited', fun inherits path value leaf => ?_⟩
            rw [merged.overrides (inherited'.trans inherits)]
            exact Fields.hasLeaf_overlay (carries' inherits path value leaf)
          · refine ⟨_, rfl, merged.inherited.trans inherited, fun inherits path value leaf => ?_⟩
            rw [merged.overrides (inherited.trans inherits)]
            exact Fields.hasLeaf_overlay (carries inherits path value leaf)

end MergerRegistry

end PolicyTopology
