import PolicyTopology.Proofs.Policy.Peers
import PolicyTopology.Proofs.Topology.Override

/-!
# Where entries come from

A merge keeps the identity of one of its policies, so the identity of an entry tells the level at
which it got its last policies: those on the node itself, on its namespace, or above. Entries of one
identity that two routes have for a gateway therefore come from the same level, and show the same
even if a level was laid over the ancestors once more.
-/

namespace PolicyTopology

namespace MergerRegistry

open Policy (Merged)

variable {ancestor : Option Policy} {specific merged again : Policy} {name : String}

def mergeLevels (ancestor descendant : Policy) : Except MergeError Policy :=
  (KindMerger.specification.merge .levels ancestor descendant).result

theorem Joins.unique {merge : Policy → Policy → Except MergeError Policy}
    {first second result other : Option Policy} (h : Joins merge first second result)
    (h' : Joins merge first second other) : result = other := by
  cases h with
  | left _ => cases h'; rfl
  | right _ => cases h'; rfl
  | both merged =>
      cases h' with
      | both merged' => rw [Except.ok.inj (merged.symm.trans merged')]

/-- The policy of a level gives its identity to what it is merged into. -/
theorem Joins.identity_of_specific (hancestor : ∀ policy, ancestor = some policy → policy.Shaped)
    (hspecific : specific.Shaped) (h : Joins mergeLevels ancestor (some specific) (some merged)) :
    merged.identity = specific.identity := by
  cases h with
  | right _ => rfl
  | both merge =>
      obtain ⟨_, holds⟩ := KindMerger.merged_of_ok (hancestor _ rfl) hspecific merge
      rw [Policy.identity, holds.id]
      rfl

/-- To lay the policy of a level over the ancestors once more changes nothing that is shown. -/
theorem Joins.look_again (hancestor : ∀ policy, ancestor = some policy → policy.Shaped)
    (hspecific : specific.Shaped) (hmerged : merged.Shaped) (inherited : merged.inherited = true)
    (h : Joins mergeLevels ancestor (some specific) (some merged))
    (h' : Joins mergeLevels (some merged) (some specific) (some again))
    (member : name ∈ ["default", "override"]) (path : List Scalar) :
    (again.layer name).look path = (merged.layer name).look path := by
  cases h' with
  | both merge' =>
      obtain ⟨_, holds'⟩ := KindMerger.merged_of_ok hmerged hspecific merge'
      change Document.look (.object (again.sectionFields name)) path =
        Document.look (.object (merged.sectionFields name)) path
      simp only [List.mem_cons, List.not_mem_nil, or_false] at member
      cases h with
      | right _ =>
          rcases member with rfl | rfl
          · rw [holds'.defaults inherited, Policy.mergedDefaults, ← Document.overlay_object]
            exact Document.look_overlay_self
          · rw [holds'.overrides inherited, ← Document.overlay_object]
            exact Document.look_overlay_self
      | both merge =>
          obtain ⟨_, holds⟩ := KindMerger.merged_of_ok (hancestor _ rfl) hspecific merge
          have inherited' := holds.inherited.symm.trans inherited
          rcases member with rfl | rfl
          · rw [holds'.defaults inherited, holds.defaults inherited', Policy.mergedDefaults,
              Policy.mergedDefaults, ← Document.overlay_object, ← Document.overlay_object]
            exact Document.look_overlay_overlay_right
          · rw [holds'.overrides inherited, holds.overrides inherited', ← Document.overlay_object,
              ← Document.overlay_object]
            exact Document.look_overlay_overlay_left

/-- The entry that the policies of a level come to has the identity of one of them. -/
theorem exists_identity_of_mergeLevel {policies : List Policy} {table : PoliciesByKind}
    (shaped : ∀ policy ∈ policies, policy.Shaped)
    (h : (specifications.mergeLevel policies).result = .ok table) {kind : MergeKind}
    {entry : Policy} (found : table.get? kind = some entry) :
    ∃ policy ∈ policies, entry.id = policy.id := by
  obtain ⟨ordered, perm, kinds, result⟩ := @result_mergeLevel specifications policies
    fun policy member => (shaped policy member).exists_id
  rw [result] at h
  have gathered := Table.get?_of_fill h kind
  rw [found] at gathered
  have kept := Table.gather_invariant (fun entry : Policy => entry.Shaped ∧ ∃ policy ∈ policies,
    entry.id = policy.id) (fun existing holds policy member next joins => ?_) (by simp) gathered
    entry rfl
  · exact kept.2
  · have among : policy ∈ policies :=
      perm.mem_iff.mp (List.mem_map_of_mem (f := Prod.snd) (Table.mem_valuesAt.mp member))
    cases existing with
    | none =>
        cases joins
        exact ⟨shaped policy among, policy, among, rfl⟩
    | some existing =>
        obtain ⟨hexisting, other, among', same⟩ := holds existing rfl
        obtain ⟨_, merged⟩ := KindMerger.merged_of_ok hexisting (shaped policy among) joins
        exact ⟨merged.shaped, other, among', merged.id.trans same⟩

end MergerRegistry

namespace Topology

open MergerRegistry (Joins mergeLevels)

variable {topology : Topology} {target other : Option ResourceId} {kind : MergeKind}
  {policy entry : Policy} {node id : ResourceId}

def LevelEntry (topology : Topology) (target : Option ResourceId) (kind : MergeKind)
    (entry : Policy) : Prop :=
  ∃ table,
    (MergerRegistry.specifications.mergeLevel (topology.policiesOn target)).result = .ok table ∧
    table.get? kind = some entry

/-- The policies of a target are attached to it under their identities. -/
theorem Coherent.exists_target (coherent : topology.Coherent)
    (member : policy ∈ topology.policiesOn target) :
    ∃ place, target = some place ∧ policy.identity ∈ topology.policyIdsOn place := by
  cases target with
  | none => cases member
  | some place =>
      obtain ⟨id, among, found⟩ := List.mem_filterMap.mp member
      obtain ⟨attachment, stored, same⟩ := Option.map_eq_some_iff.mp found
      have identity := Policy.identity_of_id (coherent.readable stored).1
      exact ⟨place, rfl, by rwa [← same, identity]⟩

/-- A policy is attached to one target. -/
theorem Coherent.target_unique (coherent : topology.Coherent) {first second : ResourceId}
    (member : id ∈ topology.policyIdsOn first) (member' : id ∈ topology.policyIdsOn second) :
    first = second := by
  obtain ⟨attachment, stored, rfl⟩ := coherent.attached_iff.mp member
  obtain ⟨attachment', stored', rfl⟩ := coherent.attached_iff.mp member'
  cases stored.symm.trans stored'
  rfl

namespace LevelEntry

theorem unique (h : topology.LevelEntry target kind entry)
    (h' : topology.LevelEntry target kind policy) : entry = policy := by
  obtain ⟨table, result, found⟩ := h
  obtain ⟨table', result', found'⟩ := h'
  cases result.symm.trans result'
  exact Option.some.inj (found.symm.trans found')

theorem shaped (h : topology.LevelEntry target kind entry)
    (admitted : topology.Admits Policy.Shaped) : entry.Shaped := by
  obtain ⟨table, result, found⟩ := h
  have tame := MergerRegistry.specifications_raisesOnlyConflicts.mergeLevel
    fun policy (member : policy ∈ topology.policiesOn target) => admitted.of_mem_policiesOn member
  change Merging.Tame _ (MergerRegistry.specifications.mergeLevel _).result at tame
  rw [result] at tame
  exact tame kind entry found

theorem exists_target (h : topology.LevelEntry target kind entry) (coherent : topology.Coherent)
    (admitted : topology.Admits Policy.Shaped) :
    ∃ place, target = some place ∧ entry.identity ∈ topology.policyIdsOn place := by
  obtain ⟨table, result, found⟩ := h
  obtain ⟨policy, member, same⟩ := MergerRegistry.exists_identity_of_mergeLevel
    (fun policy member => admitted.of_mem_policiesOn member) result found
  rw [Policy.identity, same]
  exact coherent.exists_target member

/-- Entries of one identity come from one level. -/
theorem target_eq (h : topology.LevelEntry target kind entry)
    (h' : topology.LevelEntry other kind policy) (coherent : topology.Coherent)
    (admitted : topology.Admits Policy.Shaped) (same : entry.identity = policy.identity) :
    target = other := by
  obtain ⟨place, rfl, member⟩ := h.exists_target coherent admitted
  obtain ⟨place', rfl, member'⟩ := h'.exists_target coherent admitted
  rw [coherent.target_unique member (same ▸ member')]

end LevelEntry

/-- How a node comes to an entry, given what its ancestors have. -/
inductive NodeEntry (topology : Topology) (kind : MergeKind) (ancestor : Option Policy)
    (node : ResourceId) (entry : Policy) : Prop where
  | own {policy : Policy} : topology.LevelEntry (some node) kind policy →
      entry.identity = policy.identity → NodeEntry topology kind ancestor node entry
  | ofNameSpace {policy : Policy} : topology.LevelEntry (topology.nameSpace? node) kind policy →
      entry.identity = policy.identity → Joins mergeLevels ancestor (some policy) (some entry) →
      NodeEntry topology kind ancestor node entry
  | ancestor : ancestor = some entry → NodeEntry topology kind ancestor node entry

/-- Levels are laid over each other kind by kind. -/
theorem joins_of_layered {ancestors ofNameSpace own part : PoliciesByKind}
    (layers : layered MergerRegistry.specifications.toPolicyMerger ancestors ofNameSpace own =
      .ok part) : ∃ middle, (MergerRegistry.specifications.overlay ancestors ofNameSpace).result =
        .ok middle ∧ ∀ kind,
      Joins mergeLevels (ancestors.get? kind) (ofNameSpace.get? kind) (middle.get? kind) ∧
        Joins mergeLevels (middle.get? kind) (own.get? kind) (part.get? kind) := by
  rw [layered_eq, Except.bind_ok_iff] at layers
  obtain ⟨middle, lower, upper⟩ := layers
  exact ⟨middle, result_of_atNode lower, fun kind =>
    ⟨MergerRegistry.joins_of_overlay (result_of_atNode lower) kind,
      MergerRegistry.joins_of_overlay (result_of_atNode upper) kind⟩⟩

theorem nodeEntry_of_layered {ancestors ofNameSpace own part : PoliciesByKind}
    (admitted : topology.Admits Policy.Shaped) (hancestors : ancestors.All Policy.Shaped)
    (nameSpaces : levelOn MergerRegistry.specifications.toPolicyMerger topology
      (topology.nameSpace? node) = .ok ofNameSpace)
    (owns : levelOn MergerRegistry.specifications.toPolicyMerger topology (some node) = .ok own)
    (layers : layered MergerRegistry.specifications.toPolicyMerger ancestors ofNameSpace own =
      .ok part) (found : part.get? kind = some entry) :
    topology.NodeEntry kind (ancestors.get? kind) node entry := by
  obtain ⟨nameSpaces, hnameSpaces⟩ := levelOn_shaped admitted nameSpaces
  obtain ⟨owns, howns⟩ := levelOn_shaped admitted owns
  obtain ⟨middle, lower, joins⟩ := joins_of_layered layers
  have hmiddle := MergerRegistry.shaped_of_overlay hancestors hnameSpaces lower
  obtain ⟨lower, upper⟩ := joins kind
  rw [found] at upper
  cases ownEntry : own.get? kind with
  | some policy =>
      rw [ownEntry] at upper
      refine .own ⟨own, owns, ownEntry⟩ ?_
      exact upper.identity_of_specific (hmiddle kind) (howns kind policy ownEntry)
  | none =>
      rw [ownEntry] at upper
      rw [← show some entry = middle.get? kind from upper.unique (.left _)] at lower
      cases levelEntry : ofNameSpace.get? kind with
      | some policy =>
          rw [levelEntry] at lower
          refine .ofNameSpace ⟨ofNameSpace, nameSpaces, levelEntry⟩ ?_ lower
          exact lower.identity_of_specific (hancestors kind) (hnameSpaces kind policy levelEntry)
      | none =>
          rw [levelEntry] at lower
          exact .ancestor (lower.unique (.left _)).symm

/-- The nodes of a topology have their namespaces among the nodes of that kind. -/
theorem Coherent.nodeKind_of_nameSpace? (coherent : topology.Coherent) {nameSpace : ResourceId}
    (h : topology.nameSpace? node = some nameSpace) : nameSpace.nodeKind = .nameSpace := by
  obtain ⟨edge, toNameSpace, found⟩ := Option.bind_eq_some_iff.mp h
  have target : nameSpace ∈ topology.targets edge node := List.mem_of_head? found
  have ends := (coherent.outgoing_ends target).2
  have kind : edge.targetKind = .nameSpace := by
    unfold Edge.toNameSpace? at toNameSpace
    split at toNameSpace <;> cases toNameSpace <;> rfl
  rw [kind] at ends
  exact nodeKind_of_mem_idsOf (hasNode_iff.mp ends)

/-- How a gateway comes to an entry: from its class, its namespace, or its own policies. -/
def GatewayEntry (topology : Topology) (kind : MergeKind) (gateway : ResourceId) (entry : Policy) :
    Prop :=
  ∃ ofClass : Option Policy, topology.NodeEntry kind ofClass gateway entry ∧
    ∀ policy, ofClass = some policy → ∃ gatewayClass, gatewayClass.nodeKind = .gatewayClass ∧
      topology.LevelEntry (some gatewayClass) kind policy

/-- Entries that show the same in both sections. -/
def SameLook (first second : Policy) : Prop :=
  ∀ name ∈ ["default", "override"], ∀ path,
    (first.layer name).look path = (second.layer name).look path

section Routes

variable {gateway route second : ResourceId} {ancestor : Option Policy} {other : Policy}
  (coherent : topology.Coherent) (admitted : topology.Admits Policy.Shaped)
  (atGateway : gateway.nodeKind = .gateway)
  (above : ∀ policy, ancestor = some policy → topology.GatewayEntry kind gateway policy)

include coherent admitted atGateway above

/-- The identity of a policy that is attached to a route leads to this route. -/
theorem NodeEntry.eq_of_own (atRoute : route.nodeKind = .httpRoute)
    (own : topology.LevelEntry (some route) kind policy) (same : policy.identity = entry.identity)
    (h : topology.NodeEntry kind ancestor second entry) : route = second := by
  have noNameSpace : ∀ node, some route ≠ topology.nameSpace? node := by
    intro node found
    exact nomatch atRoute.symm.trans (coherent.nodeKind_of_nameSpace? found.symm)
  cases h with
  | own level same' =>
      exact Option.some.inj (own.target_eq level coherent admitted (same.trans same'))
  | ofNameSpace level same' _ =>
      exact absurd (own.target_eq level coherent admitted (same.trans same')) (noNameSpace second)
  | ancestor found =>
      obtain ⟨ofClass, h, classes⟩ := above entry found
      cases h with
      | own level same' =>
          rw [Option.some.inj (own.target_eq level coherent admitted (same.trans same')),
            atGateway] at atRoute
          cases atRoute
      | ofNameSpace level same' _ =>
          exact absurd (own.target_eq level coherent admitted (same.trans same'))
            (noNameSpace gateway)
      | ancestor found =>
          obtain ⟨gatewayClass, atClass, level⟩ := classes entry found
          rw [Option.some.inj (own.target_eq level coherent admitted same), atClass] at atRoute
          cases atRoute

/-- An entry that a namespace gives its identity shows what a gateway of this namespace shows under
that identity. -/
theorem NodeEntry.sameLook_of_ofNameSpace
    (level : topology.LevelEntry (topology.nameSpace? route) kind policy)
    (same : policy.identity = other.identity)
    (joins : Joins mergeLevels (some other) (some policy) (some entry)) (shaped : other.Shaped)
    (inherited : other.inherited = true) (found : ancestor = some other) :
    SameLook entry other := by
  obtain ⟨ofClass, h, classes⟩ := above other found
  cases h with
  | own level' same' =>
      have target := level.target_eq level' coherent admitted (same.trans same')
      exact nomatch atGateway.symm.trans (coherent.nodeKind_of_nameSpace? target)
  | ofNameSpace level' same' joins' =>
      rw [level.target_eq level' coherent admitted (same.trans same')] at level
      rw [level.unique level'] at joins
      refine fun name member path => joins'.look_again (fun policy found => ?_)
        (level'.shaped admitted) shaped inherited joins member path
      obtain ⟨_, _, level⟩ := classes policy found
      exact level.shaped admitted
  | ancestor found =>
      obtain ⟨gatewayClass, atClass, level'⟩ := classes other found
      have target := level.target_eq level' coherent admitted same
      exact nomatch atClass.symm.trans (coherent.nodeKind_of_nameSpace? target)

/-- Entries of one identity that two routes have for a gateway show the same, unless the identity is
that of a policy on one route. -/
theorem NodeEntry.sameLook (atRoute : route.nodeKind = .httpRoute)
    (atSecond : second.nodeKind = .httpRoute) (h : topology.NodeEntry kind ancestor route entry)
    (h' : topology.NodeEntry kind ancestor second other) (same : entry.identity = other.identity)
    (hentry : entry.Shaped ∧ entry.inherited = true)
    (hother : other.Shaped ∧ other.inherited = true) : route = second ∨ SameLook entry other := by
  cases h with
  | own level identity =>
      exact .inl (h'.eq_of_own coherent admitted atGateway above atRoute level
        (identity.symm.trans same))
  | ofNameSpace level identity joins =>
      cases h' with
      | own level' identity' =>
          exact .inl (NodeEntry.eq_of_own coherent admitted atGateway above atSecond level'
            (identity'.symm.trans same.symm) (.ofNameSpace level identity joins)).symm
      | ofNameSpace level' identity' joins' =>
          have target := level.target_eq level' coherent admitted
            (identity.symm.trans (same.trans identity'))
          rw [target] at level
          rw [level.unique level'] at joins
          cases joins.unique joins'
          exact .inr fun _ _ _ => rfl
      | ancestor found =>
          refine .inr (NodeEntry.sameLook_of_ofNameSpace coherent admitted atGateway above level
            (identity.symm.trans same) (found ▸ joins) hother.1 hother.2 found)
  | ancestor found =>
      cases h' with
      | own level' identity' =>
          exact .inl (NodeEntry.eq_of_own coherent admitted atGateway above atSecond level'
            (identity'.symm.trans same.symm) (show topology.NodeEntry kind ancestor route entry from
              .ancestor found)).symm
      | ofNameSpace level' identity' joins' =>
          refine .inr fun name member path => Eq.symm ?_
          exact NodeEntry.sameLook_of_ofNameSpace coherent admitted atGateway above level'
            (identity'.symm.trans same.symm) (found ▸ joins') hentry.1 hentry.2 found name member
            path
      | ancestor found' =>
          cases found.symm.trans found'
          exact .inr fun _ _ _ => rfl

end Routes

end Topology

end PolicyTopology
