import PolicyTopology.Proofs.Topology.Frame

/-!
# Coherent topologies

What the parts of a topology owe to each other. An edge joins two nodes of the kinds that it is for,
attached policies are indexed by their targets and by their identities, and only a gateway with a
class has effective policies. Every operation that is used to assemble a topology keeps this.
-/

namespace PolicyTopology

namespace Topology

variable {topology : Topology}

/-- What the parts of a topology owe to each other. -/
structure Coherent (topology : Topology) : Prop where
  outgoing_ends : ∀ {edge source target}, target ∈ topology.targets edge source →
    topology.hasNode edge.sourceKind source ∧ topology.hasNode edge.targetKind target
  incoming_ends : ∀ {edge source target}, source ∈ topology.sources edge target →
    topology.hasNode edge.sourceKind source ∧ topology.hasNode edge.targetKind target
  attached_iff : ∀ {id target}, id ∈ topology.policyIdsOn target ↔
    ∃ attachment, topology.policies.get? id = some attachment ∧ attachment.target = target
  readable : ∀ {id attachment}, topology.policies.get? id = some attachment →
    attachment.policy.id = .ok id ∧ ∃ reference, attachment.policy.target = .ok reference
  effective_classed : ∀ {gateway}, topology.effective.get? gateway ≠ none →
    topology.target? .gatewayClass gateway ≠ none

theorem hasNode_iff {kind : NodeKind} {id : ResourceId} :
    topology.hasNode kind id ↔ id ∈ topology.idsOf kind := by
  simp [hasNode, idsOf, Table.contains_iff, and_comm]

theorem nodeKind_of_mem_idsOf {kind : NodeKind} {id : ResourceId}
    (h : id ∈ topology.idsOf kind) : id.nodeKind = kind := by
  simpa using (List.mem_filter.mp h).2

theorem Coherent.gateway_of_target (h : topology.Coherent) {route gateway : ResourceId}
    (member : gateway ∈ topology.targets .routeGateway route) :
    gateway ∈ topology.idsOf .gateway :=
  hasNode_iff.mp (h.outgoing_ends member).2

theorem Coherent.route_of_source (h : topology.Coherent) {backend route : ResourceId}
    (member : route ∈ topology.sources .routeBackend backend) :
    route ∈ topology.idsOf .httpRoute :=
  hasNode_iff.mp (h.incoming_ends member).1

/-- A new edge takes the place of the source's former one, or joins those that are there. -/
theorem targets_link (topology : Topology) (edge other : Edge) (source target id : ResourceId) :
    (topology.link edge source target).targets other id =
      if edge = other ∧ source = id then
        addMissing (if edge.isSingle then [] else topology.targets edge source) [target]
      else topology.targets other id := by
  simp only [targets, link, Table.get?_set, Prod.mk.injEq]
  split <;> rfl

theorem sources_link (topology : Topology) (edge other : Edge) (source target id : ResourceId) :
    (topology.link edge source target).sources other id =
      if edge = other ∧ target = id then addMissing (topology.sources edge target) [source]
      else topology.sources other id := by
  simp only [sources, link, Table.get?_set, Prod.mk.injEq]
  split <;> rfl

theorem mem_targets_link {edge other : Edge} {source target id member : ResourceId}
    (h : member ∈ (topology.link edge source target).targets other id) :
    (edge = other ∧ source = id ∧ member = target) ∨ member ∈ topology.targets other id := by
  rw [targets_link] at h
  split at h
  · next same =>
    obtain ⟨rfl, rfl⟩ := same
    rcases mem_addMissing.mp h with h | h
    · split at h
      · cases h
      · exact .inr h
    · exact .inl ⟨rfl, rfl, List.mem_singleton.mp h⟩
  · exact .inr h

theorem mem_sources_link_iff {edge other : Edge} {source target id member : ResourceId} :
    member ∈ (topology.link edge source target).sources other id ↔
      member ∈ topology.sources other id ∨ edge = other ∧ source = member ∧ target = id := by
  rw [sources_link]
  split
  · next same =>
    obtain ⟨rfl, rfl⟩ := same
    simp [mem_addMissing, eq_comm]
  · next different =>
    have absurd : ¬ (edge = other ∧ source = member ∧ target = id) :=
      fun same => different ⟨same.1, same.2.2⟩
    simp [absurd]

/-- A new edge leaves no source without a target that had one. -/
theorem target?_link_ne_none {edge other : Edge} {source target id : ResourceId}
    (h : topology.target? other id ≠ none) :
    (topology.link edge source target).target? other id ≠ none := by
  rw [target?, targets_link]
  split
  · have member : target ∈ addMissing (if edge.isSingle then [] else
        topology.targets edge source) [target] :=
      mem_addMissing.mpr (.inr (List.mem_singleton_self target))
    exact fun none => List.not_mem_nil (List.head?_eq_none_iff.mp none ▸ member)
  · exact h

theorem coherent_empty : Coherent .empty where
  outgoing_ends h := nomatch h
  incoming_ends h := nomatch h
  attached_iff := by
    intro id target
    constructor
    · exact fun h => nomatch h
    · exact fun ⟨_, h⟩ => nomatch h
  readable h := nomatch h
  effective_classed h := absurd rfl h

namespace Coherent

/-- What is kept beside the graph and the effective policies of gateways does not matter. -/
theorem congr (h : Coherent topology) (partitions : Table ResourceId Partitions)
    (inherited : Table ResourceId (List ResourceId)) (diagnostics : List Diagnostic)
    (journal : List Event) :
    Coherent { topology with partitions, inherited, diagnostics, journal } :=
  ⟨h.outgoing_ends, h.incoming_ends, h.attached_iff, h.readable, h.effective_classed⟩

theorem record (h : Coherent topology) (events : List Event) :
    Coherent (topology.record events) := h.congr ..

theorem leaveOut (h : Coherent topology) (diagnostic : Diagnostic) :
    Coherent (topology.leaveOut diagnostic) := h.congr ..

theorem insert (h : Coherent topology) (resource : Resource) :
    Coherent (topology.insert resource) := by
  have grows : ∀ {kind id}, topology.hasNode kind id →
      (topology.insert resource).hasNode kind id := by
    intro kind id node
    simp only [hasNode, Bool.and_eq_true, Table.contains_eq_isSome] at node ⊢
    refine ⟨node.1, ?_⟩
    change ((topology.nodes.insertNew resource.id resource).get? id).isSome = true
    rw [Table.get?_insertNew]
    split
    · rfl
    · exact node.2
  exact {
    outgoing_ends := fun edge => ⟨grows (h.outgoing_ends edge).1, grows (h.outgoing_ends edge).2⟩
    incoming_ends := fun edge => ⟨grows (h.incoming_ends edge).1, grows (h.incoming_ends edge).2⟩
    attached_iff := h.attached_iff
    readable := h.readable
    effective_classed := h.effective_classed }

theorem link (h : Coherent topology) {edge : Edge} {source target : ResourceId}
    (atSource : topology.hasNode edge.sourceKind source)
    (atTarget : topology.hasNode edge.targetKind target) :
    Coherent (topology.link edge source target) where
  outgoing_ends member := by
    rcases mem_targets_link member with ⟨rfl, rfl, rfl⟩ | member
    · exact ⟨atSource, atTarget⟩
    · exact h.outgoing_ends member
  incoming_ends member := by
    rcases mem_sources_link_iff.mp member with member | ⟨rfl, rfl, rfl⟩
    · exact h.incoming_ends member
    · exact ⟨atSource, atTarget⟩
  attached_iff := h.attached_iff
  readable := h.readable
  effective_classed stored := target?_link_ne_none (h.effective_classed stored)

theorem connect (h : Coherent topology) (edge : Edge) (source target : ResourceId) :
    Coherent (topology.connect edge source target) := by
  unfold Topology.connect
  split
  · exact h.leaveOut _
  · next atSource =>
    split
    · exact h.leaveOut _
    · next atTarget => exact h.link (by simpa using atSource) (by simpa using atTarget)

theorem hold (h : Coherent topology) {id : ResourceId} {attachment : Attachment}
    (fresh : topology.policies.get? id = none) (readableId : attachment.policy.id = .ok id)
    (readableTarget : ∃ reference, attachment.policy.target = .ok reference) :
    Coherent (topology.hold id attachment) where
  outgoing_ends := h.outgoing_ends
  incoming_ends := h.incoming_ends
  attached_iff {other place} := by
    have members : other ∈ (topology.hold id attachment).policyIdsOn place ↔
        (attachment.target = place ∧ other = id) ∨ other ∈ topology.policyIdsOn place := by
      simp only [policyIdsOn, Topology.hold, Table.get?_set]
      split
      · next same =>
        rw [← same, Option.getD_some, mem_addMissing, List.mem_singleton, or_comm]
        simp
      · next other => simp [other]
    rw [members, h.attached_iff]
    simp only [Topology.hold, Table.get?_set]
    by_cases same : id = other
    · subst same
      simp [fresh]
    · simp [same, Ne.symm same]
  readable {other stored} held := by
    simp only [Topology.hold, Table.get?_set] at held
    split at held
    · next same =>
      cases held
      exact ⟨same ▸ readableId, readableTarget⟩
    · exact h.readable held
  effective_classed := h.effective_classed

theorem survivesAttachment : SurvivesAttachment Coherent where
  record _ h := h.record _
  leaveOut _ h := h.leaveOut _
  hold h placed fresh := by
    have readable := readable_of_placement placed
    rw [← policy_of_placement placed] at readable
    exact h.hold fresh readable.1 readable.2

theorem attach (policy : Policy) : Assembly.Keeps Coherent (Topology.attach policy) :=
  survivesAttachment.attach policy

theorem attachAll (policies : List Policy) :
    Assembly.Keeps Coherent (Topology.attachAll policies) :=
  survivesAttachment.attachAll policies

theorem inheritAll (h : Coherent topology) (kind : NodeKind)
    (inherits : Topology → ResourceId → List ResourceId) :
    Coherent (topology.inheritAll kind inherits) :=
  inheritAll_keeps (fun _ h => h.congr ..) h kind inherits

theorem inherit (h : Coherent topology) : Coherent topology.inherit :=
  inherit_keeps (fun _ h => h.record _) (fun _ h => h.congr ..) h

end Coherent

end Topology

end PolicyTopology
