import PolicyTopology.Proofs.Topology.Declared
import PolicyTopology.Proofs.Topology.Inheritance
import PolicyTopology.Proofs.Topology.Offered
import PolicyTopology.Proofs.Topology.Reachable
import Mathlib.Data.List.Nodup

/-!
# Builds

A build offers the policies of a snapshot to its graph and completes what comes of it: it resolves,
lets nodes inherit and reports. Completion takes the same steps in topologies that are alike. If the
resources of a snapshot have distinct identities, each node has the edges that its own resource
declares.
-/

namespace PolicyTopology

namespace Topology

variable {merger : PolicyMerger} {mode : ResolutionMode} {topology first second : Topology}

def summary (topology : Topology) (report : ResolutionReport) : Event :=
  .built (topology.idsOf .gateway).length (topology.idsOf .httpRoute).length
    (topology.idsOf .backend).length topology.policies.size topology.diagnostics.length
    report.failures.length

/-- The part of a build after the attachment of policies. -/
def complete (merger : PolicyMerger) (mode : ResolutionMode) :
    Assembly ResolutionError ResolutionReport := do
  let report ← inheritAfter (resolve merger mode)
  modify fun topology => topology.record [topology.summary report]
  return report

theorem run_inheritAfter {α : Type} (work : Assembly ResolutionError α) (topology : Topology) :
    (inheritAfter work).run topology = ((work.run topology).1, (work.run topology).2.inherit) := rfl

theorem run_complete (merger : PolicyMerger) (mode : ResolutionMode) (topology : Topology) :
    (complete merger mode).run topology =
      match (resolve merger mode).run topology with
      | (.ok report, after) => (.ok report, after.inherit.record [after.inherit.summary report])
      | (.error error, after) => (.error error, after.inherit) := by
  unfold complete
  rw [Assembly.run_bind, run_inheritAfter]
  rcases (resolve merger mode).run topology with ⟨_ | report, after⟩ <;> rfl

/-- A build works on the graph of its snapshot; a policy that cannot be read ends it. -/
theorem run_build (snapshot : Snapshot) (merger : PolicyMerger) (mode : ResolutionMode) :
    (build snapshot merger mode).run .empty =
      match (attachAll snapshot.policies).run snapshot.graph with
      | (.ok _, after) => (complete merger mode).run after
      | (.error error, after) => (.error (.fault (.malformed error)), after) := by
  unfold build Snapshot.graph
  rw [Assembly.run_bind, Assembly.run_modify]
  dsimp only
  rw [Assembly.run_bind, Assembly.run_modify]
  dsimp only
  rw [Assembly.run_bind, Assembly.run_adapt]
  rcases (attachAll snapshot.policies).run
    (snapshot.declarations.foldl declare (Topology.empty.insertAll snapshot.resources))
    with ⟨_ | _, after⟩ <;> rfl

theorem Alike.summary (h : Alike first second)
    (omissions : first.diagnostics.length = second.diagnostics.length)
    (report : ResolutionReport) : second.summary report = first.summary report := by
  unfold Topology.summary
  rw [(h.idsOf .gateway).length_eq, (h.idsOf .httpRoute).length_eq, (h.idsOf .backend).length_eq,
    Table.size_congr h.policies, omissions]

/-- Two ends of work on topologies that differ in the order of arrival: what came of it is the same,
and the topologies hold the same, with what has been left out and what has happened in another
order. -/
structure SameButOrder {ε α : Type} (run run' : Except ε α × Topology) : Prop where
  result : run'.1 = run.1
  alike : Alike run.2 run'.2
  diagnostics : run'.2.diagnostics.Perm run.2.diagnostics
  journal : run'.2.journal.Perm run.2.journal

namespace SameButOrder

variable {ε α : Type} {start start' : Topology}

theorem of_alikeSince (h : AlikeSince merger start start' first second)
    (diagnostics : start'.diagnostics.Perm start.diagnostics)
    (journal : start'.journal.Perm start.journal) (result : Except ε α) :
    SameButOrder (result, first) (result, second) where
  result := rfl
  alike := h.alike
  diagnostics := by
    rw [h.diagnostics, h.diagnostics']
    exact diagnostics
  journal := by
    obtain ⟨events, former, former'⟩ := h.journals
    rw [former, former']
    exact journal.append_right events

theorem record {result : Except ε α} (h : SameButOrder (result, first) (result, second))
    (events : List Event) :
    SameButOrder (result, first.record events) (result, second.record events) where
  result := rfl
  alike := h.alike.record events events
  diagnostics := h.diagnostics
  journal := h.journal.append_right events

end SameButOrder

section Completion

variable (alike : Alike first second) (levels : SameLevels merger first second)
  (coherent : first.Coherent) (coherent' : second.Coherent)

include alike levels coherent coherent' in
theorem resolve_inherit_of_alike (mode : ResolutionMode) :
    ∃ result after after', (resolve merger mode).run first = (result, after) ∧
      (resolve merger mode).run second = (result, after') ∧
      AlikeSince merger first second after.inherit after'.inherit := by
  obtain ⟨same, resolved⟩ := respects_resolve merger mode first second (.refl alike levels)
  have kept := Coherent.resolve merger mode first coherent
  have kept' := Coherent.resolve merger mode second coherent'
  generalize (resolve merger mode).run first = run at same resolved kept
  generalize (resolve merger mode).run second = run' at same resolved kept'
  obtain ⟨result, after⟩ := run
  obtain ⟨_, after'⟩ := run'
  cases same
  exact ⟨result, after, after', rfl, rfl, resolved.inherit kept kept'⟩

include alike levels coherent coherent' in
/-- Completion comes to the same in topologies that are alike. -/
theorem complete_of_alike (mode : ResolutionMode) :
    ∃ result after after', (complete merger mode).run first = (result, after) ∧
      (complete merger mode).run second = (result, after') ∧ Alike after after' := by
  obtain ⟨result, after, after', run, run', inherited⟩ :=
    resolve_inherit_of_alike alike levels coherent coherent' mode
  rw [run_complete, run_complete, run, run']
  cases result with
  | error error => exact ⟨_, _, _, rfl, rfl, inherited.alike⟩
  | ok report => exact ⟨_, _, _, rfl, rfl, inherited.alike.record _ _⟩

include alike levels coherent coherent' in
/-- What differed in the order of arrival only still does after completion. -/
theorem complete_sameButOrder (mode : ResolutionMode)
    (diagnostics : second.diagnostics.Perm first.diagnostics)
    (journal : second.journal.Perm first.journal) :
    SameButOrder ((complete merger mode).run first) ((complete merger mode).run second) := by
  obtain ⟨result, after, after', run, run', inherited⟩ :=
    resolve_inherit_of_alike alike levels coherent coherent' mode
  have same := SameButOrder.of_alikeSince inherited diagnostics journal result
  rw [run_complete, run_complete, run, run']
  cases result with
  | error error => exact same
  | ok report =>
      dsimp only
      rw [same.alike.summary same.diagnostics.length_eq.symm]
      exact same.record _

end Completion

theorem sameWiring_complete (merger : PolicyMerger) (mode : ResolutionMode) (topology : Topology) :
    SameWiring topology ((complete merger mode).run topology).2 := by
  have resolved := SameWiring.resolve merger mode topology
  rw [run_complete]
  generalize (resolve merger mode).run topology = run at resolved
  rcases run with ⟨_ | report, after⟩
  · exact resolved.trans (.inherit after)
  · exact (resolved.trans (.inherit after)).trans (.record ..)

/-- The nodes and edges of a build are those of the graph, however it ends. -/
theorem sameWiring_build (snapshot : Snapshot) (merger : PolicyMerger) (mode : ResolutionMode) :
    SameWiring snapshot.graph ((build snapshot merger mode).run .empty).2 := by
  have attached := SameWiring.attachAll snapshot.policies snapshot.graph
  rw [run_build]
  generalize (attachAll snapshot.policies).run snapshot.graph = run at attached
  rcases run with ⟨_ | _, after⟩
  · exact attached
  · exact attached.trans (sameWiring_complete merger mode after)

end Topology

/-- An item of the same key as a listed one is found. -/
theorem exists_find?_key {α κ : Type} [DecidableEq κ] (key : α → κ) {items : List α} {item : α}
    (member : item ∈ items) :
    ∃ other, (items.find? fun other => key other = key item) = some other ∧
      other ∈ items ∧ key other = key item := by
  have present : (items.find? fun other => key other = key item).isSome := by
    rw [List.find?_isSome]
    exact ⟨item, member, by simp⟩
  obtain ⟨other, found⟩ := Option.isSome_iff_exists.mp present
  exact ⟨other, found, List.mem_of_find?_eq_some found, by simpa using List.find?_some found⟩

namespace Snapshot

variable {snapshot : Snapshot} {edge : Edge} {source target id : ResourceId} {resource : Resource}

theorem reachable_graph (snapshot : Snapshot) : snapshot.graph.Reachable :=
  (Topology.Reachable.empty.insertAll _).declareAll _

theorem unresolved_graph (snapshot : Snapshot) : snapshot.graph.Unresolved := by
  rw [graph_eq]
  exact ⟨rfl, rfl, rfl⟩

theorem policies_graph (snapshot : Snapshot) : snapshot.graph.policies = .empty := by
  rw [graph_eq]
  rfl

theorem attached_graph (snapshot : Snapshot) : snapshot.graph.attached = .empty := by
  rw [graph_eq]
  rfl

/-- The resources of each kind have distinct identities. -/
structure DistinctResources (snapshot : Snapshot) : Prop where
  gatewayClasses : (snapshot.gatewayClasses.map GatewayClass.id).Nodup
  nameSpaces : (snapshot.nameSpaces.map Namespace.id).Nodup
  gateways : (snapshot.gateways.map Gateway.id).Nodup
  httpRoutes : (snapshot.httpRoutes.map HttpRoute.id).Nodup
  backends : (snapshot.backends.map Backend.id).Nodup
  referenceGrants : (snapshot.referenceGrants.map ReferenceGrant.id).Nodup

theorem nodup_append_of_nodeKind {ids more : List ResourceId} (kind : NodeKind) (h : ids.Nodup)
    (h' : more.Nodup) (others : ∀ id ∈ ids, id.nodeKind ≠ kind)
    (ofKind : ∀ id ∈ more, id.nodeKind = kind) : (ids ++ more).Nodup := by
  refine List.nodup_append.mpr ⟨h, h', ?_⟩
  rintro id member _ member' rfl
  exact others id member (ofKind id member')

/-- Resources of different kinds have different identities. -/
theorem DistinctResources.nodup (h : snapshot.DistinctResources) :
    (snapshot.resources.map Resource.id).Nodup := by
  simp only [resources, List.map_append, List.map_map]
  refine nodup_append_of_nodeKind .referenceGrant (nodup_append_of_nodeKind .backend
    (nodup_append_of_nodeKind .httpRoute (nodup_append_of_nodeKind .gateway
      (nodup_append_of_nodeKind .nameSpace h.gatewayClasses h.nameSpaces ?_ ?_)
      h.gateways ?_ ?_) h.httpRoutes ?_ ?_) h.backends ?_ ?_) h.referenceGrants ?_ ?_
  all_goals
    simp [or_imp, forall_and, Resource.id, GatewayClass.id, Namespace.id, Gateway.id, HttpRoute.id,
      Backend.id, ReferenceGrant.id, ResourceId.gatewayClass, ResourceId.ofNamespace,
      ResourceId.gateway, ResourceId.httpRoute, ResourceId.backend, ResourceId.referenceGrant]

theorem DistinctResources.eq_of_id (h : snapshot.DistinctResources) {first second : Resource}
    (member : first ∈ snapshot.resources) (member' : second ∈ snapshot.resources)
    (same : first.id = second.id) : first = second :=
  List.inj_on_of_nodup_map h.nodup member member' same

theorem DistinctResources.get?_nodes_iff (h : snapshot.DistinctResources) :
    snapshot.graph.nodes.get? id = some resource ↔
      resource ∈ snapshot.resources ∧ resource.id = id := by
  rw [get?_nodes_graph]
  constructor
  · intro found
    exact ⟨List.mem_of_find?_eq_some found, by simpa using List.find?_some found⟩
  · rintro ⟨member, rfl⟩
    obtain ⟨other, found, listed, same⟩ := exists_find?_key Resource.id member
    rw [found, h.eq_of_id listed member same]

/-- The declared edges are those that the nodes' own resources declare. -/
theorem DistinctResources.declared_iff (h : snapshot.DistinctResources) :
    .edge edge source target ∈ snapshot.declarations ↔
      ∃ resource, snapshot.graph.nodes.get? source = some resource ∧
        .edge edge source target ∈ declaredBy snapshot.backends resource := by
  rw [declarations_eq, List.mem_flatMap]
  constructor
  · rintro ⟨resource, member, declared⟩
    exact ⟨resource, h.get?_nodes_iff.mpr ⟨member, (ends_of_declared declared).1.symm⟩, declared⟩
  · rintro ⟨resource, stored, declared⟩
    exact ⟨resource, (h.get?_nodes_iff.mp stored).1, declared⟩

theorem DistinctResources.oneTarget (h : snapshot.DistinctResources)
    (single : edge.isSingle = true) : Link.OneTarget snapshot.links edge := by
  intro source first second linked linked'
  obtain ⟨resource, stored, declared⟩ := h.declared_iff.mp (mem_links_iff.mp linked).1
  obtain ⟨resource', stored', declared'⟩ := h.declared_iff.mp (mem_links_iff.mp linked').1
  cases stored.symm.trans stored'
  exact target_of_declared single declared declared'

/-- A node has the edges that its own resource declares to nodes that are there. -/
theorem DistinctResources.mem_targets_iff (h : snapshot.DistinctResources) :
    target ∈ snapshot.graph.targets edge source ↔
      .edge edge source target ∈ snapshot.declarations ∧
        snapshot.graph.nodes.contains target = true := by
  rw [← mem_links_iff]
  exact snapshot.hasLinks_graph.mem_targets_of_oneTarget h.oneTarget

theorem mem_sources_iff :
    source ∈ snapshot.graph.sources edge target ↔
      .edge edge source target ∈ snapshot.declarations ∧
        snapshot.graph.nodes.contains target = true := by
  rw [← mem_links_iff]
  exact snapshot.hasLinks_graph.mem_sources

end Snapshot

end PolicyTopology
