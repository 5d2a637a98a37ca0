import PolicyTopology.Proofs.Topology.Edges
import PolicyTopology.Snapshot

/-!
# The graph of a snapshot

A build first inserts the resources of a snapshot and then connects what they declare. Of several
resources of one identity the first is inserted, but the declarations of all of them are followed.
This module says what the two steps leave behind: which nodes there are, which links were made and
what was left out.
-/

namespace PolicyTopology

namespace Topology

variable {topology before middle after : Topology} {edge : Edge} {source target id : ResourceId}

theorem insertAll_eq (resources : List Resource) (topology : Topology) :
    topology.insertAll resources =
      { topology with
        nodes := resources.foldl (fun nodes resource => nodes.insertNew resource.id resource)
          topology.nodes } := by
  unfold insertAll
  induction resources generalizing topology with
  | nil => rfl
  | cons resource rest ih => exact ih (topology.insert resource)

/-- Insertion keeps the node that was there, and otherwise the first resource of its identity. -/
theorem get?_nodes_insertAll (resources : List Resource) (topology : Topology) (id : ResourceId) :
    (topology.insertAll resources).nodes.get? id =
      (topology.nodes.get? id).or (resources.find? fun resource => resource.id = id) := by
  unfold insertAll
  induction resources generalizing topology with
  | nil => simp
  | cons resource rest ih =>
      rw [List.foldl_cons, ih, insert, Table.get?_insertNew, List.find?_cons]
      by_cases here : resource.id = id
      · subst here
        cases topology.nodes.get? resource.id <;> simp
      · simp [here]

def refusal? (topology : Topology) (edge : Edge) (source target : ResourceId) :
    Option Diagnostic :=
  if !topology.hasNode edge.sourceKind source then some (.missingEndpoint edge source source)
  else if !topology.hasNode edge.targetKind target then some (.missingEndpoint edge source target)
  else none

theorem connect_of_refusal {diagnostic : Diagnostic}
    (h : topology.refusal? edge source target = some diagnostic) :
    topology.connect edge source target = topology.leaveOut diagnostic := by
  unfold refusal? at h
  unfold connect
  split at h
  · next missing =>
    cases h
    rw [if_pos missing]
  · next present =>
    rw [if_neg present]
    split at h
    · next missing =>
      cases h
      rw [if_pos missing]
    · cases h

theorem connect_of_sound (h : topology.refusal? edge source target = none) :
    topology.connect edge source target = topology.link edge source target := by
  unfold refusal? at h
  unfold connect
  split at h
  · cases h
  · next present =>
    rw [if_neg present]
    split at h
    · cases h
    · next present' => rw [if_neg present']

end Topology

namespace Declaration

variable {before after : Topology}

def link? (topology : Topology) : Declaration → Option Link
  | .edge kind source target => topology.link? kind source target
  | .foreignParent _ _ => none

def diagnostic? (topology : Topology) : Declaration → Option Diagnostic
  | .edge kind source target => topology.refusal? kind source target
  | .foreignParent _ _ => none

def event? (topology : Topology) : Declaration → Option Event
  | .edge kind source target => (topology.refusal? kind source target).map .omitted
  | .foreignParent route kind => some (.parentIgnored route kind)

/-- Following a declaration depends on which nodes there are. -/
theorem hasNode_congr (nodes : ∀ id, after.nodes.get? id = before.nodes.get? id) :
    after.hasNode = before.hasNode := by
  funext kind id
  rw [Topology.hasNode, Topology.hasNode, Table.contains_eq_isSome, Table.contains_eq_isSome, nodes]

theorem link?_congr (nodes : ∀ id, after.nodes.get? id = before.nodes.get? id) :
    link? after = link? before := by
  funext declaration
  cases declaration with
  | edge kind source target =>
      simp only [link?, Topology.link?, hasNode_congr nodes]
  | foreignParent route kind => rfl

theorem diagnostic?_congr (nodes : ∀ id, after.nodes.get? id = before.nodes.get? id) :
    diagnostic? after = diagnostic? before := by
  funext declaration
  cases declaration with
  | edge kind source target =>
      simp only [diagnostic?, Topology.refusal?, hasNode_congr nodes]
  | foreignParent route kind => rfl

theorem event?_congr (nodes : ∀ id, after.nodes.get? id = before.nodes.get? id) :
    event? after = event? before := by
  funext declaration
  cases declaration with
  | edge kind source target =>
      simp only [event?, Topology.refusal?, hasNode_congr nodes]
  | foreignParent route kind => rfl

end Declaration

namespace Topology

variable {topology before middle after : Topology} {declarations more : List Declaration}

/-- What following some declarations leads to: the links that can be made are made, the others are
left out, and nothing else changes. -/
structure Declares (declarations : List Declaration) (before after : Topology) : Prop where
  links : ∀ {links}, before.HasLinks links →
    after.HasLinks (links ++ declarations.filterMap (Declaration.link? before))
  rest : after = { before with
    outgoing := after.outgoing
    incoming := after.incoming
    diagnostics := before.diagnostics ++ declarations.filterMap (Declaration.diagnostic? before)
    journal := before.journal ++ declarations.filterMap (Declaration.event? before) }

namespace Declares

theorem nodes (h : Declares declarations before after) (id : ResourceId) :
    after.nodes.get? id = before.nodes.get? id := by
  rw [h.rest]

theorem nil (topology : Topology) : Declares [] topology topology where
  links linked := linked.unlinked rfl rfl
  rest := by simp

theorem append (h : Declares declarations before middle) (h' : Declares more middle after) :
    Declares (declarations ++ more) before after where
  links linked := by
    rw [List.filterMap_append, ← List.append_assoc, ← Declaration.link?_congr h.nodes]
    exact h'.links (Declaration.link?_congr h.nodes ▸ h.links linked)
  rest := by
    have rest := h'.rest
    rw [Declaration.diagnostic?_congr h.nodes, Declaration.event?_congr h.nodes, h.rest] at rest
    simpa [List.filterMap_append, List.append_assoc] using rest

theorem one (declaration : Declaration) (topology : Topology) :
    Declares [declaration] topology (topology.declare declaration) := by
  cases declaration with
  | foreignParent route kind =>
      exact ⟨fun linked => linked.unlinked rfl rfl, by
        simp [declare, record, Declaration.diagnostic?, Declaration.event?]⟩
  | edge edge source target =>
      constructor
      · intro links linked
        have made := linked.connect edge source target
        cases link : topology.link? edge source target <;>
          simpa [declare, Declaration.link?, link] using made
      · cases refusal : topology.refusal? edge source target with
        | some diagnostic =>
            simp [declare, connect_of_refusal refusal, Declaration.diagnostic?,
              Declaration.event?, refusal, leaveOut]
        | none =>
            simp [declare, connect_of_sound refusal, Declaration.diagnostic?,
              Declaration.event?, refusal, link]

theorem all (declarations : List Declaration) (topology : Topology) :
    Declares declarations topology (declarations.foldl declare topology) := by
  induction declarations generalizing topology with
  | nil => exact nil topology
  | cons declaration rest ih => exact (one declaration topology).append (ih _)

end Declares

end Topology

namespace Snapshot

variable {snapshot : Snapshot} {backends others : List Backend} {resource : Resource} {edge : Edge}
  {source target other : ResourceId}

/-- What a resource declares about its neighbours; a grant covers some of the given backends. -/
def declaredBy (backends : List Backend) : Resource → List Declaration
  | .gatewayClass _ | .nameSpace _ => []
  | .gateway gateway => ofGateway gateway
  | .httpRoute route => ofRoute route
  | .backend backend => ofBackend backend
  | .referenceGrant grant => ofGrant backends grant

theorem declarations_eq (snapshot : Snapshot) :
    snapshot.declarations = snapshot.resources.flatMap (declaredBy snapshot.backends) := by
  have nothing : ∀ {α : Type} (items : List α),
      items.flatMap (fun _ => ([] : List Declaration)) = [] := fun _ =>
    List.flatMap_eq_nil_iff.mpr fun _ _ => rfl
  simp [declarations, resources, List.flatMap_append, List.flatMap_map, declaredBy, nothing]

theorem mem_ofRoute {route : HttpRoute} :
    .edge edge source target ∈ ofRoute route ↔ source = route.id ∧
      (edge = .routeNameSpace ∧ target = .ofNamespace route.nameSpace ∨
        edge = .routeGateway ∧ (∃ parent ∈ route.parentRefs, parent.isGateway = true ∧
          target = .gateway parent.nameSpace parent.name) ∨
        edge = .routeBackend ∧ ∃ reference ∈ route.backendRefs, target = reference.backendId) := by
  have parents : ∀ parent : ObjectRef,
      (if parent.isGateway then
        Declaration.edge .routeGateway route.id (.gateway parent.nameSpace parent.name)
      else .foreignParent route.id parent.kind) = .edge edge source target ↔
        parent.isGateway = true ∧ edge = .routeGateway ∧ source = route.id ∧
          target = .gateway parent.nameSpace parent.name := by
    intro parent
    by_cases gateway : parent.isGateway = true
    · simp only [gateway, if_true, Declaration.edge.injEq, true_and]
      grind
    · simp [gateway]
  simp only [ofRoute, List.mem_append, List.mem_cons, List.mem_map, parents,
    Declaration.edge.injEq]
  grind

/-- An edge is declared by its source, and its ends are of the kinds that it is for. -/
theorem ends_of_declared (h : .edge edge source target ∈ declaredBy backends resource) :
    source = resource.id ∧ source.nodeKind = edge.sourceKind ∧
      target.nodeKind = edge.targetKind := by
  cases resource with
  | gatewayClass resource => cases h
  | nameSpace resource => cases h
  | gateway gateway =>
      simp only [declaredBy, ofGateway, List.mem_cons, Declaration.edge.injEq, List.not_mem_nil,
        or_false] at h
      rcases h with ⟨rfl, rfl, rfl⟩ | ⟨rfl, rfl, rfl⟩ <;> exact ⟨rfl, rfl, rfl⟩
  | httpRoute route =>
      obtain ⟨rfl, ⟨rfl, rfl⟩ | ⟨rfl, parent, _, _, rfl⟩ | ⟨rfl, reference, _, rfl⟩⟩ :=
        mem_ofRoute.mp h <;> exact ⟨rfl, rfl, rfl⟩
  | backend backend =>
      simp only [declaredBy, ofBackend, List.mem_singleton, Declaration.edge.injEq] at h
      obtain ⟨rfl, rfl, rfl⟩ := h
      exact ⟨rfl, rfl, rfl⟩
  | referenceGrant grant =>
      simp only [declaredBy, ofGrant, List.mem_map, Declaration.edge.injEq] at h
      obtain ⟨backend, _, rfl, rfl, rfl⟩ := h
      exact ⟨rfl, rfl, rfl⟩

/-- A resource declares one edge of a kind of which it has one at most. -/
theorem target_of_declared (single : edge.isSingle = true)
    (h : .edge edge source target ∈ declaredBy backends resource)
    (h' : .edge edge source other ∈ declaredBy others resource) : target = other := by
  cases resource with
  | gatewayClass resource => cases h
  | nameSpace resource => cases h
  | gateway gateway =>
      simp only [declaredBy, ofGateway, List.mem_cons, Declaration.edge.injEq, List.not_mem_nil,
        or_false] at h h'
      rcases h with ⟨rfl, _, rfl⟩ | ⟨rfl, _, rfl⟩ <;>
        rcases h' with ⟨same, _, rfl⟩ | ⟨same, _, rfl⟩ <;> first | rfl | cases same
  | httpRoute route =>
      obtain ⟨_, ⟨rfl, rfl⟩ | ⟨rfl, _⟩ | ⟨rfl, _⟩⟩ := mem_ofRoute.mp h
      · obtain ⟨_, ⟨_, rfl⟩ | ⟨same, _⟩ | ⟨same, _⟩⟩ := mem_ofRoute.mp h' <;>
          first | rfl | cases same
      · cases single
      · cases single
  | backend backend =>
      simp only [declaredBy, ofBackend, List.mem_singleton, Declaration.edge.injEq] at h h'
      rw [h.2.2, h'.2.2]
  | referenceGrant grant =>
      simp only [declaredBy, ofGrant, List.mem_map, Declaration.edge.injEq] at h
      obtain ⟨_, _, rfl, _⟩ := h
      cases single

/-- The topology of the resources of a snapshot with the edges that they declare. -/
def graph (snapshot : Snapshot) : Topology :=
  snapshot.declarations.foldl Topology.declare (Topology.empty.insertAll snapshot.resources)

def links (snapshot : Snapshot) : List Link :=
  snapshot.declarations.filterMap (Declaration.link? snapshot.graph)

theorem graph_declares (snapshot : Snapshot) :
    Topology.Declares snapshot.declarations (Topology.empty.insertAll snapshot.resources)
      snapshot.graph :=
  .all _ _

/-- Of several resources of one identity the first becomes the node. -/
theorem get?_nodes_graph (snapshot : Snapshot) (id : ResourceId) :
    snapshot.graph.nodes.get? id = snapshot.resources.find? fun resource => resource.id = id := by
  rw [snapshot.graph_declares.nodes, Topology.get?_nodes_insertAll]
  rfl

theorem hasLinks_graph (snapshot : Snapshot) : snapshot.graph.HasLinks snapshot.links := by
  have inserted : (Topology.empty.insertAll snapshot.resources).HasLinks [] := by
    rw [Topology.insertAll_eq]
    exact Topology.HasLinks.empty.congr rfl rfl
  unfold links
  rw [Declaration.link?_congr snapshot.graph_declares.nodes]
  exact snapshot.graph_declares.links inserted

/-- Besides nodes and edges the graph holds only what was left out. -/
theorem graph_eq (snapshot : Snapshot) :
    snapshot.graph = { Topology.empty with
      nodes := snapshot.graph.nodes
      outgoing := snapshot.graph.outgoing
      incoming := snapshot.graph.incoming
      diagnostics := snapshot.declarations.filterMap (Declaration.diagnostic? snapshot.graph)
      journal := snapshot.declarations.filterMap (Declaration.event? snapshot.graph) } := by
  have rest := snapshot.graph_declares.rest
  rw [← Declaration.diagnostic?_congr snapshot.graph_declares.nodes,
    ← Declaration.event?_congr snapshot.graph_declares.nodes] at rest
  rw [Topology.insertAll_eq] at rest
  have nodes := congrArg Topology.nodes rest
  dsimp only at nodes
  rw [← nodes] at rest
  exact rest

theorem contains_graph_iff :
    snapshot.graph.nodes.contains target = true ↔
      ∃ resource ∈ snapshot.resources, resource.id = target := by
  rw [Table.contains_eq_isSome, get?_nodes_graph, List.find?_isSome]
  simp only [decide_eq_true_eq]

/-- A link is made for every declared edge whose target is there; the source always is. -/
theorem mem_links_iff :
    ⟨edge, source, target⟩ ∈ snapshot.links ↔ .edge edge source target ∈ snapshot.declarations ∧
      snapshot.graph.nodes.contains target = true := by
  unfold links
  rw [List.mem_filterMap]
  constructor
  · rintro ⟨declaration, member, made⟩
    cases declaration with
    | foreignParent route kind => cases made
    | edge edge' source' target' =>
        simp only [Declaration.link?, Topology.link?, Topology.hasNode,
          Option.ite_none_right_eq_some, Bool.and_eq_true] at made
        obtain ⟨⟨_, _, present⟩, made⟩ := made
        cases made
        exact ⟨member, present⟩
  · rintro ⟨member, present⟩
    refine ⟨_, member, ?_⟩
    rw [declarations_eq, List.mem_flatMap] at member
    obtain ⟨resource, listed, declared⟩ := member
    obtain ⟨rfl, sourceKind, targetKind⟩ := ends_of_declared declared
    have source : snapshot.graph.nodes.contains resource.id = true :=
      contains_graph_iff.mpr ⟨resource, listed, rfl⟩
    simp [Declaration.link?, Topology.link?, Topology.hasNode, sourceKind, targetKind, source,
      present]

end Snapshot

end PolicyTopology
