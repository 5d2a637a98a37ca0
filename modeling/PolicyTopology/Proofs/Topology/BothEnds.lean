import PolicyTopology.Proofs.Topology.Edges
import PolicyTopology.Proofs.Topology.Reachable

/-!
# Edges under any operations

Only connections touch edges and only insertions touch nodes, whatever else is done in between. So
the edges of a topology are the links of its connections, and the nodes at their ends are those that
were there when the connections were made. Every edge is known at its target, and the edges that
sources collect are known at both ends. A source of which an edge took the place of another is still
known at the former target.
-/

namespace PolicyTopology

namespace Operation

def link? (topology : Topology) : Operation → Option Link
  | .connect edge source target => topology.link? edge source target
  | _ => none

def links (topology : Topology) : List Operation → List Link
  | [] => []
  | operation :: rest => (operation.link? topology).toList ++ links (operation.apply topology) rest

end Operation

namespace Topology

variable {topology : Topology} {links : List Link} {id : ResourceId} {resource : Resource}

theorem HasLinks.apply (h : HasLinks topology links) (operation : Operation) :
    HasLinks (operation.apply topology) (links ++ (operation.link? topology).toList) := by
  have unlinked : ∀ {after}, SameWiring topology after → HasLinks after (links ++ []) :=
    fun same => h.unlinked same.outgoing same.incoming
  cases operation with
  | connect edge source target => exact h.connect edge source target
  | insert resource => exact h.unlinked rfl rfl
  | note event => exact unlinked (.record topology [event])
  | attach policy => exact unlinked (.attach policy topology)
  | attachAll policies => exact unlinked (.attachAll policies topology)
  | resolve merger mode => exact unlinked (.resolve merger mode topology)
  | inherit => exact unlinked (.inherit topology)

theorem HasLinks.applyAll (h : HasLinks topology links) (operations : List Operation) :
    HasLinks (operations.foldl Operation.apply topology)
      (links ++ Operation.links topology operations) := by
  induction operations generalizing topology links with
  | nil => simpa [Operation.links] using h
  | cons operation rest ih =>
      rw [Operation.links, ← List.append_assoc]
      exact ih (h.apply operation)

theorem Reachable.exists_links (h : Reachable topology) : ∃ links, HasLinks topology links := by
  induction h with
  | empty => exact ⟨[], .empty⟩
  | apply operation _ ih =>
      obtain ⟨links, linked⟩ := ih
      exact ⟨_, linked.apply operation⟩

theorem nodes_connect (topology : Topology) (edge : Edge) (source target : ResourceId) :
    (topology.connect edge source target).nodes = topology.nodes := by
  unfold connect
  split
  · rfl
  · split <;> rfl

/-- An operation may add a node, but it replaces none. -/
theorem nodes_apply (operation : Operation) (topology : Topology) :
    (operation.apply topology).nodes = topology.nodes ∨
      ∃ resource, (operation.apply topology).nodes =
        topology.nodes.insertNew resource.id resource := by
  cases operation with
  | insert resource => exact .inr ⟨resource, rfl⟩
  | connect edge source target => exact .inl (topology.nodes_connect edge source target)
  | note event => exact .inl rfl
  | attach policy => exact .inl (SameWiring.attach policy topology).nodes
  | attachAll policies => exact .inl (SameWiring.attachAll policies topology).nodes
  | resolve merger mode => exact .inl (SameWiring.resolve merger mode topology).nodes
  | inherit => exact .inl (SameWiring.inherit topology).nodes

theorem get?_nodes_apply (operation : Operation) (h : topology.nodes.get? id = some resource) :
    (operation.apply topology).nodes.get? id = some resource := by
  rcases nodes_apply operation topology with same | ⟨inserted, added⟩
  · rw [same, h]
  · rw [added, Table.get?_insertNew]
    split
    · next here => rw [here, h, Option.getD_some]
    · exact h

/-- The node of an identity stays the one that came first. -/
theorem get?_nodes_applyAll (operations : List Operation)
    (h : topology.nodes.get? id = some resource) :
    (operations.foldl Operation.apply topology).nodes.get? id = some resource := by
  induction operations generalizing topology with
  | nil => exact h
  | cons operation rest ih => exact ih (get?_nodes_apply operation h)

/-- Every node is filed under its own identity. -/
theorem Reachable.filed (h : Reachable topology) (stored : topology.nodes.get? id = some resource) :
    resource.id = id := by
  induction h generalizing id resource with
  | empty => cases stored
  | @apply before operation _ ih =>
      rcases nodes_apply operation before with same | ⟨inserted, added⟩
      · exact ih (same ▸ stored)
      · rw [added, Table.get?_insertNew] at stored
        split at stored
        · next here =>
          subst here
          cases found : before.nodes.get? inserted.id with
          | none =>
              rw [found] at stored
              cases stored
              rfl
          | some first =>
              rw [found] at stored
              cases stored
              exact ih found
        · exact ih stored

/-- Whether a node of a kind is there and is filed under its own identity. -/
def HasFiled (topology : Topology) (kind : NodeKind) (id : ResourceId) : Prop :=
  id.nodeKind = kind ∧ ∃ resource, topology.nodes.get? id = some resource ∧ resource.id = id

theorem Reachable.hasFiled (h : Reachable topology) {kind : NodeKind}
    (node : topology.hasNode kind id = true) : topology.HasFiled kind id := by
  simp only [hasNode, Bool.and_eq_true, decide_eq_true_eq, Table.contains_eq_isSome,
    Option.isSome_iff_exists] at node
  obtain ⟨ofKind, resource, stored⟩ := node
  exact ⟨ofKind, resource, stored, h.filed stored⟩

end Topology

/-- How far the ends of the edges agree after some operations on the empty topology. -/
structure EndsAgree (operations : List Operation) (final : Topology) : Prop where
  /-- Every edge is known at its target. -/
  known : ∀ {edge source target}, target ∈ final.targets edge source →
    source ∈ final.sources edge target
  /-- The edges that sources collect are known at both ends. -/
  collected : ∀ {edge : Edge}, edge.isSingle = false → final.BothEnds edge
  /-- Of other edges a source has at most one. -/
  single : ∀ {edge : Edge}, edge.isSingle = true → ∀ {source target},
    target ∈ final.targets edge source ↔ final.target? edge source = some target
  /-- Those are known at both ends exactly if no source was connected to two targets. -/
  single_iff : ∀ {edge : Edge}, edge.isSingle = true →
    (final.BothEnds edge ↔ Link.OneTarget (Operation.links .empty operations) edge)
  /-- At both ends stand nodes of the kinds that the edge is for. -/
  ends : ∀ {edge source target}, source ∈ final.sources edge target →
    final.HasFiled edge.sourceKind source ∧ final.HasFiled edge.targetKind target
  /-- A node that was there at any time is there at the end. -/
  lasting : ∀ {earlier later}, operations = earlier ++ later → ∀ {id resource},
    (earlier.foldl Operation.apply .empty).nodes.get? id = some resource →
    final.nodes.get? id = some resource

namespace Topology

/-- After any operations every edge is known at its target, and both ends agree on an edge unless
its source was connected to two targets by edges of which it has one at most. -/
theorem applyAll_ends_agree (operations : List Operation) :
    EndsAgree operations (operations.foldl Operation.apply .empty) := by
  have reachable := Reachable.empty.applyAll operations
  have linked : HasLinks (operations.foldl Operation.apply .empty)
      (Operation.links .empty operations) := HasLinks.empty.applyAll operations
  exact {
    known := fun member => linked.mem_sources.mpr (linked.link_of_mem_targets member)
    collected := fun collects => linked.bothEnds_of_oneTarget fun single =>
      nomatch collects.symm.trans single
    single := fun single _ _ => linked.mem_targets_iff_of_single single
    single_iff := linked.bothEnds_iff
    ends := fun member =>
      have nodes := reachable.coherent.incoming_ends member
      ⟨reachable.hasFiled nodes.1, reachable.hasFiled nodes.2⟩
    lasting := by
      rintro earlier later rfl id resource stored
      rw [List.foldl_append]
      exact get?_nodes_applyAll later stored }

def movedGateway : List Operation :=
  [.insert (.gatewayClass ⟨"c1", ""⟩), .insert (.gatewayClass ⟨"c2", ""⟩),
    .insert (.gateway ⟨"n", "g", "c1"⟩),
    .connect .gatewayClass (.gateway "n" "g") (.gatewayClass "c1"),
    .connect .gatewayClass (.gateway "n" "g") (.gatewayClass "c2")]

/-- The gateway has the second class, and the first one still has the gateway. -/
theorem movedGateway_stays_known :
    (movedGateway.foldl Operation.apply .empty).target? .gatewayClass (.gateway "n" "g") =
        some (.gatewayClass "c2") ∧
      ResourceId.gateway "n" "g" ∈
        (movedGateway.foldl Operation.apply .empty).sources .gatewayClass (.gatewayClass "c1") ∧
      ¬ (movedGateway.foldl Operation.apply .empty).BothEnds .gatewayClass := by
  have second : (movedGateway.foldl Operation.apply .empty).targets .gatewayClass
      (.gateway "n" "g") = [.gatewayClass "c2"] := by decide
  have known : ResourceId.gateway "n" "g" ∈
      (movedGateway.foldl Operation.apply .empty).sources .gatewayClass (.gatewayClass "c1") := by
    decide
  refine ⟨by decide, known, fun agree => ?_⟩
  have first := (agree _ _).mpr known
  rw [second] at first
  exact absurd first (by decide)

end Topology

end PolicyTopology
