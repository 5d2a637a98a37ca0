import PolicyTopology.Proofs.Topology.Build

/-!
# Several resources of one identity

Of several resources of one identity the first becomes the node, but a build follows what all of
them declare. It therefore comes to the edges of the first resources exactly if the later ones
declare no others between nodes that are there; then it also comes to the same policies. Which nodes
there are and which policies are attached to them never depends on later resources.
-/

namespace PolicyTopology

section Firsts

variable {α κ : Type} [DecidableEq κ] (key : α → κ)

def firstsOf : List α → List α
  | [] => []
  | item :: rest => item :: (firstsOf rest).filter fun other => key other ≠ key item

theorem firstsOf_sublist (items : List α) : (firstsOf key items).Sublist items := by
  induction items with
  | nil => exact .slnil
  | cons item rest ih => exact (List.filter_sublist.trans ih).cons_cons item

theorem nodup_firstsOf (items : List α) : ((firstsOf key items).map key).Nodup := by
  induction items with
  | nil => exact List.nodup_nil
  | cons item rest ih =>
      rw [firstsOf, List.map_cons, List.nodup_cons]
      refine ⟨fun member => ?_, ih.sublist (List.filter_sublist.map key)⟩
      obtain ⟨other, listed, same⟩ := List.mem_map.mp member
      exact absurd same (by simpa using (List.mem_filter.mp listed).2)

/-- The first item of a key is found as before. -/
theorem find?_firstsOf (items : List α) (wanted : κ) :
    ((firstsOf key items).find? fun item => key item = wanted) =
      items.find? fun item => key item = wanted := by
  induction items with
  | nil => rfl
  | cons item rest ih =>
      rw [firstsOf, List.find?_cons, List.find?_cons, List.find?_filter]
      by_cases here : key item = wanted
      · simp [here]
      · have kept : (fun other => (decide (key other ≠ key item) && decide (key other = wanted))) =
            fun other => decide (key other = wanted) := by
          funext other
          by_cases found : key other = wanted
          · simp [found, Ne.symm here]
          · simp [found]
        simp only [here, decide_false]
        rw [← ih]
        simpa using congrArg (fun wanted => (firstsOf key rest).find? wanted) kept

theorem mem_firstsOf_of_injective {key : α → κ} (injective : ∀ {x y}, key x = key y → x = y)
    {items : List α} {item : α} : item ∈ firstsOf key items ↔ item ∈ items := by
  refine ⟨fun member => (firstsOf_sublist key items).subset member, fun member => ?_⟩
  obtain ⟨other, found, _, same⟩ := exists_find?_key key member
  rw [← find?_firstsOf] at found
  exact injective same ▸ List.mem_of_find?_eq_some found

end Firsts

theorem Backend.id_injective {first second : Backend} (h : first.id = second.id) :
    first = second := by
  obtain ⟨_, _, _, _⟩ := first
  obtain ⟨_, _, _, _⟩ := second
  simp only [Backend.id, ResourceId.backend, ResourceId.mk.injEq] at h
  simp [h]

namespace Snapshot

variable {snapshot : Snapshot} {backends others : List Backend} {resource : Resource}
  {declaration : Declaration} {edge : Edge} {source target : ResourceId}

/-- The snapshot without the later resources of an identity that was there before. -/
def firsts (snapshot : Snapshot) : Snapshot where
  gatewayClasses := firstsOf GatewayClass.id snapshot.gatewayClasses
  nameSpaces := firstsOf Namespace.id snapshot.nameSpaces
  gateways := firstsOf Gateway.id snapshot.gateways
  httpRoutes := firstsOf HttpRoute.id snapshot.httpRoutes
  backends := firstsOf Backend.id snapshot.backends
  referenceGrants := firstsOf ReferenceGrant.id snapshot.referenceGrants
  policies := snapshot.policies

/-- Later resources declare no edge between nodes that the first of their identity does not. -/
def Redundant (snapshot : Snapshot) : Prop :=
  ∀ edge source target, .edge edge source target ∈ snapshot.declarations →
    (∃ resource ∈ snapshot.resources, resource.id = target) →
    .edge edge source target ∈ snapshot.firsts.declarations

theorem distinctResources_firsts (snapshot : Snapshot) : snapshot.firsts.DistinctResources where
  gatewayClasses := nodup_firstsOf ..
  nameSpaces := nodup_firstsOf ..
  gateways := nodup_firstsOf ..
  httpRoutes := nodup_firstsOf ..
  backends := nodup_firstsOf ..
  referenceGrants := nodup_firstsOf ..

theorem find?_map_firstsOf {α : Type} (key : α → ResourceId) (wrap : α → Resource)
    (keys : ∀ item, (wrap item).id = key item) (items : List α) (id : ResourceId) :
    (((firstsOf key items).map wrap).find? fun resource => resource.id = id) =
      (items.map wrap).find? fun resource => resource.id = id := by
  have sameKey : (fun resource : Resource => decide (resource.id = id)) ∘ wrap =
      fun item => decide (key item = id) := by
    funext item
    simp [keys]
  rw [List.find?_map, List.find?_map, sameKey, find?_firstsOf]

/-- The node of an identity is the same without later resources. -/
theorem get?_nodes_firsts (snapshot : Snapshot) (id : ResourceId) :
    snapshot.firsts.graph.nodes.get? id = snapshot.graph.nodes.get? id := by
  rw [get?_nodes_graph, get?_nodes_graph]
  simp only [resources, firsts, List.find?_append]
  rw [find?_map_firstsOf GatewayClass.id .gatewayClass fun _ => rfl,
    find?_map_firstsOf Namespace.id .nameSpace fun _ => rfl,
    find?_map_firstsOf Gateway.id .gateway fun _ => rfl,
    find?_map_firstsOf HttpRoute.id .httpRoute fun _ => rfl,
    find?_map_firstsOf Backend.id .backend fun _ => rfl,
    find?_map_firstsOf ReferenceGrant.id .referenceGrant fun _ => rfl]

theorem contains_firsts (snapshot : Snapshot) (id : ResourceId) :
    snapshot.firsts.graph.nodes.contains id = snapshot.graph.nodes.contains id := by
  rw [Table.contains_eq_isSome, Table.contains_eq_isSome, get?_nodes_firsts]

theorem declaredBy_mono (h : ∀ backend ∈ backends, backend ∈ others)
    (declared : declaration ∈ declaredBy backends resource) :
    declaration ∈ declaredBy others resource := by
  cases resource with
  | referenceGrant grant =>
      simp only [declaredBy, ofGrant, List.mem_map, List.mem_filter] at declared ⊢
      obtain ⟨backend, ⟨member, covered⟩, rfl⟩ := declared
      exact ⟨backend, ⟨h backend member, covered⟩, rfl⟩
  | _ => exact declared

/-- A backend is determined by its identity, so grants cover the same ones. -/
theorem mem_declaredBy_firsts :
    declaration ∈ declaredBy snapshot.firsts.backends resource ↔
      declaration ∈ declaredBy snapshot.backends resource :=
  ⟨declaredBy_mono fun _ => (mem_firstsOf_of_injective Backend.id_injective).mp,
    declaredBy_mono fun _ => (mem_firstsOf_of_injective Backend.id_injective).mpr⟩

theorem resources_firsts_subset (member : resource ∈ snapshot.firsts.resources) :
    resource ∈ snapshot.resources := by
  have stored := snapshot.distinctResources_firsts.get?_nodes_iff.mpr ⟨member, rfl⟩
  rw [get?_nodes_firsts, get?_nodes_graph] at stored
  exact List.mem_of_find?_eq_some stored

theorem declarations_firsts_subset (declared : declaration ∈ snapshot.firsts.declarations) :
    declaration ∈ snapshot.declarations := by
  rw [declarations_eq, List.mem_flatMap] at declared ⊢
  obtain ⟨resource, member, declared⟩ := declared
  exact ⟨resource, resources_firsts_subset member, mem_declaredBy_firsts.mp declared⟩

theorem Redundant.mem_links_iff (h : snapshot.Redundant) (link : Link) :
    link ∈ snapshot.links ↔ link ∈ snapshot.firsts.links := by
  obtain ⟨edge, source, target⟩ := link
  rw [Snapshot.mem_links_iff, Snapshot.mem_links_iff, contains_firsts]
  constructor
  · rintro ⟨declared, present⟩
    exact ⟨h edge source target declared (contains_graph_iff.mp present), present⟩
  · rintro ⟨declared, present⟩
    exact ⟨declarations_firsts_subset declared, present⟩

/-- The graph has the edges of the first resources exactly if the later ones are redundant. -/
theorem sameEdges_firsts_iff :
    Topology.SameEdges snapshot.firsts.graph snapshot.graph ↔ snapshot.Redundant := by
  constructor
  · intro same edge source target declared present
    have known := mem_sources_iff.mpr ⟨declared, contains_graph_iff.mpr present⟩
    exact (mem_sources_iff.mp ((same.sources edge target).mem_iff.mp known)).1
  · intro redundant
    exact Topology.HasLinks.sameEdges snapshot.firsts.hasLinks_graph snapshot.hasLinks_graph
      redundant.mem_links_iff snapshot.distinctResources_firsts.oneTarget

/-- A resource declares an edge for the node that it has become, to a node that is there. -/
def OwnEdge (snapshot : Snapshot) (topology : Topology) (edge : Edge)
    (source target : ResourceId) : Prop :=
  ∃ resource, topology.nodes.get? source = some resource ∧
    .edge edge source target ∈ declaredBy snapshot.backends resource ∧
    topology.nodes.contains target = true

theorem Redundant.mem_links_iff_ownEdge (h : snapshot.Redundant) :
    ⟨edge, source, target⟩ ∈ snapshot.links ↔
      snapshot.OwnEdge snapshot.graph edge source target := by
  rw [h.mem_links_iff, Snapshot.mem_links_iff, snapshot.distinctResources_firsts.declared_iff]
  simp only [get?_nodes_firsts, contains_firsts, mem_declaredBy_firsts]
  constructor
  · rintro ⟨⟨resource, stored, declared⟩, present⟩
    exact ⟨resource, stored, declared, present⟩
  · rintro ⟨resource, stored, declared, present⟩
    exact ⟨⟨resource, stored, declared⟩, present⟩

theorem Redundant.oneTarget (h : snapshot.Redundant) (single : edge.isSingle = true) :
    Link.OneTarget snapshot.links edge := fun source first second linked linked' =>
  snapshot.distinctResources_firsts.oneTarget single source first second
    ((h.mem_links_iff _).mp linked) ((h.mem_links_iff _).mp linked')

end Snapshot

/-- How the end of a build compares to that of a build from the first resource of each identity. -/
structure FirstWins (snapshot : Snapshot)
    (all firsts : Except ResolutionError ResolutionReport × Topology) : Prop where
  /-- The first resource of an identity becomes the node. -/
  stored : ∀ id, all.2.nodes.get? id = snapshot.resources.find? fun resource => resource.id = id
  nodes : ∀ id, all.2.nodes.get? id = firsts.2.nodes.get? id
  /-- The edges are the same exactly if later resources declare none of their own. -/
  edges_iff : Topology.SameEdges firsts.2 all.2 ↔ snapshot.Redundant
  /-- Then everything else is the same as well. -/
  same : snapshot.Redundant → all.1 = firsts.1 ∧ Topology.Alike firsts.2 all.2
  /-- Then the edges, at both ends, are those that the nodes' own resources declare. -/
  own : snapshot.Redundant → ∀ {edge source target},
    (target ∈ all.2.targets edge source ↔ snapshot.OwnEdge all.2 edge source target) ∧
      (source ∈ all.2.sources edge target ↔ snapshot.OwnEdge all.2 edge source target)

namespace Topology

open Snapshot

/-- Without edges of their own, later resources make no difference to a build. -/
theorem build_of_redundant {snapshot : Snapshot} (redundant : snapshot.Redundant)
    (merger : PolicyMerger) (mode : ResolutionMode) :
    ∃ result after after', (build snapshot.firsts merger mode).run .empty = (result, after) ∧
      (build snapshot merger mode).run .empty = (result, after') ∧ Alike after after' := by
  have start : SameHolding snapshot.firsts.graph snapshot.graph :=
    ⟨fun id => (get?_nodes_firsts snapshot id).symm, by rw [policies_graph, policies_graph],
      by rw [attached_graph, attached_graph]⟩
  obtain ⟨same, holding⟩ := SameHolding.attachAll snapshot.policies _ _ start
  have wiring := SameWiring.attachAll snapshot.policies snapshot.firsts.graph
  have wiring' := SameWiring.attachAll snapshot.policies snapshot.graph
  have unresolved := Unresolved.survivesAttachment.attachAll snapshot.policies _
    (unresolved_graph snapshot.firsts)
  have unresolved' := Unresolved.survivesAttachment.attachAll snapshot.policies _
    (unresolved_graph snapshot)
  have coherent := Coherent.attachAll snapshot.policies _ (reachable_graph snapshot.firsts).coherent
  have coherent' := Coherent.attachAll snapshot.policies _ (reachable_graph snapshot).coherent
  rw [run_build, run_build, show snapshot.firsts.policies = snapshot.policies from rfl]
  generalize (attachAll snapshot.policies).run snapshot.firsts.graph = run at *
  generalize (attachAll snapshot.policies).run snapshot.graph = run' at *
  obtain ⟨result, after⟩ := run
  obtain ⟨_, after'⟩ := run'
  cases same
  have alike : Alike after after' :=
    alike_of_unresolved (wiring.hasLinks (hasLinks_graph _)) (wiring'.hasLinks (hasLinks_graph _))
      holding.nodes ((sameEdges_congr wiring wiring').mpr (sameEdges_firsts_iff.mpr redundant))
      (fun id => by rw [holding.policies]) (fun target => .of_eq (holding.policyIdsOn target))
      unresolved unresolved'
  cases result with
  | error error => exact ⟨_, _, _, rfl, rfl, alike⟩
  | ok _ =>
      exact complete_of_alike alike (fun target => by rw [holding.policiesOn]) coherent coherent'
        mode

/-- A build comes to what the first resource of each identity declares exactly if the later ones
declare no edges of their own. -/
theorem build_first_wins (snapshot : Snapshot) (merger : PolicyMerger) (mode : ResolutionMode) :
    FirstWins snapshot ((build snapshot merger mode).run .empty)
      ((build snapshot.firsts merger mode).run .empty) := by
  have wiring := sameWiring_build snapshot merger mode
  have wiring' := sameWiring_build snapshot.firsts merger mode
  exact {
    stored := fun id => by rw [wiring.nodes, get?_nodes_graph]
    nodes := fun id => by rw [wiring.nodes, wiring'.nodes, get?_nodes_firsts]
    edges_iff := (sameEdges_congr wiring' wiring).trans sameEdges_firsts_iff
    same := fun redundant => by
      obtain ⟨result, after, after', run, run', alike⟩ := build_of_redundant redundant merger mode
      rw [run, run']
      exact ⟨rfl, alike⟩
    own := fun redundant {edge source target} => by
      have own : snapshot.OwnEdge ((build snapshot merger mode).run .empty).2 edge source target ↔
          ⟨edge, source, target⟩ ∈ snapshot.links := by
        rw [redundant.mem_links_iff_ownEdge, OwnEdge, wiring.nodes]
        rfl
      rw [own, wiring.targets, wiring.sources]
      exact ⟨(hasLinks_graph snapshot).mem_targets_of_oneTarget redundant.oneTarget,
        (hasLinks_graph snapshot).mem_sources⟩ }

/-- Two versions of a gateway, each with a class of its own. -/
def twoVersions : Snapshot where
  gatewayClasses := [⟨"c1", ""⟩, ⟨"c2", ""⟩]
  nameSpaces := [⟨"n", []⟩]
  gateways := [⟨"n", "g", "c1"⟩, ⟨"n", "g", "c2"⟩]
  httpRoutes := []
  backends := []
  referenceGrants := []
  policies := []

/-- The first version becomes the node, but the node gets the class of the second one. -/
theorem twoVersions_last_class_wins :
    ((build twoVersions MergerRegistry.specifications.toPolicyMerger .bestEffort).run
        .empty).2.nodes.get? (.gateway "n" "g") = some (.gateway ⟨"n", "g", "c1"⟩) ∧
      ((build twoVersions MergerRegistry.specifications.toPolicyMerger .bestEffort).run
        .empty).2.target? .gatewayClass (.gateway "n" "g") = some (.gatewayClass "c2") ∧
      ((build twoVersions.firsts MergerRegistry.specifications.toPolicyMerger .bestEffort).run
        .empty).2.target? .gatewayClass (.gateway "n" "g") = some (.gatewayClass "c1") := by
  have wiring := sameWiring_build twoVersions MergerRegistry.specifications.toPolicyMerger
    .bestEffort
  have wiring' := sameWiring_build twoVersions.firsts
    MergerRegistry.specifications.toPolicyMerger .bestEffort
  rw [wiring.nodes, wiring.target?, wiring'.target?]
  exact ⟨rfl, rfl, rfl⟩

end Topology

end PolicyTopology
