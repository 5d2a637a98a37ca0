import PolicyTopology.Proofs.Topology.Ancestry
import PolicyTopology.Proofs.Topology.DirectUnion

/-!
# The kinds of policies that reach a node

Under which kinds a node holds a policy for a gateway does not depend on how policies are merged: it
is those kinds of which a policy is attached somewhere in its cone. Inheritance is worked out
without regard to gateways, from what is stored for the parents of a node. The two go through the
graph independently of each other, but where every gateway has a class, each kind that a node
inherits reaches it through some gateway, and what is attached to its namespace through all of them.
-/

namespace PolicyTopology

namespace Topology

variable {registry : MergerRegistry} {topology : Topology} {kind : MergeKind}
  {cone other : ResourceId → Prop} {gatewayClass gateway route backend : ResourceId}
  {policies part : PoliciesByKind} {partitions : Partitions}
  {ancestor ofNameSpace own found : Option Policy}

/-- A policy of a kind is attached to some node of a cone. -/
def HasKind (topology : Topology) (cone : ResourceId → Prop) (kind : MergeKind) : Prop :=
  ∃ policy, topology.AttachedIn cone kind policy

theorem hasKind_or : topology.HasKind (fun target => cone target ∨ other target) kind ↔
    topology.HasKind cone kind ∨ topology.HasKind other kind := by
  simp only [HasKind, AttachedIn, and_or_left, exists_or]

theorem hasKind_exists {ids : List ResourceId} {condition : ResourceId → Prop}
    {coneOf : ResourceId → ResourceId → Prop} :
    topology.HasKind (fun target => ∃ id ∈ ids, condition id ∧ coneOf id target) kind ↔
      ∃ id ∈ ids, condition id ∧ topology.HasKind (coneOf id) kind := by
  constructor
  · rintro ⟨policy, id, attachment, stored, own, ofKind, node, member, holds, within⟩
    exact ⟨node, member, holds, policy, id, attachment, stored, own, ofKind, within⟩
  · rintro ⟨node, member, holds, policy, id, attachment, stored, own, ofKind, within⟩
    exact ⟨policy, id, attachment, stored, own, ofKind, node, member, holds, within⟩

theorem HasKind.imp (h : topology.HasKind cone kind)
    (within : ∀ target, cone target → other target) : topology.HasKind other kind := by
  obtain ⟨policy, id, attachment, stored, own, ofKind, inCone⟩ := h
  exact ⟨policy, id, attachment, stored, own, ofKind, within attachment.target inCone⟩

/-! ### What a node holds -/

theorem isSome_of_layersOf (h : layersOf registry kind ancestor ofNameSpace own = .ok found) :
    found.isSome = true ↔
      ancestor.isSome = true ∨ ofNameSpace.isSome = true ∨ own.isSome = true := by
  obtain ⟨middle, first, last⟩ := Except.bind_ok_iff.mp h
  rw [MergerRegistry.isSome_of_chain last, MergerRegistry.isSome_of_chain first, or_assoc]

theorem mem_keys_iff_isSome : kind ∈ policies.keys ↔ (policies.get? kind).isSome = true := by
  rw [← Table.contains_iff, Table.contains_eq_isSome]

theorem peersAt_ne_nil_iff : topology.peersAt backend gateway kind ≠ [] ↔
    ∃ route policies, (route, policies) ∈ topology.visits backend gateway ∧
      kind ∈ policies.keys := by
  simp only [peersAt, ne_eq, List.filterMap_eq_nil_iff, not_forall, Prod.exists,
    mem_keys_iff_isSome, Option.isSome_iff_ne_none, exists_prop]

section Cones

theorem isSome_of_peersOn {target : Option ResourceId}
    (h : peersOn registry topology kind target = .ok found) :
    found.isSome = true ↔ topology.HasKind (fun node => target = some node) kind := by
  rw [Table.isSome_of_gather h, or_iff_right (by simp), ← List.isEmpty_eq_false_iff,
    List.isEmpty_eq_false_iff_exists_mem]
  simp only [mem_kindOn, HasKind, AttachedIn]
  grind

/-- Laid over each other, the levels of a node have a policy if there is one above the node, one at
its namespace or one at the node itself. -/
theorem isSome_of_levels {node : ResourceId}
    (above : ancestor.isSome = true ↔ topology.HasKind cone kind)
    (spacePeers : peersOn registry topology kind (topology.nameSpace? node) = .ok ofNameSpace)
    (ownPeers : peersOn registry topology kind (some node) = .ok own)
    (h : layersOf registry kind ancestor ofNameSpace own = .ok found) :
    found.isSome = true ↔ topology.HasKind
      (fun target => cone target ∨ topology.nameSpace? node = some target ∨ target = node)
      kind := by
  rw [isSome_of_layersOf h, above, isSome_of_peersOn spacePeers,
    isSome_of_peersOn ownPeers, hasKind_or, hasKind_or]
  simp only [Option.some.injEq, eq_comm]

theorem isSome_of_gatewayPolicy
    (classed : topology.target? .gatewayClass gateway = some gatewayClass)
    (h : gatewayPolicy registry topology gatewayClass gateway kind = .ok found) :
    found.isSome = true ↔ topology.HasKind (topology.GatewayCone gateway) kind := by
  obtain ⟨ofClass, classPeers, h⟩ := Except.bind_ok_iff.mp h
  obtain ⟨ofNameSpace, spacePeers, h⟩ := Except.bind_ok_iff.mp h
  obtain ⟨own, ownPeers, h⟩ := Except.bind_ok_iff.mp h
  rw [← classed] at classPeers
  exact isSome_of_levels (isSome_of_peersOn classPeers) spacePeers ownPeers h

theorem isSome_of_routePolicy
    (above : kind ∈ policies.keys ↔ topology.HasKind (topology.GatewayCone gateway) kind)
    (h : routePolicy registry topology route policies kind = .ok found) :
    found.isSome = true ↔ topology.HasKind (topology.RouteCone gateway route) kind := by
  obtain ⟨ofNameSpace, spacePeers, h⟩ := Except.bind_ok_iff.mp h
  obtain ⟨own, ownPeers, h⟩ := Except.bind_ok_iff.mp h
  exact isSome_of_levels (mem_keys_iff_isSome.symm.trans above) spacePeers ownPeers h

variable (coherent : topology.Coherent) (once : topology.IndexedOnce)

include coherent once

/-- A gateway holds policies of the kinds that are attached to its cone. -/
theorem GatewayHeld.mem_keys_iff (held : GatewayHeld registry.toPolicyMerger topology gateway)
    (stored : topology.effective.get? gateway = some policies) :
    kind ∈ policies.keys ↔ topology.HasKind (topology.GatewayCone gateway) kind := by
  obtain ⟨gatewayClass, classed⟩ := held.effective_iff.mp ⟨policies, stored⟩
  obtain ⟨_, same, entry⟩ := (kindByKind coherent once registry).gateway_entry classed held
  cases stored.symm.trans same
  rw [mem_keys_iff_isSome, isSome_of_gatewayPolicy classed (entry kind)]

/-- The part of a route for a gateway has policies of the kinds that are attached to its cone. -/
theorem RouteHeld.mem_keys_iff
    (held : RouteHeld registry.toPolicyMerger topology route partitions)
    (stored : partitions.get? gateway = some part) :
    kind ∈ part.keys ↔ topology.HasKind (topology.RouteCone gateway route) kind := by
  have byKind := kindByKind coherent once registry
  obtain ⟨target, policies, effective⟩ := (byKind.route_part_iff held.result).mp ⟨part, stored⟩
  rw [mem_keys_iff_isSome, isSome_of_routePolicy
    ((held.gateways gateway target).mem_keys_iff coherent once effective)
    (byKind.route_entry held.result stored effective kind)]

/-- So has the part of a backend. -/
theorem BackendHeld.mem_keys_iff
    (held : BackendHeld registry.toPolicyMerger topology backend partitions)
    (stored : partitions.get? gateway = some part) :
    kind ∈ part.keys ↔ topology.HasKind (topology.BackendCone gateway backend) kind := by
  have byKind := kindByKind coherent once registry
  have reached := byKind.backend_part_iff held.result |>.mp ⟨part, stored⟩
  obtain ⟨⟨_, _⟩, visited⟩ := List.exists_mem_of_ne_nil _ (visits_ne_nil_iff.mpr reached)
  obtain ⟨_, _, effective⟩ := (held.visited_iff coherent once).mp ⟨_, visited⟩
  have peers : topology.peersAt backend gateway kind ≠ [] ↔
      ∃ route ∈ topology.sources .routeBackend backend,
        gateway ∈ topology.targets .routeGateway route ∧
          topology.HasKind (topology.RouteCone gateway route) kind := by
    rw [peersAt_ne_nil_iff]
    constructor
    · rintro ⟨route, policies, visited, among⟩
      obtain ⟨source, _, atRoute, stored⟩ := held.routeHeld visited
      have target := ((held.visited_iff coherent once).mp ⟨policies, visited⟩).2.1
      exact ⟨route, source, target, (atRoute.mem_keys_iff coherent once stored).mp among⟩
    · rintro ⟨route, source, target, reached⟩
      obtain ⟨policies, visited⟩ :=
        (held.visited_iff coherent once).mpr ⟨source, target, effective⟩
      obtain ⟨_, _, atRoute, stored⟩ := held.routeHeld visited
      exact ⟨route, policies, visited, (atRoute.mem_keys_iff coherent once stored).mpr reached⟩
  obtain ⟨ofNameSpace, spacePeers, h⟩ :=
    Except.bind_ok_iff.mp (byKind.backend_entry held.result stored kind)
  obtain ⟨own, ownPeers, h⟩ := Except.bind_ok_iff.mp h
  obtain ⟨reunited, came, h⟩ := Except.bind_ok_iff.mp h
  have above := (MergerRegistry.isSome_of_reunited came).trans (peers.trans hasKind_exists.symm)
  exact mem_keys_iff_isSome.trans (isSome_of_levels above spacePeers ownPeers h)

end Cones

/-! ### What a node inherits -/

def AllClassed (topology : Topology) (route : ResourceId) : Prop :=
  topology.targets .routeGateway route ≠ [] ∧
    ∀ gateway ∈ topology.targets .routeGateway route, topology.Classed gateway

/-- Each kind that a node inherits is in a part of what it holds, and in all parts if a policy of
the kind is attached to the namespace of the node. -/
def InheritedInParts (topology : Topology) (node : ResourceId) : Prop :=
  ∃ inherited partitions, topology.inherited.get? node = some inherited ∧
    topology.partitions.get? node = some partitions ∧
    ∀ policy ∈ inherited, ∃ attachment kind, topology.policies.get? policy = some attachment ∧
      attachment.policy.kind = .ok kind ∧
      (∃ gateway part, partitions.get? gateway = some part ∧ kind ∈ part.keys) ∧
      (topology.nameSpace? node = some attachment.target →
        ∀ gateway part, partitions.get? gateway = some part → kind ∈ part.keys)

/-- Each kind that a node inherits is one of those that it holds policies of. -/
structure KindsReach (topology : Topology) : Prop where
  gateway : ∀ gateway ∈ topology.idsOf .gateway, topology.Classed gateway →
    ∃ inherited policies, topology.inherited.get? gateway = some inherited ∧
      topology.effective.get? gateway = some policies ∧
      ∀ policy ∈ inherited, ∃ attachment kind, topology.policies.get? policy = some attachment ∧
        attachment.policy.kind = .ok kind ∧ kind ∈ policies.keys
  route : ∀ route ∈ topology.idsOf .httpRoute, topology.AllClassed route →
    topology.InheritedInParts route
  backend : ∀ backend ∈ topology.idsOf .backend, topology.sources .routeBackend backend ≠ [] →
    (∀ route ∈ topology.sources .routeBackend backend, topology.AllClassed route) →
      topology.InheritedInParts backend

section Above

variable {place : ResourceId}

theorem gatewayCone_of_above (above : topology.AboveGateway gateway place) :
    topology.GatewayCone gateway place :=
  above.elim (fun ofNameSpace => .inr (.inl ofNameSpace)) .inl

/-- What is above a route is in its cone through some gateway, if there is a gateway at all. -/
theorem routeCone_of_above (nonempty : topology.targets .routeGateway route ≠ [])
    (above : place = route ∨ topology.AboveRoute route place) :
    ∃ gateway ∈ topology.targets .routeGateway route, topology.RouteCone gateway route place := by
  rcases above with same | ofNameSpace | ⟨gateway, target, same | above⟩
  · obtain ⟨gateway, target⟩ := List.exists_mem_of_ne_nil _ nonempty
    exact ⟨gateway, target, .inr (.inr same)⟩
  · obtain ⟨gateway, target⟩ := List.exists_mem_of_ne_nil _ nonempty
    exact ⟨gateway, target, .inr (.inl ofNameSpace)⟩
  · exact ⟨gateway, target, .inl (.inr (.inr same))⟩
  · exact ⟨gateway, target, .inl (gatewayCone_of_above above)⟩

/-- What is above a backend is in its cone through some gateway of one of its routes. -/
theorem backendCone_of_above (nonempty : topology.sources .routeBackend backend ≠ [])
    (routes : ∀ route ∈ topology.sources .routeBackend backend,
      topology.targets .routeGateway route ≠ [])
    (above : topology.AboveBackend backend place) :
    ∃ route ∈ topology.sources .routeBackend backend,
      ∃ gateway ∈ topology.targets .routeGateway route,
        topology.BackendCone gateway backend place := by
  rcases above with ofNameSpace | ⟨route, source, above⟩
  · obtain ⟨route, source⟩ := List.exists_mem_of_ne_nil _ nonempty
    obtain ⟨gateway, target⟩ := List.exists_mem_of_ne_nil _ (routes route source)
    exact ⟨route, source, gateway, target, .inr (.inl ofNameSpace)⟩
  · obtain ⟨gateway, target, within⟩ := routeCone_of_above (routes route source) above
    exact ⟨route, source, gateway, target, .inl ⟨route, source, target, within⟩⟩

end Above

/-- An attached policy has a kind, and brings it to every cone that it is attached in. -/
theorem Coherent.exists_kind (coherent : topology.Coherent) {policy : ResourceId}
    {attachment : Attachment} (stored : topology.policies.get? policy = some attachment) :
    ∃ kind, attachment.policy.kind = .ok kind ∧
      ∀ cone, cone attachment.target → topology.HasKind cone kind := by
  have kind := (Policy.parts_of_id (coherent.readable stored).1).1
  exact ⟨_, kind, fun cone within => ⟨_, policy, attachment, stored, rfl, kind, within⟩⟩

theorem inheritedInParts_of_cones (coherent : topology.Coherent) {node : ResourceId}
    {places : ResourceId → Prop} {coneOf : ResourceId → ResourceId → Prop}
    (inherits : topology.InheritsFrom node places)
    (held : topology.partitions.get? node = some partitions)
    (keys : ∀ gateway part kind, partitions.get? gateway = some part →
      (kind ∈ part.keys ↔ topology.HasKind (coneOf gateway) kind))
    (reached : ∀ place, places place →
      ∃ gateway part, partitions.get? gateway = some part ∧ coneOf gateway place)
    (nameSpace : ∀ gateway place, topology.nameSpace? node = some place → coneOf gateway place) :
    topology.InheritedInParts node := by
  obtain ⟨inherited, stored, _, listed⟩ := inherits
  refine ⟨inherited, partitions, stored, held, fun policy member => ?_⟩
  obtain ⟨attachment, found, _, place⟩ := (listed policy).mp member
  obtain ⟨kind, ofKind, reaches⟩ := coherent.exists_kind found
  refine ⟨attachment, kind, found, ofKind, ?_, fun ofNameSpace gateway part isPart => ?_⟩
  · obtain ⟨gateway, part, isPart, within⟩ := reached attachment.target place
    exact ⟨gateway, part, isPart, (keys gateway part kind isPart).mpr (reaches _ within)⟩
  · exact (keys gateway part kind isPart).mpr (reaches _ (nameSpace gateway _ ofNameSpace))

/-! ### Both resolutions -/

/-- Two topologies with the same graph in which the same is resolved. -/
structure SameHeld (first second : Topology) : Prop extends SameGraph first second where
  effective : second.effective = first.effective
  partitions : second.partitions = first.partitions

/-- Effective policies have been resolved on the graph as it is, without a failure, and are held as
they were left; and so has been what is inherited. -/
structure BothResolved (registry : MergerRegistry) (topology : Topology) : Prop where
  reachable : topology.Reachable
  resolved : ∃ (before : Topology) (mode : ResolutionMode) (report : ResolutionReport)
    (after : Topology), before.Reachable ∧
    (resolve registry.toPolicyMerger mode).run before = (.ok report, after) ∧
    report.isClean = true ∧ SameHeld after topology
  inherits : ∃ before : Topology, before.Reachable ∧ SameInheritance before.inherit topology

section BothResolved

variable {before after : Topology} {mode : ResolutionMode} {report : ResolutionReport}

/-- It does not matter in which order the two are run. -/
theorem bothResolved_inherit (reachable : before.Reachable)
    (run : (resolve registry.toPolicyMerger mode).run before = (.ok report, after))
    (clean : report.isClean = true) : BothResolved registry after.inherit := by
  have reachable' := reachable.apply (.resolve registry.toPolicyMerger mode)
  rw [Operation.apply, run] at reachable'
  refine ⟨reachable'.apply .inherit, ⟨before, mode, report, after, reachable, run, clean, ?_⟩,
    after, reachable', ⟨.refl _, rfl⟩⟩
  exact @inherit_keeps (SameHeld after) after
    (fun _ same => ⟨same.toSameGraph.trans ⟨rfl, rfl, rfl, rfl, rfl⟩, same.effective,
      same.partitions⟩)
    (fun _ same => ⟨same.toSameGraph.trans ⟨rfl, rfl, rfl, rfl, rfl⟩, same.effective,
      same.partitions⟩) ⟨.refl after, rfl, rfl⟩

theorem bothResolved_resolve (reachable : before.Reachable)
    (run : (resolve registry.toPolicyMerger mode).run before.inherit = (.ok report, after))
    (clean : report.isClean = true) : BothResolved registry after := by
  have reachable' := reachable.apply .inherit
  have reachable'' := reachable'.apply (.resolve registry.toPolicyMerger mode)
  have same := SameInheritance.resolve registry.toPolicyMerger mode before.inherit
  simp only [Operation.apply] at reachable' reachable''
  rw [run] at reachable'' same
  exact ⟨reachable'', ⟨_, mode, report, after, reachable', run, clean, .refl _, rfl, rfl⟩,
    before, reachable, same⟩

theorem SameHeld.agreeOn (h : SameHeld before after) (kind : NodeKind) :
    before.AgreeOn kind [] after [] :=
  ⟨h.toSameGraph, fun _ => by rw [h.effective], fun _ => by rw [h.partitions], fun _ => .rfl⟩

theorem BackendHeld.congr {merger : PolicyMerger} (h : BackendHeld merger before backend partitions)
    (coherent : before.Coherent) (same : SameHeld before after) :
    BackendHeld merger after backend partitions where
  result := by
    rw [backendPartitions_congr merger coherent (same.agreeOn .httpRoute)]
    exact h.result
  held := by rw [same.partitions, h.held]
  routes route source := by
    rw [same.sources] at source
    obtain ⟨ofRoute, held⟩ := h.routes route source
    exact ⟨ofRoute, held.congr coherent (same.agreeOn .gateway) (by rw [same.partitions])⟩

theorem InheritsFrom.congr {id : ResourceId} (h : before.InheritsFrom id cone)
    (same : SameInheritance before after) (places : ∀ target, cone target ↔ other target) :
    after.InheritsFrom id other := by
  obtain ⟨policies, stored, nodup, listed⟩ := h
  refine ⟨policies, by rw [same.inherited, stored], nodup, fun policy => ?_⟩
  simp only [listed, InheritableAt, same.policies, places]

theorem SameInheritance.inheritsFromAbove (same : SameInheritance before after)
    (above : before.InheritsFromAbove) : after.InheritsFromAbove where
  gateway gateway node := by
    rw [same.idsOf] at node
    refine (above.gateway gateway node).congr same fun target => ?_
    simp only [AboveGateway, same.nameSpace?, same.target?]
  route route node := by
    rw [same.idsOf] at node
    refine (above.route route node).congr same fun target => ?_
    simp only [AboveRoute, AboveGateway, same.nameSpace?, same.target?, same.targets]
  backend backend node := by
    rw [same.idsOf] at node
    refine (above.backend backend node).congr same fun target => ?_
    simp only [AboveBackend, AboveRoute, AboveGateway, same.nameSpace?, same.target?, same.targets,
      same.sources]

namespace BothResolved

variable (h : BothResolved registry topology)

include h

/-- All that is resolved is what the work on the graph as it is comes to. -/
theorem held : (∀ gateway ∈ topology.idsOf .gateway,
      GatewayHeld registry.toPolicyMerger topology gateway) ∧
    (∀ route ∈ topology.idsOf .httpRoute, ∃ partitions,
      RouteHeld registry.toPolicyMerger topology route partitions) ∧
    ∀ backend ∈ topology.idsOf .backend, ∃ partitions,
      BackendHeld registry.toPolicyMerger topology backend partitions := by
  obtain ⟨before, mode, report, after, reachable, run, clean, same⟩ := h.resolved
  have coherent := reachable.coherent
  have resolution := resolution_of_run coherent run
  have sound : ∀ id, id ∉ report.failedIds := by
    rw [ResolutionReport.failedIds, List.isEmpty_iff.mp clean]
    exact fun _ => List.not_mem_nil
  refine ⟨fun gateway node => ?_, fun route node => ?_, fun backend node => ?_⟩
  · rw [same.idsOf] at node
    exact (resolution.gatewayHeld coherent node (sound gateway)).congr (same.agreeOn .gateway)
      (nodeKind_of_mem_idsOf node)
  · rw [same.idsOf] at node
    obtain ⟨partitions, held⟩ := resolution.exists_routeHeld coherent node (sound route)
    exact ⟨partitions, held.congr resolution.coherent (same.agreeOn .gateway)
      (by rw [same.partitions])⟩
  · rw [same.idsOf] at node
    obtain ⟨partitions, held⟩ := resolution.exists_backendHeld coherent node (sound backend)
    exact ⟨partitions, held.congr resolution.coherent same⟩

theorem inheritsFromAbove : topology.InheritsFromAbove := by
  obtain ⟨before, reachable, same⟩ := h.inherits
  exact same.inheritsFromAbove
    (reachable.coherent.inheritsFromAbove_inherit reachable.indexedOnce)

end BothResolved

/-- What is inherited and what is resolved agree on the kinds that reach a node: wherever all
gateways above a node have a class, each kind that it inherits is one that it holds policies of. -/
theorem inherited_kinds_reach (h : BothResolved registry topology) : KindsReach topology := by
  have coherent := h.reachable.coherent
  have once := h.reachable.indexedOnce
  have above := h.inheritsFromAbove
  obtain ⟨gateways, routes, backends⟩ := h.held
  refine ⟨fun gateway node classed => ?_, fun route node classed => ?_,
    fun backend node nonempty classed => ?_⟩
  · have held := gateways gateway node
    obtain ⟨inherited, stored, _, listed⟩ := above.gateway gateway node
    obtain ⟨policies, effective⟩ :=
      held.effective_iff.mpr (Option.ne_none_iff_exists'.mp classed)
    refine ⟨inherited, policies, stored, effective, fun policy member => ?_⟩
    obtain ⟨attachment, found, _, place⟩ := (listed policy).mp member
    obtain ⟨kind, ofKind, reaches⟩ := coherent.exists_kind found
    refine ⟨attachment, kind, found, ofKind, ?_⟩
    rw [held.mem_keys_iff coherent once effective]
    exact reaches _ (gatewayCone_of_above place)
  · obtain ⟨partitions, held⟩ := routes route node
    refine inheritedInParts_of_cones coherent (above.route route node) held.held
      (fun gateway part kind isPart => held.mem_keys_iff coherent once isPart)
      (fun place reached => ?_) fun gateway place ofNameSpace => .inr (.inl ofNameSpace)
    obtain ⟨gateway, target, within⟩ := routeCone_of_above classed.1 (.inr reached)
    have effective := (held.gateways gateway target).effective_iff.mpr
      (Option.ne_none_iff_exists'.mp (classed.2 gateway target))
    obtain ⟨part, isPart⟩ :=
      ((kindByKind coherent once registry).route_part_iff held.result).mpr ⟨target, effective⟩
    exact ⟨gateway, part, isPart, within⟩
  · obtain ⟨partitions, held⟩ := backends backend node
    refine inheritedInParts_of_cones coherent (above.backend backend node) held.held
      (fun gateway part kind isPart => held.mem_keys_iff coherent once isPart)
      (fun place reached => ?_) fun gateway place ofNameSpace => .inr (.inl ofNameSpace)
    obtain ⟨route, source, gateway, target, within⟩ :=
      backendCone_of_above nonempty (fun route source => (classed route source).1) reached
    obtain ⟨gatewayClass, ofClass⟩ :=
      Option.ne_none_iff_exists'.mp ((classed route source).2 gateway target)
    obtain ⟨part, isPart⟩ := held.exists_part coherent once source target ofClass
    exact ⟨gateway, part, isPart, within⟩

/-- Three routes of one gateway hand on to a backend what is attached to each of them. -/
theorem inherited_kinds_reach_threeRoutes : ∃ report after,
    (resolve MergerRegistry.specifications.toPolicyMerger .bestEffort).run threeRoutes =
      (.ok report, after) ∧
    BothResolved MergerRegistry.specifications after.inherit ∧ KindsReach after.inherit := by
  obtain ⟨report, after, run, _, sound⟩ := resolution_threeRoutes
  have clean : report.isClean = true :=
    List.isEmpty_iff.mpr (List.map_eq_nil_iff.mp (List.eq_nil_iff_forall_not_mem.mpr sound))
  have both := bothResolved_inherit (.applyAll .empty _) run clean
  exact ⟨report, after, run, both, inherited_kinds_reach both⟩

end BothResolved

end Topology

end PolicyTopology
