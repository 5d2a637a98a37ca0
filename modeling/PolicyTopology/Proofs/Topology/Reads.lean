import PolicyTopology.Proofs.Precedence
import PolicyTopology.Proofs.Traced
import PolicyTopology.Topology.Effective
import Mathlib.Data.List.Find

/-!
# What the work on a node reads

The work on a gateway reads its class, its namespace and the policies of these and its own. The work
on a route reads its namespace, the policies of this and its own, which gateways it has, which of
these have failed and what they hold; the work on a backend reads the same of its routes. Nothing
else of a topology has any influence, and neighbours may be listed in any order.
-/

namespace PolicyTopology

namespace Topology

/-- A merger makes the same of the policies at a target in two topologies. -/
def SameLevel (merger : PolicyMerger) (first second : Topology) (target : Option ResourceId) :
    Prop :=
  merger.mergeLevel (second.policiesOn target) = merger.mergeLevel (first.policiesOn target)

theorem sameLevel_none (merger : PolicyMerger) (first second : Topology) :
    SameLevel merger first second none := rfl

theorem sameLevel_of_eq {merger : PolicyMerger} {first second : Topology}
    {target : Option ResourceId} (h : second.policiesOn target = first.policiesOn target) :
    SameLevel merger first second target := congrArg merger.mergeLevel h

/-- Two topologies agree on the namespace of a node, and on the policies of this and of the node in
the sense of `same`. -/
structure NodeAgrees (same : Option ResourceId → Prop) (first second : Topology)
    (id : ResourceId) : Prop where
  nameSpace_eq : second.nameSpace? id = first.nameSpace? id
  nameSpace : same (first.nameSpace? id)
  own : same (some id)

/-- Two topologies agree on a gateway, its class and its namespace, and on the policies of these in
the sense of `same`. -/
structure GatewayAgrees (same : Option ResourceId → Prop) (first second : Topology)
    (gateway : ResourceId) : Prop extends NodeAgrees same first second gateway where
  class_eq : second.target? .gatewayClass gateway = first.target? .gatewayClass gateway
  gatewayClass : same (first.target? .gatewayClass gateway)

/-- Two topologies agree on a route and on its gateways. -/
structure RouteAgrees (same : Option ResourceId → Prop) (first second : Topology)
    (route : ResourceId) : Prop extends NodeAgrees same first second route where
  gateways_perm : (second.targets .routeGateway route).Perm (first.targets .routeGateway route)
  gateways : ∀ gateway ∈ first.targets .routeGateway route, GatewayAgrees same first second gateway

/-- Two topologies agree on a backend, on its routes and on their gateways. -/
structure BackendAgrees (same : Option ResourceId → Prop) (first second : Topology)
    (backend : ResourceId) : Prop extends NodeAgrees same first second backend where
  routes_perm : (second.sources .routeBackend backend).Perm (first.sources .routeBackend backend)
  routes : ∀ route ∈ first.sources .routeBackend backend, RouteAgrees same first second route

variable {same same' : Option ResourceId → Prop} {merger : PolicyMerger} {first second : Topology}
  {failed failed' : List ResourceId} {id gateway route backend : ResourceId}

theorem NodeAgrees.imp (h : NodeAgrees same first second id)
    (h' : ∀ target, same target → same' target) : NodeAgrees same' first second id :=
  ⟨h.nameSpace_eq, h' _ h.nameSpace, h' _ h.own⟩

theorem GatewayAgrees.imp (h : GatewayAgrees same first second gateway)
    (h' : ∀ target, same target → same' target) : GatewayAgrees same' first second gateway :=
  ⟨h.toNodeAgrees.imp h', h.class_eq, h' _ h.gatewayClass⟩

theorem gatewayPolicies_of_agrees
    (h : GatewayAgrees (SameLevel merger first second) first second gateway) :
    second.gatewayPolicies merger gateway = first.gatewayPolicies merger gateway := by
  have ofClass := h.gatewayClass
  unfold gatewayPolicies
  rw [h.class_eq, h.nameSpace_eq]
  cases found : first.target? .gatewayClass gateway with
  | none => rfl
  | some gatewayClass =>
      rw [found] at ofClass
      unfold SameLevel at ofClass
      dsimp only
      rw [ofClass, h.nameSpace, h.own]

theorem requireSound_congr {dependencies : List ResourceId}
    (h : ∀ id ∈ dependencies, (id ∈ failed' ↔ id ∈ failed)) :
    requireSound failed' dependencies = requireSound failed dependencies := by
  unfold requireSound
  rw [List.find?_congr fun id member => decide_eq_decide.mpr (h id member)]

theorem routePartitions_of_agrees
    (h : NodeAgrees (SameLevel merger first second) first second route)
    (gateways : (second.targets .routeGateway route).Perm (first.targets .routeGateway route))
    (failed_iff : ∀ gateway ∈ first.targets .routeGateway route,
      (gateway ∈ failed' ↔ gateway ∈ failed))
    (effective : ∀ gateway ∈ first.targets .routeGateway route,
      second.effective.get? gateway = first.effective.get? gateway) :
    second.routePartitions merger failed' route = first.routePartitions merger failed route := by
  unfold routePartitions
  dsimp only
  rw [sortedIds_congr gateways, h.nameSpace_eq, h.nameSpace, h.own,
    requireSound_congr fun id member => failed_iff id (mem_sortedIds.mp member)]
  congr 1
  funext _
  congr 1
  funext ofNameSpace
  congr 1
  funext own
  refine Traced.foldlM_congr (fun gateway member result => ?_) _
  rw [effective gateway (mem_sortedIds.mp member)]

theorem backendPartitions_of_agrees
    (h : NodeAgrees (SameLevel merger first second) first second backend)
    (routes : (second.sources .routeBackend backend).Perm (first.sources .routeBackend backend))
    (failed_iff : ∀ route ∈ first.sources .routeBackend backend,
      (route ∈ failed' ↔ route ∈ failed))
    (partitions : ∀ route ∈ first.sources .routeBackend backend,
      second.partitions.get? route = first.partitions.get? route) :
    second.backendPartitions merger failed' backend =
      first.backendPartitions merger failed backend := by
  have reconciled :
      reconcileRoutes merger second (sortedIds (first.sources .routeBackend backend)) =
      reconcileRoutes merger first (sortedIds (first.sources .routeBackend backend)) := by
    unfold reconcileRoutes
    refine Traced.foldlM_congr (fun route member result => ?_) _
    rw [partitions route (mem_sortedIds.mp member)]
  unfold backendPartitions
  dsimp only
  rw [sortedIds_congr routes, h.nameSpace_eq, h.nameSpace, h.own, reconciled,
    requireSound_congr fun id member => failed_iff id (mem_sortedIds.mp member)]

end Topology

end PolicyTopology
