import PolicyTopology.Proofs.Topology.Resolution

/-!
# What nodes hold when others are worked out

When a pass begins, each node of the earlier passes that has not failed holds what the work on it
comes to, and so does every node that was read for it. This is what the work of the later passes
can rely on.
-/

namespace PolicyTopology

namespace Topology

variable {merger : PolicyMerger} {mode : ResolutionMode} {before first second after : Topology}
  {gateways routes : Progress} {gateway route backend : ResourceId} {partitions : Partitions}

/-- What a gateway holds is what the work on it comes to. -/
def GatewayHeld (merger : PolicyMerger) (topology : Topology) (gateway : ResourceId) : Prop :=
  (topology.gatewayPolicies merger gateway).result = .ok (topology.effective.get? gateway)

/-- The parts that a route holds are what the work on it comes to, and so is what its gateways
hold. -/
structure RouteHeld (merger : PolicyMerger) (topology : Topology) (route : ResourceId)
    (partitions : Partitions) : Prop where
  result : (topology.routePartitions merger [] route).result = .ok partitions
  held : topology.partitions.get? route = some partitions
  gateways : ∀ gateway ∈ topology.targets .routeGateway route, GatewayHeld merger topology gateway

/-- The parts that a backend holds are what the work on it comes to, and so is what its routes
hold. -/
structure BackendHeld (merger : PolicyMerger) (topology : Topology) (backend : ResourceId)
    (partitions : Partitions) : Prop where
  result : (topology.backendPartitions merger [] backend).result = .ok partitions
  held : topology.partitions.get? backend = some partitions
  routes : ∀ route ∈ topology.sources .routeBackend backend, ∃ partitions,
    RouteHeld merger topology route partitions

theorem GatewayHeld.congr (h : GatewayHeld merger first gateway)
    (agree : first.AgreeOn .gateway [] after []) (ofKind : gateway.nodeKind = .gateway) :
    GatewayHeld merger after gateway := by
  unfold GatewayHeld
  rw [gatewayPolicies_congr merger agree.toSameGraph, agree.effective ofKind]
  exact h

/-- A gateway that holds what the work on it comes to holds policies exactly if it has a class. -/
theorem GatewayHeld.effective_iff (h : GatewayHeld merger after gateway) :
    (∃ policies, after.effective.get? gateway = some policies) ↔
      ∃ gatewayClass, after.target? .gatewayClass gateway = some gatewayClass := by
  unfold GatewayHeld at h
  cases classed : after.target? .gatewayClass gateway with
  | none =>
      rw [gatewayPolicies_of_classless classed] at h
      rw [← Except.ok.inj h]
      simp
  | some gatewayClass =>
      cases held : after.effective.get? gateway with
      | some policies => simp
      | none =>
          rw [held] at h
          cases (classless_of_gatewayPolicies h).symm.trans classed

theorem RouteHeld.congr (h : RouteHeld merger first route partitions) (coherent : first.Coherent)
    (agree : first.AgreeOn .gateway [] after [])
    (same : after.partitions.get? route = first.partitions.get? route) :
    RouteHeld merger after route partitions where
  result := by
    rw [routePartitions_congr merger coherent agree]
    exact h.result
  held := same.trans h.held
  gateways gateway member := by
    rw [agree.targets] at member
    exact (h.gateways gateway member).congr agree
      (nodeKind_of_mem_idsOf (coherent.gateway_of_target member))

theorem AgreeOn.refl (kind : NodeKind) (topology : Topology) :
    topology.AgreeOn kind [] topology [] :=
  ⟨.refl _, fun _ => rfl, fun _ => rfl, fun _ => .rfl⟩

section Passes

variable (ran : ((Pass.gateways merger).run mode []).run before = (.ok gateways, first))
  (ran' : ((Pass.routes merger).run mode gateways.failures).run first = (.ok routes, second))
  (coherent : before.Coherent)

include ran

include coherent

/-- A gateway that has not failed holds its policies when the routes are visited. -/
theorem gatewayHeld_of_run (member : gateway ∈ first.idsOf .gateway)
    (sound : gateway ∉ gateways.failedIds) : GatewayHeld merger first gateway := by
  have visited := Pass.visited_of_run (Pass.gateways_lawful merger) coherent ran
  have agree : before.AgreeOn .gatewayClass [] first gateways.failedIds :=
    visited.agreeOn (fun _ => Pass.nodeKind_of_mem_visited)
      (show NodeKind.gatewayClass ≠ .gateway by decide)
  have same : (Pass.gateways merger).outcome first gateways.failedIds =
      (Pass.gateways merger).outcome before [] :=
    funext fun _ => (Pass.gateways_lawful merger).compute_congr coherent agree
  have among : gateway ∈ sortedIds (before.idsOf .gateway) := by
    rwa [mem_sortedIds, ← agree.idsOf]
  obtain ⟨_, found, held⟩ := (visited.settled same (fun _ _ => rfl) fun _ _ => rfl).gateway_of_sound
    coherent agree.toSameGraph among fun failure failed =>
      sound (visited.mem_failedIds among (by rwa [same] at failed))
  exact found.trans (congrArg Except.ok held.symm)

include ran'

/-- A route that has not failed holds its parts when the backends are visited. -/
theorem exists_routeHeld (member : route ∈ second.idsOf .httpRoute)
    (sound : route ∉ routes.failedIds) :
    ∃ partitions, RouteHeld merger second route partitions := by
  have coherent' := (Pass.visited_of_run (Pass.gateways_lawful merger) coherent ran).coherent
  have visited := Pass.visited_of_run (Pass.routes_lawful merger) coherent' ran'
  have agree : first.AgreeOn .gateway gateways.failedIds second routes.failedIds :=
    visited.agreeOn (fun _ => Pass.nodeKind_of_mem_visited)
      (show NodeKind.gateway ≠ .httpRoute by decide)
  have same : (Pass.routes merger).outcome second routes.failedIds =
      (Pass.routes merger).outcome first gateways.failedIds :=
    funext fun _ => (Pass.routes_lawful merger).compute_congr coherent' agree
  have among : route ∈ sortedIds (first.idsOf .httpRoute) := by
    rwa [mem_sortedIds, ← agree.idsOf]
  obtain ⟨partitions, found, held, parents⟩ :=
    (visited.settled same (fun _ _ => rfl) fun _ _ => rfl).awaited_of_sound among
      (outcome_routes ..) fun failure failed =>
        sound (visited.mem_failedIds among (by rwa [same] at failed))
  refine ⟨partitions, found, held, fun gateway target => ?_⟩
  have node := visited.coherent.gateway_of_target target
  have ofKind := nodeKind_of_mem_idsOf node
  refine (gatewayHeld_of_run ran coherent (by rwa [← agree.idsOf]) fun failed =>
    parents gateway target ((agree.failed ofKind).mpr failed)).congr ?_ ofKind
  exact ⟨agree.toSameGraph, agree.effective, agree.partitions, fun _ => .rfl⟩

end Passes

end Topology

namespace Resolution

open PolicyTopology.Topology (GatewayHeld RouteHeld BackendHeld)

variable {merger : PolicyMerger} {mode : ResolutionMode} {before after : Topology}
  {report : ResolutionReport} {id : ResourceId}

/-- A gateway that has not failed holds its policies at the end. -/
theorem gatewayHeld (h : Resolution merger mode before after report) (coherent : before.Coherent)
    (member : id ∈ after.idsOf .gateway) (sound : id ∉ report.failedIds) :
    GatewayHeld merger after id :=
  h.gateway_of_sound coherent member sound

/-- A route that has not failed holds its parts at the end. -/
theorem exists_routeHeld (h : Resolution merger mode before after report)
    (coherent : before.Coherent) (member : id ∈ after.idsOf .httpRoute)
    (sound : id ∉ report.failedIds) : ∃ partitions, RouteHeld merger after id partitions := by
  obtain ⟨partitions, result, held, gateways⟩ := h.route_of_sound member sound
  refine ⟨partitions, result, held, fun gateway target => ?_⟩
  exact h.gatewayHeld coherent (h.coherent.gateway_of_target target) (gateways gateway target)

/-- A backend that has not failed holds its parts at the end. -/
theorem exists_backendHeld (h : Resolution merger mode before after report)
    (coherent : before.Coherent) (member : id ∈ after.idsOf .backend)
    (sound : id ∉ report.failedIds) : ∃ partitions, BackendHeld merger after id partitions := by
  obtain ⟨partitions, result, held, routes⟩ := h.backend_of_sound member sound
  refine ⟨partitions, result, held, fun route source => ?_⟩
  exact h.exists_routeHeld coherent (h.coherent.route_of_source source) (routes route source)

end Resolution

end PolicyTopology
