import PolicyTopology.Proofs.Topology.Outcome

/-!
# Resolutions

What a resolution that comes to an end leaves behind. Each of its three passes reads the results of
the one before, so every node can be described by the topology at the end: the work on it, repeated
there with all failed nodes known, comes to what the resolution stored for it or entered into its
report.
-/

namespace PolicyTopology

/-- The failures among some nodes, in their order. -/
def failuresAmong {α : Type} (ids : List ResourceId) (outcome : ResourceId → Outcome α) :
    List NodeFailure :=
  ids.filterMap fun id => (outcome id).failure?.map (⟨id, ·⟩)

theorem mem_failuresAmong {α : Type} {ids : List ResourceId} {outcome : ResourceId → Outcome α}
    {id : ResourceId} {failure : Failure} :
    ⟨id, failure⟩ ∈ failuresAmong ids outcome ↔
      id ∈ ids ∧ outcome id = .error (.failure failure) := by
  simp only [failuresAmong, List.mem_filterMap, Option.map_eq_some_iff, NodeFailure.mk.injEq]
  constructor
  · rintro ⟨_, member, _, found, rfl, rfl⟩
    refine ⟨member, ?_⟩
    unfold Outcome.failure? at found
    split at found
    · next same => rw [same, Option.some.inj found]
    · cases found
  · rintro ⟨member, found⟩
    exact ⟨id, member, failure, by rw [found]; rfl, rfl, rfl⟩

/-- What is stored and counted for the nodes of a pass, by the outcome of each. -/
structure Settled {α : Type} (mode : ResolutionMode) (ids : List ResourceId)
    (outcome : ResourceId → Outcome α) (before after : ResourceId → Option α) (tally : Tally) :
    Prop where
  passes : ∀ id ∈ ids, (outcome id).Passes mode
  held : ∀ id ∈ ids, after id = (outcome id).stored?.or (before id)
  resolved : tally.resolved = ids.countP fun id => (outcome id).stored?.isSome
  skipped : tally.skipped = ids.countP fun id =>
    (outcome id).stored?.isNone && (outcome id).failure?.isNone

namespace Settled

variable {α : Type} {mode : ResolutionMode} {ids failed : List ResourceId} {id : ResourceId}
  {tally : Tally} {merger : PolicyMerger} {topology start : Topology}

/-- A node that has not failed holds what the work on it came to. -/
theorem ok_of_sound {outcome : ResourceId → Outcome α} {before after : ResourceId → Option α}
    (h : Settled mode ids outcome before after tally) (member : id ∈ ids)
    (sound : ∀ failure, outcome id ≠ .error (.failure failure)) :
    ∃ result, outcome id = .ok result ∧ after id = result.or (before id) := by
  have passes := h.passes id member
  have held := h.held id member
  cases found : outcome id with
  | ok result => exact ⟨result, rfl, by rw [held, found, Outcome.stored?_ok]⟩
  | error error =>
      cases error with
      | failure failure => exact absurd found (sound failure)
      | fault fault =>
          rw [found] at passes
          cases passes

/-- A gateway that has not failed holds its policies, and none if it has no class. -/
theorem gateway_of_sound {after : ResourceId → Option PoliciesByKind}
    (h : Settled mode ids ((Pass.gateways merger).outcome topology failed) start.effective.get?
      after tally)
    (coherent : start.Coherent) (graph : start.SameGraph topology) (member : id ∈ ids)
    (sound : ∀ failure,
      (Pass.gateways merger).outcome topology failed id ≠ .error (.failure failure)) :
    ∃ result, (topology.gatewayPolicies merger id).result = .ok result ∧ after id = result := by
  obtain ⟨result, found, held⟩ := h.ok_of_sound member sound
  refine ⟨result, found, ?_⟩
  rw [held]
  cases result with
  | some policies => rfl
  | none =>
      rw [Option.none_or]
      have classless := Topology.classless_of_gatewayPolicies found
      rw [graph.target?] at classless
      exact Option.not_isSome_iff_eq_none.mp fun stored =>
        coherent.effective_classed (Option.isSome_iff_ne_none.mp stored) classless

/-- A node that has not failed holds what the work of its own came to, and none of those that it
depends on has failed. -/
theorem awaited_of_sound {dependencies : List ResourceId} {own : Except NodeError α}
    {outcome : ResourceId → Outcome α} {before after : ResourceId → Option α}
    (h : Settled mode ids outcome before after tally) (member : id ∈ ids)
    (awaits : outcome id = Topology.awaiting failed dependencies own)
    (sound : ∀ failure, outcome id ≠ .error (.failure failure)) :
    ∃ value, own = .ok value ∧ after id = some value ∧ ∀ other ∈ dependencies, other ∉ failed := by
  obtain ⟨result, found, held⟩ := h.ok_of_sound member sound
  rw [awaits] at found
  obtain ⟨alive, value, own_eq, rfl⟩ := Topology.awaiting_ok_iff.mp found
  exact ⟨value, own_eq, held, alive⟩

end Settled

namespace Progress

variable {α : Type}

/-- Entering outcomes that a resolution goes on after. -/
theorem foldl_enter {mode : ResolutionMode} {outcome : ResourceId → Outcome α}
    {ids : List ResourceId} (passes : ∀ id ∈ ids, (outcome id).Passes mode) (progress : Progress) :
    ids.foldl (fun progress id => progress.enter id (outcome id)) progress =
      { tally :=
          { resolved := progress.tally.resolved + ids.countP fun id => (outcome id).stored?.isSome
            skipped := progress.tally.skipped + ids.countP fun id =>
              (outcome id).stored?.isNone && (outcome id).failure?.isNone }
        failures := progress.failures ++ failuresAmong ids outcome } := by
  induction ids generalizing progress with
  | nil => simp [failuresAmong]
  | cons id rest ih =>
      have first := passes id List.mem_cons_self
      rw [List.foldl_cons, ih fun other member => passes other (List.mem_cons_of_mem id member)]
      generalize found : outcome id = result at first
      rcases result with (failure | fault) | _ | policies
      · simp [enter, failuresAmong, found]
      · cases first
      · simp [enter, failuresAmong, found]
        omega
      · simp [enter, failuresAmong, found]
        omega

end Progress

/-- What a resolution that comes to an end leaves behind, in terms of the topology at the end. -/
structure Resolution (merger : PolicyMerger) (mode : ResolutionMode) (before after : Topology)
    (report : ResolutionReport) : Prop where
  coherent : after.Coherent
  graph : before.SameGraph after
  gateways : Settled mode (sortedIds (after.idsOf .gateway))
    ((Pass.gateways merger).outcome after report.failedIds)
    before.effective.get? after.effective.get? report.gateways
  routes : Settled mode (sortedIds (after.idsOf .httpRoute))
    ((Pass.routes merger).outcome after report.failedIds)
    before.partitions.get? after.partitions.get? report.routes
  backends : Settled mode (sortedIds (after.idsOf .backend))
    ((Pass.backends merger).outcome after report.failedIds)
    before.partitions.get? after.partitions.get? report.backends
  failures : report.failures =
    failuresAmong (sortedIds (after.idsOf .gateway))
        ((Pass.gateways merger).outcome after report.failedIds) ++
      failuresAmong (sortedIds (after.idsOf .httpRoute))
        ((Pass.routes merger).outcome after report.failedIds) ++
      failuresAmong (sortedIds (after.idsOf .backend))
        ((Pass.backends merger).outcome after report.failedIds)

namespace Pass

variable {α : Type} {pass : Pass α} {reads : NodeKind} {held : Topology → ResourceId → Option α}
  {mode : ResolutionMode} {before middle after : Topology} {progress final : Progress}
  {ids failed more : List ResourceId}

theorem Visited.failures_eq (visited : pass.Visited held mode ids before progress middle final) :
    final.failures =
      progress.failures ++ failuresAmong ids (pass.outcome before progress.failedIds) := by
  rw [visited.final_eq, Progress.foldl_enter visited.passes]

theorem Visited.failedIds_eq (visited : pass.Visited held mode ids before progress middle final) :
    final.failedIds = progress.failedIds ++
      (failuresAmong ids (pass.outcome before progress.failedIds)).map (·.node) := by
  rw [Progress.failedIds, visited.failures_eq, List.map_append]
  rfl

/-- What has failed before a pass is still among what has failed after it. -/
theorem Visited.failedIds_subset
    (visited : pass.Visited held mode ids before progress middle final) :
    progress.failedIds ⊆ final.failedIds := by
  rw [visited.failedIds_eq]
  exact List.subset_append_left ..

theorem Visited.mem_failedIds (visited : pass.Visited held mode ids before progress middle final)
    {id : ResourceId} {failure : Failure} (member : id ∈ ids)
    (found : pass.outcome before progress.failedIds id = .error (.failure failure)) :
    id ∈ final.failedIds := by
  rw [visited.failedIds_eq]
  apply List.mem_append_right
  exact List.mem_map.mpr ⟨⟨id, failure⟩, mem_failuresAmong.mpr ⟨member, found⟩, rfl⟩

/-- To nodes of another kind a pass makes no difference. -/
theorem Visited.agreeOn (visited : pass.Visited held mode ids before progress middle final)
    (ofKind : ∀ id ∈ ids, id.nodeKind = pass.kind) {kind : NodeKind} (other : kind ≠ pass.kind) :
    before.AgreeOn kind progress.failedIds middle final.failedIds := by
  rw [visited.failedIds_eq]
  refine .of_storedAt visited.storedAt other fun id member => ?_
  obtain ⟨⟨_, failure⟩, found, rfl⟩ := List.mem_map.mp member
  exact ofKind _ (mem_failuresAmong.mp found).1

/-- A pass seen from the end of the resolution, when later passes have stored what is theirs. -/
theorem Visited.settled
    (visited : pass.Visited held mode ids before ⟨⟨0, 0⟩, failures⟩ middle final)
    (same : pass.outcome after failed = pass.outcome before (failures.map (·.node)))
    {start result : ResourceId → Option α} (start_eq : ∀ id ∈ ids, held before id = start id)
    (result_eq : ∀ id ∈ ids, held middle id = result id) :
    Settled mode ids (pass.outcome after failed) start result final.tally where
  passes := by
    rw [same]
    exact visited.passes
  held id member := by
    rw [← result_eq id member, visited.held_eq, if_pos member, start_eq id member, same]
    rfl
  resolved := by
    rw [visited.final_eq, Progress.foldl_enter visited.passes, same]
    exact Nat.zero_add _
  skipped := by
    rw [visited.final_eq, Progress.foldl_enter visited.passes, same]
    exact Nat.zero_add _

end Pass

namespace Topology

variable {merger : PolicyMerger} {mode : ResolutionMode} {before after : Topology}
  {report : ResolutionReport}

theorem run_resolve_iff :
    (resolve merger mode).run before = (.ok report, after) ↔
      ∃ gateways routes backends first second,
        ((Pass.gateways merger).run mode []).run before = (.ok gateways, first) ∧
        ((Pass.routes merger).run mode gateways.failures).run first = (.ok routes, second) ∧
        ((Pass.backends merger).run mode routes.failures).run second = (.ok backends, after) ∧
        report = ⟨gateways.tally, routes.tally, backends.tally, backends.failures⟩ := by
  unfold resolve
  simp only [Assembly.run_bind_ok_iff]
  constructor
  · rintro ⟨gateways, first, ran, routes, second, ran', backends, third, ran'', finish⟩
    cases finish
    exact ⟨gateways, routes, backends, first, second, ran, ran', ran'', rfl⟩
  · rintro ⟨gateways, routes, backends, first, second, ran, ran', ran'', rfl⟩
    exact ⟨gateways, first, ran, routes, second, ran', backends, after, ran'', rfl⟩

/-- A resolution that comes to an end has done what the topology at its end says. -/
theorem resolution_of_run (coherent : before.Coherent)
    (run : (resolve merger mode).run before = (.ok report, after)) :
    Resolution merger mode before after report := by
  obtain ⟨gateways, routes, backends, first, second, ran, ran', ran'', rfl⟩ :=
    run_resolve_iff.mp run
  have visited := Pass.visited_of_run (Pass.gateways_lawful merger) coherent ran
  have visited' := Pass.visited_of_run (Pass.routes_lawful merger) visited.coherent ran'
  have visited'' := Pass.visited_of_run (Pass.backends_lawful merger) visited'.coherent ran''
  have ofKind : ∀ (topology : Topology) (kind : NodeKind), ∀ id ∈ sortedIds (topology.idsOf kind),
      id.nodeKind = kind := fun _ _ _ member => nodeKind_of_mem_idsOf (mem_sortedIds.mp member)
  -- What the later passes leave of a moment for the kind that is read there.
  have routesRead : second.AgreeOn .httpRoute routes.failedIds after backends.failedIds :=
    visited''.agreeOn (ofKind _ _) (show NodeKind.httpRoute ≠ .backend by decide)
  have gatewaysRead : first.AgreeOn .gateway gateways.failedIds after backends.failedIds :=
    (visited'.agreeOn (ofKind _ _) (show NodeKind.gateway ≠ .httpRoute by decide)).trans
      (visited''.agreeOn (ofKind _ _) (show NodeKind.gateway ≠ .backend by decide))
  have classesRead : before.AgreeOn .gatewayClass [] after backends.failedIds :=
    (visited.agreeOn (ofKind _ _) (show NodeKind.gatewayClass ≠ .gateway by decide)).trans
      ((visited'.agreeOn (ofKind _ _) (show NodeKind.gatewayClass ≠ .httpRoute by decide)).trans
        (visited''.agreeOn (ofKind _ _) (show NodeKind.gatewayClass ≠ .backend by decide)))
  have gatewayOutcomes : (Pass.gateways merger).outcome after backends.failedIds =
      (Pass.gateways merger).outcome before [] :=
    funext fun _ => (Pass.gateways_lawful merger).compute_congr coherent classesRead
  have routeOutcomes : (Pass.routes merger).outcome after backends.failedIds =
      (Pass.routes merger).outcome first gateways.failedIds :=
    funext fun _ => (Pass.routes_lawful merger).compute_congr visited.coherent gatewaysRead
  have backendOutcomes : (Pass.backends merger).outcome after backends.failedIds =
      (Pass.backends merger).outcome second routes.failedIds :=
    funext fun _ => (Pass.backends_lawful merger).compute_congr visited'.coherent routesRead
  have graph : before.SameGraph after := classesRead.toSameGraph
  have graph' : first.SameGraph after := gatewaysRead.toSameGraph
  have graph'' : second.SameGraph after := routesRead.toSameGraph
  exact {
    coherent := visited''.coherent
    graph
    gateways := by
      rw [graph.idsOf]
      refine visited.settled gatewayOutcomes (fun _ _ => rfl) fun id member => ?_
      exact (gatewaysRead.effective (ofKind _ _ id member)).symm
    routes := by
      rw [graph'.idsOf]
      refine visited'.settled routeOutcomes (fun id member => ?_) fun id member => ?_
      · exact visited.storedAt.partitions
          (ofKind _ _ id member ▸ show NodeKind.httpRoute ≠ .gateway by decide)
      · exact (routesRead.partitions (ofKind _ _ id member)).symm
    backends := by
      rw [graph''.idsOf]
      refine visited''.settled backendOutcomes (fun id member => ?_) fun _ _ => rfl
      exact (visited'.storedAt.partitions
          (ofKind _ _ id member ▸ show NodeKind.backend ≠ .httpRoute by decide)).trans
        (visited.storedAt.partitions
          (ofKind _ _ id member ▸ show NodeKind.backend ≠ .gateway by decide))
    failures := by
      show backends.failures =
        failuresAmong _ ((Pass.gateways merger).outcome after backends.failedIds) ++
          failuresAmong _ ((Pass.routes merger).outcome after backends.failedIds) ++
          failuresAmong _ ((Pass.backends merger).outcome after backends.failedIds)
      rw [gatewayOutcomes, routeOutcomes, backendOutcomes, graph.idsOf, graph'.idsOf,
        graph''.idsOf]
      exact visited''.failures_eq.trans (congrArg (· ++ _)
        (visited'.failures_eq.trans (congrArg (· ++ _) visited.failures_eq))) }

/-- A resolution that comes to an end has met no fault at a gateway. -/
theorem passes_gateway_of_run {id : ResourceId}
    (coherent : before.Coherent) (run : (resolve merger mode).run before = (.ok report, after))
    (member : id ∈ before.idsOf .gateway) :
    Outcome.Passes mode (before.gatewayPolicies merger id).result := by
  have h := resolution_of_run coherent run
  rw [← h.graph.idsOf, ← mem_sortedIds] at member
  rw [← gatewayPolicies_congr merger h.graph]
  exact h.gateways.passes id member

end Topology

theorem Topology.not_mem_idsOf {topology : Topology} {kind kind' : NodeKind} {id : ResourceId}
    (member : id ∈ topology.idsOf kind) (other : kind ≠ kind') : id ∉ topology.idsOf kind' :=
  fun member' => other ((nodeKind_of_mem_idsOf member).symm.trans (nodeKind_of_mem_idsOf member'))

namespace Resolution

variable {merger : PolicyMerger} {mode : ResolutionMode} {before after : Topology}
  {report : ResolutionReport} {id : ResourceId} {failure : Failure}

theorem mem_failures_iff (h : Resolution merger mode before after report) :
    ⟨id, failure⟩ ∈ report.failures ↔
      (id ∈ after.idsOf .gateway ∧
        (Pass.gateways merger).outcome after report.failedIds id = .error (.failure failure)) ∨
      (id ∈ after.idsOf .httpRoute ∧
        (Pass.routes merger).outcome after report.failedIds id = .error (.failure failure)) ∨
      (id ∈ after.idsOf .backend ∧
        (Pass.backends merger).outcome after report.failedIds id = .error (.failure failure)) := by
  rw [h.failures, List.mem_append, List.mem_append, mem_failuresAmong, mem_failuresAmong,
    mem_failuresAmong, mem_sortedIds, mem_sortedIds, mem_sortedIds, or_assoc]

theorem gateway_failure_iff (h : Resolution merger mode before after report)
    (member : id ∈ after.idsOf .gateway) : ⟨id, failure⟩ ∈ report.failures ↔
      (Pass.gateways merger).outcome after report.failedIds id = .error (.failure failure) := by
  have notRoute := Topology.not_mem_idsOf member (show NodeKind.gateway ≠ .httpRoute by decide)
  have notBackend := Topology.not_mem_idsOf member (show NodeKind.gateway ≠ .backend by decide)
  simp only [h.mem_failures_iff, member, notRoute, notBackend, true_and, false_and, or_false]

theorem route_failure_iff (h : Resolution merger mode before after report)
    (member : id ∈ after.idsOf .httpRoute) : ⟨id, failure⟩ ∈ report.failures ↔
      (Pass.routes merger).outcome after report.failedIds id = .error (.failure failure) := by
  have notGateway := Topology.not_mem_idsOf member (show NodeKind.httpRoute ≠ .gateway by decide)
  have notBackend := Topology.not_mem_idsOf member (show NodeKind.httpRoute ≠ .backend by decide)
  simp only [h.mem_failures_iff, member, notGateway, notBackend, true_and, false_and, or_false,
    false_or]

theorem backend_failure_iff (h : Resolution merger mode before after report)
    (member : id ∈ after.idsOf .backend) : ⟨id, failure⟩ ∈ report.failures ↔
      (Pass.backends merger).outcome after report.failedIds id = .error (.failure failure) := by
  have notGateway := Topology.not_mem_idsOf member (show NodeKind.backend ≠ .gateway by decide)
  have notRoute := Topology.not_mem_idsOf member (show NodeKind.backend ≠ .httpRoute by decide)
  simp only [h.mem_failures_iff, member, notGateway, notRoute, true_and, false_and, false_or]

theorem mem_failedIds_iff : id ∈ report.failedIds ↔ ∃ failure, ⟨id, failure⟩ ∈ report.failures := by
  constructor
  · intro member
    obtain ⟨⟨_, failure⟩, found, rfl⟩ := List.mem_map.mp member
    exact ⟨failure, found⟩
  · rintro ⟨failure, found⟩
    exact List.mem_map.mpr ⟨_, found, rfl⟩

/-- A gateway that has not failed holds its policies, and none if it has no class. -/
theorem gateway_of_sound (h : Resolution merger mode before after report)
    (coherent : before.Coherent) (member : id ∈ after.idsOf .gateway)
    (sound : id ∉ report.failedIds) :
    (after.gatewayPolicies merger id).result = .ok (after.effective.get? id) := by
  obtain ⟨result, found, held⟩ := h.gateways.gateway_of_sound coherent h.graph
    (mem_sortedIds.mpr member) fun failure failed =>
      sound (mem_failedIds_iff.mpr ⟨failure, (h.gateway_failure_iff member).mpr failed⟩)
  rw [found, held]

/-- A route that has not failed holds its parts, and none of its gateways has failed. -/
theorem route_of_sound (h : Resolution merger mode before after report)
    (member : id ∈ after.idsOf .httpRoute) (sound : id ∉ report.failedIds) :
    ∃ partitions, (after.routePartitions merger [] id).result = .ok partitions ∧
      after.partitions.get? id = some partitions ∧
      ∀ gateway ∈ after.targets .routeGateway id, gateway ∉ report.failedIds :=
  h.routes.awaited_of_sound (mem_sortedIds.mpr member) (Topology.outcome_routes ..)
    fun failure failed =>
      sound (mem_failedIds_iff.mpr ⟨failure, (h.route_failure_iff member).mpr failed⟩)

/-- A backend that has not failed holds its parts, and none of its routes has failed. -/
theorem backend_of_sound (h : Resolution merger mode before after report)
    (member : id ∈ after.idsOf .backend) (sound : id ∉ report.failedIds) :
    ∃ partitions, (after.backendPartitions merger [] id).result = .ok partitions ∧
      after.partitions.get? id = some partitions ∧
      ∀ route ∈ after.sources .routeBackend id, route ∉ report.failedIds :=
  h.backends.awaited_of_sound (mem_sortedIds.mpr member) (Topology.outcome_backends ..)
    fun failure failed =>
      sound (mem_failedIds_iff.mpr ⟨failure, (h.backend_failure_iff member).mpr failed⟩)

/-- A gateway for which the work comes to something has not failed and holds it. -/
theorem gateway_of_ok (h : Resolution merger mode before after report) (coherent : before.Coherent)
    (member : id ∈ before.idsOf .gateway) {policies : Option PoliciesByKind}
    (found : (before.gatewayPolicies merger id).result = .ok policies) :
    id ∉ report.failedIds ∧ after.effective.get? id = policies := by
  rw [← h.graph.idsOf] at member
  rw [← Topology.gatewayPolicies_congr merger h.graph] at found
  have sound : id ∉ report.failedIds := fun failed => by
    obtain ⟨failure, failed⟩ := mem_failedIds_iff.mp failed
    cases found.symm.trans ((h.gateway_failure_iff member).mp failed)
  have held := h.gateway_of_sound coherent member sound
  exact ⟨sound, (Except.ok.inj (found.symm.trans held)).symm⟩

/-- A route of sound gateways for which the work comes to parts has not failed and holds these. -/
theorem route_of_ok (h : Resolution merger mode before after report)
    (member : id ∈ before.idsOf .httpRoute)
    (sound : ∀ gateway ∈ before.targets .routeGateway id, gateway ∉ report.failedIds)
    {partitions : Partitions}
    (found : (after.routePartitions merger [] id).result = .ok partitions) :
    id ∉ report.failedIds ∧ after.partitions.get? id = some partitions := by
  rw [← h.graph.idsOf] at member
  rw [← h.graph.targets] at sound
  have outcome := @Topology.outcome_routes merger report.failedIds after id
  rw [Topology.awaiting_of_sound sound, found] at outcome
  refine ⟨fun failed => ?_, ?_⟩
  · obtain ⟨failure, failed⟩ := mem_failedIds_iff.mp failed
    cases outcome.symm.trans ((h.route_failure_iff member).mp failed)
  · rw [h.routes.held id (mem_sortedIds.mpr member), outcome]
    rfl

end Resolution

end PolicyTopology
