import PolicyTopology.Proofs.Topology.Modes

/-!
# What a node depends on

A node lies on a cone of others: its namespace, the gateways of a route with their classes and
namespaces, the routes of a backend with all that these lie on. Two resolutions of topologies that
agree on the cone of a node come to the same for it, whatever else there is and whatever fails
elsewhere, before or after the node.
-/

namespace PolicyTopology

namespace Topology

variable {merger : PolicyMerger} {mode mode' : ResolutionMode}
  {first second after after' : Topology} {report report' : ResolutionReport}
  {id gateway route backend : ResourceId}

/-- Two topologies have a node in common and agree on its cone, as far as a merger can tell the
policies of a level apart. -/
inductive ConeAgrees (merger : PolicyMerger) (first second : Topology) : ResourceId → Prop where
  | gateway {gateway : ResourceId} (member : gateway ∈ first.idsOf .gateway)
      (member' : gateway ∈ second.idsOf .gateway)
      (agrees : GatewayAgrees (SameLevel merger first second) first second gateway) :
      ConeAgrees merger first second gateway
  | route {route : ResourceId} (member : route ∈ first.idsOf .httpRoute)
      (member' : route ∈ second.idsOf .httpRoute)
      (agrees : RouteAgrees (SameLevel merger first second) first second route) :
      ConeAgrees merger first second route
  | backend {backend : ResourceId} (member : backend ∈ first.idsOf .backend)
      (member' : backend ∈ second.idsOf .backend)
      (agrees : BackendAgrees (SameLevel merger first second) first second backend) :
      ConeAgrees merger first second backend

section Graph

variable (graph : first.SameGraph after) (graph' : second.SameGraph after')

include graph graph'

theorem SameLevel.of_graph {target : Option ResourceId} (h : SameLevel merger first second target) :
    SameLevel merger after after' target := by
  unfold SameLevel
  rw [graph.policiesOn, graph'.policiesOn]
  exact h

theorem NodeAgrees.of_graph (h : NodeAgrees (SameLevel merger first second) first second id) :
    NodeAgrees (SameLevel merger after after') after after' id := by
  refine ⟨?_, ?_, h.own.of_graph graph graph'⟩
  · rw [graph.nameSpace?, graph'.nameSpace?]
    exact h.nameSpace_eq
  · rw [graph.nameSpace?]
    exact h.nameSpace.of_graph graph graph'

theorem GatewayAgrees.of_graph
    (h : GatewayAgrees (SameLevel merger first second) first second gateway) :
    GatewayAgrees (SameLevel merger after after') after after' gateway := by
  refine ⟨h.toNodeAgrees.of_graph graph graph', ?_, ?_⟩
  · rw [graph.target?, graph'.target?]
    exact h.class_eq
  · rw [graph.target?]
    exact h.gatewayClass.of_graph graph graph'

theorem RouteAgrees.of_graph (h : RouteAgrees (SameLevel merger first second) first second route) :
    RouteAgrees (SameLevel merger after after') after after' route := by
  refine ⟨h.toNodeAgrees.of_graph graph graph', ?_, fun gateway member => ?_⟩
  · rw [graph.targets, graph'.targets]
    exact h.gateways_perm
  · rw [graph.targets] at member
    exact (h.gateways gateway member).of_graph graph graph'

theorem BackendAgrees.of_graph
    (h : BackendAgrees (SameLevel merger first second) first second backend) :
    BackendAgrees (SameLevel merger after after') after after' backend := by
  refine ⟨h.toNodeAgrees.of_graph graph graph', ?_, fun route member => ?_⟩
  · rw [graph.sources, graph'.sources]
    exact h.routes_perm
  · rw [graph.sources] at member
    exact (h.routes route member).of_graph graph graph'

theorem ConeAgrees.of_graph (h : ConeAgrees merger first second id) :
    ConeAgrees merger after after' id := by
  cases h with
  | gateway member member' agrees =>
      exact .gateway (graph.idsOf _ ▸ member) (graph'.idsOf _ ▸ member')
        (agrees.of_graph graph graph')
  | route member member' agrees =>
      exact .route (graph.idsOf _ ▸ member) (graph'.idsOf _ ▸ member')
        (agrees.of_graph graph graph')
  | backend member member' agrees =>
      exact .backend (graph.idsOf _ ▸ member) (graph'.idsOf _ ▸ member')
        (agrees.of_graph graph graph')

end Graph

theorem outcome_gateway_congr {failed failed' : List ResourceId}
    (agrees : GatewayAgrees (SameLevel merger after after') after after' gateway) :
    (Pass.gateways merger).outcome after' failed' gateway =
      (Pass.gateways merger).outcome after failed gateway :=
  congrArg Traced.result (gatewayPolicies_of_agrees agrees)

end Topology

namespace Resolution

open PolicyTopology.Topology

variable {merger : PolicyMerger} {mode mode' : ResolutionMode}
  {first second after after' : Topology} {report report' : ResolutionReport}
  {id gateway route backend : ResourceId} {failure : Failure}

/-- The work on a route that has not failed comes to the parts that it holds. -/
theorem outcome_of_sound_route (h : Resolution merger mode first after report)
    (member : route ∈ after.idsOf .httpRoute) (sound : route ∉ report.failedIds) :
    (Pass.routes merger).outcome after report.failedIds route =
      .ok (after.partitions.get? route) := by
  obtain ⟨partitions, found, held, gateways⟩ := h.route_of_sound member sound
  rw [outcome_routes, awaiting_of_sound gateways, found, held]
  rfl

variable (h : Resolution merger mode first after report)
  (h' : Resolution merger mode' second after' report')

include h h'

section Gateways

variable (member : gateway ∈ after.idsOf .gateway) (member' : gateway ∈ after'.idsOf .gateway)
  (agrees : GatewayAgrees (SameLevel merger after after') after after' gateway)

include member member' agrees

theorem gateway_failure_congr :
    ⟨gateway, failure⟩ ∈ report'.failures ↔ ⟨gateway, failure⟩ ∈ report.failures := by
  rw [h.gateway_failure_iff member, h'.gateway_failure_iff member', outcome_gateway_congr agrees]

theorem gateway_failed_congr : gateway ∈ report'.failedIds ↔ gateway ∈ report.failedIds := by
  rw [mem_failedIds_iff, mem_failedIds_iff]
  exact exists_congr fun _ => gateway_failure_congr h h' member member' agrees

theorem gateway_effective_congr (coherent : first.Coherent) (coherent' : second.Coherent)
    (sound : gateway ∉ report.failedIds) :
    after'.effective.get? gateway = after.effective.get? gateway := by
  have sound' := (gateway_failed_congr h h' member member' agrees).not.mpr sound
  have found := h.gateway_of_sound coherent member sound
  have found' := h'.gateway_of_sound coherent' member' sound'
  rw [gatewayPolicies_of_agrees agrees, found] at found'
  exact (Except.ok.inj found').symm

end Gateways

variable (coherent : first.Coherent) (coherent' : second.Coherent)

include coherent coherent'

/-- A route on whose cone two topologies agree comes to the same in both. -/
theorem outcome_route_congr
    (agrees : RouteAgrees (SameLevel merger after after') after after' route) :
    (Pass.routes merger).outcome after' report'.failedIds route =
      (Pass.routes merger).outcome after report.failedIds route := by
  have parents : ∀ gateway ∈ after.targets .routeGateway route,
      gateway ∈ after.idsOf .gateway ∧ gateway ∈ after'.idsOf .gateway := fun gateway target =>
    ⟨h.coherent.gateway_of_target target,
      h'.coherent.gateway_of_target (agrees.gateways_perm.mem_iff.mpr target)⟩
  have failed_iff : ∀ gateway ∈ after.targets .routeGateway route,
      (gateway ∈ report'.failedIds ↔ gateway ∈ report.failedIds) := fun gateway target =>
    gateway_failed_congr h h' (parents gateway target).1 (parents gateway target).2
      (agrees.gateways gateway target)
  rw [outcome_routes, outcome_routes]
  refine awaiting_congr agrees.gateways_perm failed_iff fun sound => ?_
  rw [routePartitions_of_agrees agrees.toNodeAgrees agrees.gateways_perm (fun _ _ => .rfl)
    fun gateway target => gateway_effective_congr h h' (parents gateway target).1
      (parents gateway target).2 (agrees.gateways gateway target) coherent coherent'
      (sound gateway target)]

section Routes

variable (member : route ∈ after.idsOf .httpRoute) (member' : route ∈ after'.idsOf .httpRoute)
  (agrees : RouteAgrees (SameLevel merger after after') after after' route)

include member member' agrees

theorem route_failure_congr :
    ⟨route, failure⟩ ∈ report'.failures ↔ ⟨route, failure⟩ ∈ report.failures := by
  rw [h.route_failure_iff member, h'.route_failure_iff member',
    outcome_route_congr h h' coherent coherent' agrees]

theorem route_failed_congr : route ∈ report'.failedIds ↔ route ∈ report.failedIds := by
  rw [mem_failedIds_iff, mem_failedIds_iff]
  exact exists_congr fun _ => route_failure_congr h h' coherent coherent' member member' agrees

theorem route_partitions_congr (sound : route ∉ report.failedIds) :
    after'.partitions.get? route = after.partitions.get? route := by
  have sound' := (route_failed_congr h h' coherent coherent' member member' agrees).not.mpr sound
  have found := h.outcome_of_sound_route member sound
  have found' := h'.outcome_of_sound_route member' sound'
  rw [outcome_route_congr h h' coherent coherent' agrees, found] at found'
  exact (Except.ok.inj found').symm

end Routes

/-- A backend on whose cone two topologies agree comes to the same in both. -/
theorem outcome_backend_congr
    (agrees : BackendAgrees (SameLevel merger after after') after after' backend) :
    (Pass.backends merger).outcome after' report'.failedIds backend =
      (Pass.backends merger).outcome after report.failedIds backend := by
  have ways : ∀ route ∈ after.sources .routeBackend backend,
      route ∈ after.idsOf .httpRoute ∧ route ∈ after'.idsOf .httpRoute := fun route source =>
    ⟨h.coherent.route_of_source source,
      h'.coherent.route_of_source (agrees.routes_perm.mem_iff.mpr source)⟩
  have failed_iff : ∀ route ∈ after.sources .routeBackend backend,
      (route ∈ report'.failedIds ↔ route ∈ report.failedIds) := fun route source =>
    route_failed_congr h h' coherent coherent' (ways route source).1 (ways route source).2
      (agrees.routes route source)
  rw [outcome_backends, outcome_backends]
  refine awaiting_congr agrees.routes_perm failed_iff fun sound => ?_
  rw [backendPartitions_of_agrees agrees.toNodeAgrees agrees.routes_perm (fun _ _ => .rfl)
    fun route source => route_partitions_congr h h' coherent coherent' (ways route source).1
      (ways route source).2 (agrees.routes route source) (sound route source)]

end Resolution

namespace Topology

/-- Two resolutions come to the same for a node: it fails in the same ways in both, and holds the
same afterwards. -/
structure SameOutcome (id : ResourceId) (report report' : ResolutionReport)
    (after after' : Topology) : Prop where
  failure_iff : ∀ failure, ⟨id, failure⟩ ∈ report'.failures ↔ ⟨id, failure⟩ ∈ report.failures
  effective : id.nodeKind = .gateway → after'.effective.get? id = after.effective.get? id
  partitions : id.nodeKind ≠ .gateway → after'.partitions.get? id = after.partitions.get? id

variable {merger : PolicyMerger} {admitted : Policy → Prop} {first second : Topology}
  {id : ResourceId}

/-- With a merger that raises nothing but conflicts, what a best-effort resolution comes to for a
node is determined by the cone of the node and by what the node held before. -/
theorem resolve_determined_by_cone (law : merger.RaisesOnlyConflicts admitted)
    (reachable : first.Reachable) (reachable' : second.Reachable)
    (admits : first.Admits admitted) (admits' : second.Admits admitted)
    (cone : ConeAgrees merger first second id) (start : SameResolved id second first) :
    ∃ report after report' after',
      (resolve merger .bestEffort).run first = (.ok report, after) ∧
      (resolve merger .bestEffort).run second = (.ok report', after') ∧
      SameOutcome id report report' after after' := by
  have coherent := reachable.coherent
  have coherent' := reachable'.coherent
  obtain ⟨report, after, run⟩ := resolve_bestEffort_total law coherent admits
  obtain ⟨report', after', run'⟩ := resolve_bestEffort_total law coherent' admits'
  have h := resolution_of_run coherent run
  have h' := resolution_of_run coherent' run'
  refine ⟨report, after, report', after', run, run', ?_⟩
  cases cone.of_graph h.graph h'.graph with
  | gateway member member' agrees =>
      refine ⟨fun _ => h.gateway_failure_congr h' member member' agrees, fun _ => ?_,
        fun other => absurd (nodeKind_of_mem_idsOf member) other⟩
      rw [h.gateways.held id (mem_sortedIds.mpr member),
        h'.gateways.held id (mem_sortedIds.mpr member'), outcome_gateway_congr agrees, start.1]
  | route member member' agrees =>
      refine ⟨fun _ => h.route_failure_congr h' coherent coherent' member member' agrees,
        fun ofKind => ?_, fun _ => ?_⟩
      · exact nomatch (nodeKind_of_mem_idsOf member).symm.trans ofKind
      · rw [h.routes.held id (mem_sortedIds.mpr member),
          h'.routes.held id (mem_sortedIds.mpr member'),
          h.outcome_route_congr h' coherent coherent' agrees, start.2]
  | backend member member' agrees =>
      have same := h.outcome_backend_congr h' coherent coherent' agrees
      refine ⟨fun _ => ?_, fun ofKind => ?_, fun _ => ?_⟩
      · rw [h.backend_failure_iff member, h'.backend_failure_iff member', same]
      · exact nomatch (nodeKind_of_mem_idsOf member).symm.trans ofKind
      · rw [h.backends.held id (mem_sortedIds.mpr member),
          h'.backends.held id (mem_sortedIds.mpr member'), same, start.2]

/-- The same beside one more gateway that contradicts the class. -/
def crowdedRoute : Topology :=
  [Operation.insert (.gateway ⟨"n", "a", "c"⟩),
    .connect .gatewayClass (.gateway "n" "a") (.gatewayClass "c"),
    .attach (quotaFor "t" "Gateway" "a" (.int 2))].foldl Operation.apply sharedRoute

set_option maxRecDepth 4000 in
theorem policiesOn_crowdedRoute :
    (crowdedRoute.policiesOn (some (.gatewayClass "c")) = [classQuota] ∧
      crowdedRoute.policiesOn (some (.gateway "n" "a")) =
        [quotaFor "t" "Gateway" "a" (.int 2)]) ∧
    crowdedRoute.policiesOn (some (.gateway "n" "g")) = [] ∧
    crowdedRoute.policiesOn (some (.gateway "n" "h")) = [] ∧
    crowdedRoute.policiesOn (some (.httpRoute "n" "r")) = [] :=
  ⟨⟨(rfl), (rfl)⟩, (rfl), (rfl), (rfl)⟩

theorem graph_crowdedRoute :
    (∀ id ∈ [ResourceId.gateway "n" "g", .gateway "n" "h", .httpRoute "n" "r"],
      sharedRoute.nameSpace? id = none ∧ crowdedRoute.nameSpace? id = none) ∧
    (.httpRoute "n" "r" ∈ sharedRoute.idsOf .httpRoute ∧
      .httpRoute "n" "r" ∈ crowdedRoute.idsOf .httpRoute) ∧
    (∀ topology ∈ [sharedRoute, crowdedRoute],
      topology.target? .gatewayClass (.gateway "n" "g") = some (.gatewayClass "c") ∧
      topology.target? .gatewayClass (.gateway "n" "h") = none ∧
      topology.targets .routeGateway (.httpRoute "n" "r") =
        [.gateway "n" "h", .gateway "n" "g"]) ∧
    (.gateway "n" "a" ∈ crowdedRoute.idsOf .gateway ∧
      crowdedRoute.nameSpace? (.gateway "n" "a") = none ∧
      crowdedRoute.target? .gatewayClass (.gateway "n" "a") = some (.gatewayClass "c")) := by
  decide +kernel

theorem coneAgrees_crowdedRoute : ConeAgrees MergerRegistry.specifications.toPolicyMerger
    sharedRoute crowdedRoute (.httpRoute "n" "r") := by
  obtain ⟨⟨ofClass, _⟩, ofG, ofH, ofR⟩ := policiesOn_crowdedRoute
  obtain ⟨nameSpaces, ⟨member, member'⟩, edges, _⟩ := graph_crowdedRoute
  obtain ⟨classOfG, classOfH, gateways⟩ := edges sharedRoute (by simp)
  obtain ⟨classOfG', classOfH', gateways'⟩ := edges crowdedRoute (by simp)
  have agrees : ∀ id ∈ [ResourceId.gateway "n" "g", .gateway "n" "h", .httpRoute "n" "r"],
      sharedRoute.policiesOn (some id) = [] → crowdedRoute.policiesOn (some id) = [] →
      NodeAgrees (SameLevel MergerRegistry.specifications.toPolicyMerger sharedRoute crowdedRoute)
        sharedRoute crowdedRoute id := by
    intro id among own own'
    obtain ⟨bare, bare'⟩ := nameSpaces id among
    refine ⟨bare'.trans bare.symm, ?_, sameLevel_of_eq (own'.trans own.symm)⟩
    rw [bare]
    exact sameLevel_none ..
  refine .route member member' ⟨agrees _ (by simp) rfl ofR, .of_eq (gateways'.trans gateways.symm),
    fun gateway target => ?_⟩
  rw [gateways] at target
  simp only [List.mem_cons, List.not_mem_nil, or_false] at target
  rcases target with rfl | rfl
  · refine ⟨agrees _ (by simp) rfl ofH, classOfH'.trans classOfH.symm, ?_⟩
    rw [classOfH]
    exact sameLevel_none ..
  · refine ⟨agrees _ (by simp) rfl ofG, classOfG'.trans classOfG.symm, ?_⟩
    rw [classOfG]
    exact sameLevel_of_eq ofClass

set_option maxRecDepth 4000 in
theorem policies_crowdedRoute : crowdedRoute.policies.entries.map (fun entry => entry.2.policy) =
    [classQuota, quotaFor "q" "Gateway" "k" (.int 2), quotaFor "t" "Gateway" "a" (.int 2)] := (rfl)

theorem shaped_crowdedRoute : crowdedRoute.Admits Policy.Shaped := by
  intro id attachment stored
  have member := List.mem_map_of_mem (f := fun entry => entry.2.policy)
    (Table.mem_entries_iff.mpr stored)
  rw [policies_crowdedRoute] at member
  simp only [List.mem_cons, List.not_mem_nil, or_false] at member
  rcases member with same | same | same
  · rw [same]
    exact shaped_quotaFor ..
  · rw [same]
    exact shaped_quotaFor ..
  · rw [same]
    exact shaped_quotaFor ..

set_option maxRecDepth 4000 in
theorem sameResolved_crowdedRoute :
    SameResolved (.httpRoute "n" "r") crowdedRoute sharedRoute := by
  have crowded : crowdedRoute.effective.get? (.httpRoute "n" "r") = none ∧
    crowdedRoute.partitions.get? (.httpRoute "n" "r") = none := ⟨(rfl), (rfl)⟩
  have shared : sharedRoute.effective.get? (.httpRoute "n" "r") = none ∧
    sharedRoute.partitions.get? (.httpRoute "n" "r") = none := ⟨(rfl), (rfl)⟩
  exact ⟨crowded.1.trans shared.1.symm, crowded.2.trans shared.2.symm⟩

/-- In the crowded topology the gateway that was added fails as well. -/
theorem gateway_failed_crowdedRoute (h : Resolution MergerRegistry.specifications.toPolicyMerger
    mode crowdedRoute after report) :
    ⟨.gateway "n" "a", .conflict quotaClash⟩ ∈ report.failures := by
  obtain ⟨⟨ofClass, own⟩, _⟩ := policiesOn_crowdedRoute
  obtain ⟨_, _, _, member, bare, classed⟩ := graph_crowdedRoute
  have ofNameSpace : crowdedRoute.policiesOn (crowdedRoute.nameSpace? (.gateway "n" "a")) = [] := by
    rw [bare]
    rfl
  have failed := gatewayPolicies_conflict classed ofClass ofNameSpace own rfl rfl
  rw [← h.graph.idsOf] at member
  refine (h.gateway_failure_iff member).mpr ?_
  rw [← failed, ← gatewayPolicies_congr _ h.graph]
  rfl

/-- The route comes to the quota of the class in both, although one more gateway fails in one of
them. -/
theorem resolve_determined_by_cone_crowdedRoute :
    ConeAgrees MergerRegistry.specifications.toPolicyMerger sharedRoute crowdedRoute
      (.httpRoute "n" "r") ∧
    ∃ report after report' after',
      (resolve MergerRegistry.specifications.toPolicyMerger .bestEffort).run sharedRoute =
        (.ok report, after) ∧
      (resolve MergerRegistry.specifications.toPolicyMerger .bestEffort).run crowdedRoute =
        (.ok report', after') ∧
      SameOutcome (.httpRoute "n" "r") report report' after after' ∧
      ⟨.gateway "n" "a", .conflict quotaClash⟩ ∈ report'.failures ∧
      .gateway "n" "a" ∉ report.failedIds ∧
      after'.partitions.get? (.httpRoute "n" "r") =
        some (Table.empty.set (.gateway "n" "g") (onlyQuota classQuota)) := by
  have reachable : sharedRoute.Reachable := .applyAll .empty _
  have reachable' : crowdedRoute.Reachable := .applyAll reachable _
  obtain ⟨report, after, report', after', run, run', same⟩ := resolve_determined_by_cone
    MergerRegistry.specifications_raisesOnlyConflicts reachable reachable' shaped_sharedRoute
    shaped_crowdedRoute coneAgrees_crowdedRoute sameResolved_crowdedRoute
  have h := resolution_of_run reachable.coherent run
  have h' := resolution_of_run reachable'.coherent run'
  refine ⟨coneAgrees_crowdedRoute, report, after, report', after', run, run', same,
    gateway_failed_crowdedRoute h', fun failed => ?_, ?_⟩
  · obtain ⟨failure, failed⟩ := Resolution.mem_failedIds_iff.mp failed
    have absent : ∀ kind, .gateway "n" "a" ∉ after.idsOf kind := fun kind => by
      rw [h.graph.idsOf]
      cases kind <;> decide
    rcases h.mem_failures_iff.mp failed with ⟨member, _⟩ | ⟨member, _⟩ | ⟨member, _⟩ <;>
      exact absent _ member
  · rw [same.partitions (by decide)]
    exact (partitions_sharedRoute h).2

end Topology

end PolicyTopology
