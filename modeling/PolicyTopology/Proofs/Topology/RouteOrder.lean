import PolicyTopology.Proofs.Policy.OneKind
import PolicyTopology.Proofs.Topology.Conflict
import PolicyTopology.Proofs.Topology.Origin

/-!
# The order of the routes of a backend

With the registry that merges specifications, what the routes of a backend have for a gateway is
reconciled route by route, in order of the identities of the routes. The outcome is in order of
precedence of the policies if their identities come in an orderly sequence. In any other sequence it
depends on the order of the routes.
-/

namespace PolicyTopology

namespace Topology

open MergerRegistry (joined mergeInPrecedence)
open Table (gather)

variable {before after topology : Topology} {mode : ResolutionMode} {report : ResolutionReport}
  {backend gateway : ResourceId} {kind : MergeKind} {policy : Policy}

/-- The policies of a kind that the routes of a backend have for a gateway, in order of the
identities of the routes. -/
def peersAt (topology : Topology) (backend gateway : ResourceId) (kind : MergeKind) : List Policy :=
  (topology.visits backend gateway).filterMap fun visit => visit.2.get? kind

theorem mem_peersAt : policy ∈ topology.peersAt backend gateway kind ↔
    ∃ route ∈ topology.sources .routeBackend backend, ∃ partitions part,
      topology.partitions.get? route = some partitions ∧ partitions.get? gateway = some part ∧
        part.get? kind = some policy := by
  simp only [peersAt, List.mem_filterMap, Prod.exists, mem_visits]
  constructor
  · rintro ⟨route, part, ⟨source, partitions, held, stored⟩, found⟩
    exact ⟨route, source, partitions, part, held, stored, found⟩
  · rintro ⟨route, source, partitions, part, held, stored, found⟩
    exact ⟨route, part, ⟨source, partitions, held, stored⟩, found⟩

section Resolved

variable (h : Resolution MergerRegistry.specifications.toPolicyMerger mode before after report)
  (coherent : before.Coherent) (shaped : before.Admits Policy.Shaped)

include h coherent shaped

/-- Where the entries of a gateway come from. -/
theorem gatewayEntry_of_held {policies : PoliciesByKind} (member : gateway ∈ after.idsOf .gateway)
    (sound : gateway ∉ report.failedIds) (held : after.effective.get? gateway = some policies)
    (found : policies.get? kind = some policy) : after.GatewayEntry kind gateway policy := by
  have admitted := h.admits shaped
  obtain ⟨gatewayClass, ofClass, ofNameSpace, own, target, classes, nameSpaces, owns, layers⟩ :=
    exists_gatewayLevels h coherent member sound held
  obtain ⟨result, hclasses⟩ := levelOn_shaped admitted classes
  refine ⟨ofClass.get? kind,
    nodeEntry_of_layered admitted hclasses nameSpaces owns layers found, ?_⟩
  intro policy found
  refine ⟨gatewayClass, ?_, ofClass, result, found⟩
  have ends := (h.coherent.outgoing_ends (List.mem_of_head? target)).2
  exact nodeKind_of_mem_idsOf (hasNode_iff.mp ends)

/-- Where the entries of a route for a gateway come from. -/
theorem routeEntry_of_held {route : ResourceId} {partitions : Partitions} {part : PoliciesByKind}
    (member : route ∈ after.idsOf .httpRoute) (sound : route ∉ report.failedIds)
    (held : after.partitions.get? route = some partitions)
    (stored : partitions.get? gateway = some part) (found : part.get? kind = some policy) :
    policy.Shaped ∧ gateway ∈ after.idsOf .gateway ∧ gateway ∉ report.failedIds ∧ ∃ policies,
      after.effective.get? gateway = some policies ∧
        after.NodeEntry kind (policies.get? kind) route policy := by
  obtain ⟨partitions', result, held', gateways⟩ := h.route_of_sound member sound
  rw [held] at held'
  cases held'
  obtain ⟨ofNameSpace, own, parts⟩ := routeParts_of_ok result
  obtain ⟨target, policies, effective, layers⟩ := parts.part stored
  have node := h.coherent.gateway_of_target target
  have hpolicies := h.gateway_admitted MergerRegistry.specifications_raisesOnlyConflicts coherent
    shaped node (gateways gateway target) effective
  have hpart := h.route_admitted MergerRegistry.specifications_raisesOnlyConflicts coherent shaped
    member sound held gateway part stored
  exact ⟨hpart kind policy found, node, gateways gateway target, policies, effective,
    nodeEntry_of_layered (h.admits shaped) hpolicies parts.ofNameSpace_eq parts.own_eq layers found⟩

/-- Policies of one identity that the routes of a backend have for a gateway show the same. -/
theorem alike_peersAt
    (routes : ∀ route ∈ after.sources .routeBackend backend, route ∉ report.failedIds)
    (inherited : ∀ peer ∈ after.peersAt backend gateway kind, peer.inherited = true) {name : String}
    (member : name ∈ ["default", "override"]) :
    Policy.Alike name (after.peersAt backend gateway kind) := by
  intro first visited second visited' same path
  obtain ⟨entry, among, rfl⟩ := List.mem_map.mp visited
  obtain ⟨other, among', rfl⟩ := List.mem_map.mp visited'
  obtain ⟨route, source, partitions, part, held, stored, found⟩ := mem_peersAt.mp among
  obtain ⟨route', source', partitions', part', held', stored', found'⟩ := mem_peersAt.mp among'
  have node := h.coherent.route_of_source source
  have node' := h.coherent.route_of_source source'
  obtain ⟨hentry, atGateway, sound, policies, effective, origin⟩ :=
    routeEntry_of_held h coherent shaped node (routes route source) held stored found
  obtain ⟨hother, _, _, policies', effective', origin'⟩ :=
    routeEntry_of_held h coherent shaped node' (routes route' source') held' stored' found'
  rw [effective] at effective'
  cases effective'
  have above : ∀ policy, policies.get? kind = some policy →
      after.GatewayEntry kind gateway policy := fun policy found =>
    gatewayEntry_of_held h coherent shaped atGateway sound effective found
  rcases origin.sameLook h.coherent (h.admits shaped) (nodeKind_of_mem_idsOf atGateway) above
    (nodeKind_of_mem_idsOf node) (nodeKind_of_mem_idsOf node') origin' same
    ⟨hentry, inherited entry among⟩ ⟨hother, inherited other among'⟩ with rfl | look
  · cases held.symm.trans held'
    cases stored.symm.trans stored'
    cases found.symm.trans found'
    rfl
  · exact look name member path

theorem shaped_peersAt
    (routes : ∀ route ∈ after.sources .routeBackend backend, route ∉ report.failedIds) :
    ∀ peer ∈ after.peersAt backend gateway kind, peer.Shaped := by
  intro peer among
  obtain ⟨route, source, partitions, part, held, stored, found⟩ := mem_peersAt.mp among
  have node := h.coherent.route_of_source source
  exact (routeEntry_of_held h coherent shaped node (routes route source) held stored found).1

omit coherent shaped in
/-- What the routes of a backend that has not failed have for a gateway is reconciled. -/
theorem exists_reconciled_peersAt (member : backend ∈ after.idsOf .backend)
    (sound : backend ∉ report.failedIds) :
    (∀ route ∈ after.sources .routeBackend backend, route ∉ report.failedIds) ∧ ∃ reconciled,
      (reconcileRoutes MergerRegistry.specifications.toPolicyMerger after
        (sortedIds (after.sources .routeBackend backend))).result = .ok reconciled ∧
      ∀ gateway kind, Policy.reconciled (after.peersAt backend gateway kind) =
        .ok ((reconciled.get? gateway).bind (·.get? kind)) := by
  obtain ⟨partitions, result, _, routes⟩ := h.backend_of_sound member sound
  obtain ⟨ofNameSpace, own, reconciled, parts⟩ := backendParts_of_ok result
  refine ⟨routes, reconciled, parts.routes_eq, fun gateway kind => ?_⟩
  have gathered := parts.reconciled_eq gateway
  simp only [Merging.result_atNode, Table.gather_mapError, Except.mapError_ok_iff] at gathered
  have entries := (MergerRegistry.tabulates_gather_reconcile _ none).ok gathered kind
  rw [List.filterMap_map] at entries
  exact entries

end Resolved

/-- The policies of a kind that the routes of a backend have for a gateway, if some are inherited,
are reconciled to one policy. It is in order of precedence if the identities of the policies come in
an orderly sequence; if they do not, there are defaults of policies of these identities for which it
is not. -/
theorem resolve_reconciles_orderly (reachable : before.Reachable)
    (sectioned : before.Admits Policy.Sectioned)
    (run : (resolve MergerRegistry.specifications.toPolicyMerger mode).run before =
      (.ok report, after))
    (member : backend ∈ before.idsOf .backend) (sound : backend ∉ report.failedIds)
    (inherited : ∃ peer ∈ after.peersAt backend gateway kind, peer.inherited = true) :
    ∃ reconciled part merged,
      (reconcileRoutes MergerRegistry.specifications.toPolicyMerger after
        (sortedIds (after.sources .routeBackend backend))).result = .ok reconciled ∧
      reconciled.get? gateway = some part ∧ part.get? kind = some merged ∧
      (Orderly ((after.peersAt backend gateway kind).map Policy.identity) →
        ∀ name ∈ ["default", "override"],
          Policy.InPrecedence name (after.peersAt backend gateway kind) merged) ∧
      (Orderly ((after.peersAt backend gateway kind).map Policy.identity) ↔
        ∀ contents other,
          Policy.reconciled (Policy.respecified contents (after.peersAt backend gateway kind)) =
            .ok (some other) →
          Policy.InPrecedence "default"
            (Policy.respecified contents (after.peersAt backend gateway kind)) other) := by
  have coherent := reachable.coherent
  have shaped := coherent.admits_shaped sectioned
  have h := resolution_of_run coherent run
  obtain ⟨routes, reconciled, result, gathered⟩ :=
    exists_reconciled_peersAt h (h.graph.idsOf _ ▸ member) sound
  have gathered := gathered gateway kind
  have hpeers : ∀ peer ∈ after.peersAt backend gateway kind, peer.Shaped :=
    shaped_peersAt h coherent shaped routes
  obtain ⟨peer, among, _⟩ := id inherited
  obtain ⟨merged, found⟩ := Table.exists_of_gather (List.ne_nil_of_mem among) gathered
  obtain ⟨part, stored, entry⟩ := Option.bind_eq_some_iff.mp found
  rw [found] at gathered
  obtain ⟨kind', peers⟩ := Policy.exists_isPeer hpeers gathered inherited
  refine ⟨reconciled, part, merged, result, stored, entry, ?_, Policy.orderly_iff peers⟩
  intro orderly name listed
  exact Policy.inPrecedence_of_orderly peers (alike_peersAt h coherent shaped routes
    (fun peer among => (peers peer among).inherited) listed) orderly gathered listed

/-- Three routes of a backend with policies whose identities come out of order, and whose defaults
are such that it matters. -/
def threeRoutes : Topology :=
  [Operation.insert (.gatewayClass ⟨"c", ""⟩), .insert (.gateway ⟨"n", "g", "c"⟩),
    .insert (.httpRoute ⟨"n", "r1", [], []⟩), .insert (.httpRoute ⟨"n", "r2", [], []⟩),
    .insert (.httpRoute ⟨"n", "r3", [], []⟩), .insert (.backend ⟨"n", "b", "", "Service"⟩),
    .connect .gatewayClass (.gateway "n" "g") (.gatewayClass "c"),
    .connect .routeGateway (.httpRoute "n" "r1") (.gateway "n" "g"),
    .connect .routeGateway (.httpRoute "n" "r2") (.gateway "n" "g"),
    .connect .routeGateway (.httpRoute "n" "r3") (.gateway "n" "g"),
    .connect .routeBackend (.httpRoute "n" "r1") (.backend "" "Service" "n" "b"),
    .connect .routeBackend (.httpRoute "n" "r2") (.backend "" "Service" "n" "b"),
    .connect .routeBackend (.httpRoute "n" "r3") (.backend "" "Service" "n" "b"),
    .attach (limit "a" "HTTPRoute" "r1" [("default", .object [("y", .int 0)])]),
    .attach (limit "c" "HTTPRoute" "r2" [("default", .object [("x", .int 3)])]),
    .attach (limit "b" "HTTPRoute" "r3" [("default", .object [("x", .int 2)])])].foldl
    Operation.apply .empty

def threePolicies : List Policy :=
  [limit "a" "HTTPRoute" "r1" [("default", .object [("y", .int 0)])],
    limit "c" "HTTPRoute" "r2" [("default", .object [("x", .int 3)])],
    limit "b" "HTTPRoute" "r3" [("default", .object [("x", .int 2)])]]

theorem admits_threeRoutes : threeRoutes.Admits (· ∈ threePolicies) := by
  intro id attachment stored
  exact List.mem_map_of_mem (f := fun entry => entry.2.policy) (Table.mem_entries_iff.mpr stored)

theorem sectioned_threePolicies : ∀ policy ∈ threePolicies, policy.Sectioned := by
  intro policy member
  simp only [threePolicies, List.mem_cons, List.not_mem_nil, or_false] at member
  rcases member with same | same | same
  · rw [same]
    exact sectioned_limit (by decide)
  · rw [same]
    exact sectioned_limit (by decide)
  · rw [same]
    exact sectioned_limit (by decide)

theorem sectioned_threeRoutes : threeRoutes.Admits Policy.Sectioned :=
  admits_threeRoutes.imp sectioned_threePolicies

theorem compatible_threePolicies : ∀ first second, first ∈ threePolicies → second ∈ threePolicies →
    first.Compatible second := by
  have each : ∀ policy ∈ threePolicies,
      policy.kind = .ok ⟨"example.com", "Limit"⟩ ∧ policy.inherited = true := by
    intro policy member
    simp only [threePolicies, List.mem_cons, List.not_mem_nil, or_false] at member
    rcases member with rfl | rfl | rfl <;> exact ⟨rfl, rfl⟩
  intro first second member member'
  obtain ⟨kind, inherited⟩ := each first member
  obtain ⟨kind', inherited'⟩ := each second member'
  exact .of_inherited (kind.trans kind'.symm) inherited inherited'

/-- Under a kind for which the ancestors and the namespace have nothing, a node has what it has on
its own. -/
theorem get?_of_layered {ancestors ofNameSpace own part : PoliciesByKind}
    (layers :
      layered MergerRegistry.specifications.toPolicyMerger ancestors ofNameSpace own = .ok part)
    (noAncestor : ancestors.get? kind = none) (noNameSpace : ofNameSpace.get? kind = none) :
    part.get? kind = own.get? kind := by
  obtain ⟨middle, _, joins⟩ := joins_of_layered layers
  obtain ⟨lower, upper⟩ := joins kind
  rw [noAncestor, noNameSpace] at lower
  rw [lower.unique (.left _)] at upper
  cases found : own.get? kind with
  | none =>
      rw [found] at upper
      exact upper.unique (.left _)
  | some policy =>
      rw [found] at upper
      exact upper.unique (.right _)

section Bare

variable (h : Resolution MergerRegistry.specifications.toPolicyMerger mode before after report)

include h

/-- A gateway that no policies reach holds no entries. -/
theorem exists_effective_of_bare {gatewayClass : ResourceId} (coherent : before.Coherent)
    (member : gateway ∈ after.idsOf .gateway) (sound : gateway ∉ report.failedIds)
    (target : after.target? .gatewayClass gateway = some gatewayClass)
    (classes : after.policiesOn (some gatewayClass) = [])
    (nameSpaces : after.policiesOn (after.nameSpace? gateway) = [])
    (owns : after.policiesOn (some gateway) = []) : ∃ policies,
      after.effective.get? gateway = some policies ∧ ∀ kind, policies.get? kind = none := by
  have result := h.gateway_of_sound coherent member sound
  rw [result_gatewayPolicies target, levelOn_of_nil classes, levelOn_of_nil nameSpaces,
    levelOn_of_nil owns] at result
  obtain ⟨policies, layers, same⟩ := Except.map_ok_iff.mp result
  exact ⟨policies, same.symm, fun kind => get?_of_layered layers rfl rfl⟩

/-- A route that only a policy of its own reaches has this policy for such a gateway. -/
theorem exists_part_of_lone {route id : ResourceId} {policies : PoliciesByKind}
    (member : route ∈ after.idsOf .httpRoute) (sound : route ∉ report.failedIds)
    (target : gateway ∈ after.targets .routeGateway route)
    (effective : after.effective.get? gateway = some policies)
    (without : ∀ kind, policies.get? kind = none)
    (nameSpaces : after.policiesOn (after.nameSpace? route) = [])
    (owns : after.policiesOn (some route) = [policy]) (found : policy.id = .ok id) :
    ((after.partitions.get? route).bind (·.get? gateway)).bind
      (·.get? (MergerRegistry.kindOf id)) = some policy := by
  obtain ⟨partitions, result, held, _⟩ := h.route_of_sound member sound
  obtain ⟨ofNameSpace, own, parts⟩ := routeParts_of_ok result
  obtain ⟨part, stored⟩ := parts.hasPart target effective
  obtain ⟨_, policies', effective', layers⟩ := parts.part stored
  cases effective.symm.trans effective'
  cases (levelOn_of_nil nameSpaces).symm.trans parts.ofNameSpace_eq
  cases (levelOn_of_singleton owns found).symm.trans parts.own_eq
  rw [held, Option.bind_some, stored, Option.bind_some, get?_of_layered layers (without _) rfl,
    Table.get?_set_self]

end Bare

theorem peersAt_eq : topology.peersAt backend gateway kind =
    (sortedIds (topology.sources .routeBackend backend)).filterMap fun route =>
      ((topology.partitions.get? route).bind (·.get? gateway)).bind (·.get? kind) := by
  rw [peersAt, visits, ← sortedIds_eq, List.filterMap_filterMap]
  refine congrArg (fun f => List.filterMap f _) (funext fun route => ?_)
  rw [Option.bind_map]
  rfl

/-- In the end each route has its own policy for the gateway. -/
theorem peersAt_threeRoutes
    (h : Resolution MergerRegistry.specifications.toPolicyMerger mode threeRoutes after report)
    (sound : ∀ id, id ∉ report.failedIds) :
    after.peersAt (.backend "" "Service" "n" "b") (.gateway "n" "g") ⟨"example.com", "Limit"⟩ =
      threePolicies := by
  have coherent : threeRoutes.Coherent := (Reachable.applyAll .empty _).coherent
  obtain ⟨policies, effective, without⟩ := exists_effective_of_bare h coherent
    (show .gateway "n" "g" ∈ after.idsOf .gateway from h.graph.idsOf _ ▸ by decide) (sound _)
    ((h.graph.target? _ _).trans rfl) ((h.graph.policiesOn _).trans rfl)
    ((h.graph.policiesOn _).trans (h.graph.nameSpace? _ ▸ rfl)) ((h.graph.policiesOn _).trans rfl)
  have lone : ∀ {name policyName : String} {policy : Policy}, name ∈ ["r1", "r2", "r3"] →
      threeRoutes.targets .routeGateway (.httpRoute "n" name) = [.gateway "n" "g"] →
      threeRoutes.policiesOn (threeRoutes.nameSpace? (.httpRoute "n" name)) = [] →
      threeRoutes.policiesOn (some (.httpRoute "n" name)) = [policy] →
      policy.id = .ok (.policy "example.com" "Limit" "n" policyName) →
      ((after.partitions.get? (.httpRoute "n" name)).bind (·.get? (.gateway "n" "g"))).bind
        (·.get? ⟨"example.com", "Limit"⟩) = some policy := by
    intro name policyName policy listed targets nameSpaces owns found
    have member : .httpRoute "n" name ∈ after.idsOf .httpRoute := by
      rw [h.graph.idsOf]
      simp only [List.mem_cons, List.not_mem_nil, or_false] at listed
      rcases listed with rfl | rfl | rfl <;> decide
    refine exists_part_of_lone h member (sound _) ?_ effective without ?_ ?_ found
    · rw [h.graph.targets, targets]
      exact List.mem_singleton.mpr rfl
    · rwa [h.graph.policiesOn, h.graph.nameSpace?]
    · rwa [h.graph.policiesOn]
  have sources : after.sources .routeBackend (.backend "" "Service" "n" "b") =
      ["r1", "r2", "r3"].map (ResourceId.httpRoute "n") := (h.graph.sources _ _).trans rfl
  rw [peersAt_eq, sources, sortedIds_of_ascending (by decide)]
  have first := @lone "r1" "a" (limit "a" "HTTPRoute" "r1" [("default", .object [("y", .int 0)])])
    (by decide) rfl rfl rfl rfl
  have second := @lone "r2" "c" (limit "c" "HTTPRoute" "r2" [("default", .object [("x", .int 3)])])
    (by decide) rfl rfl rfl rfl
  have third := @lone "r3" "b" (limit "b" "HTTPRoute" "r3" [("default", .object [("x", .int 2)])])
    (by decide) rfl rfl rfl rfl
  simp only [List.map_cons, List.map_nil, List.filterMap_cons, List.filterMap_nil, first, second,
    third]
  rfl

theorem resolution_threeRoutes : ∃ report after,
    (resolve MergerRegistry.specifications.toPolicyMerger .bestEffort).run threeRoutes =
      (.ok report, after) ∧
    Resolution MergerRegistry.specifications.toPolicyMerger .bestEffort threeRoutes after report ∧
    ∀ id, id ∉ report.failedIds := by
  have reachable : threeRoutes.Reachable := .applyAll .empty _
  obtain ⟨report, after, run, sound⟩ := resolve_of_compatible reachable admits_threeRoutes
    sectioned_threePolicies compatible_threePolicies
  exact ⟨report, after, run, resolution_of_run reachable.coherent run, sound⟩

theorem resolve_reconciles_orderly_threeRoutes : threeRoutes.Admits Policy.Sectioned ∧
    ∃ report after,
      (resolve MergerRegistry.specifications.toPolicyMerger .bestEffort).run threeRoutes =
        (.ok report, after) ∧
      .backend "" "Service" "n" "b" ∉ report.failedIds ∧
      after.peersAt (.backend "" "Service" "n" "b") (.gateway "n" "g") ⟨"example.com", "Limit"⟩ =
        threePolicies ∧
      ∃ reconciled part merged,
        (reconcileRoutes MergerRegistry.specifications.toPolicyMerger after (sortedIds
          (after.sources .routeBackend (.backend "" "Service" "n" "b")))).result = .ok reconciled ∧
        reconciled.get? (.gateway "n" "g") = some part ∧
        part.get? ⟨"example.com", "Limit"⟩ = some merged ∧
        (Orderly (threePolicies.map Policy.identity) →
          ∀ name ∈ ["default", "override"], Policy.InPrecedence name threePolicies merged) ∧
        (Orderly (threePolicies.map Policy.identity) ↔ ∀ contents other,
          Policy.reconciled (Policy.respecified contents threePolicies) = .ok (some other) →
          Policy.InPrecedence "default" (Policy.respecified contents threePolicies) other) := by
  obtain ⟨report, after, run, h, sound⟩ := resolution_threeRoutes
  have peers := peersAt_threeRoutes h sound
  have inherited : ∃ peer ∈ after.peersAt (.backend "" "Service" "n" "b") (.gateway "n" "g")
      ⟨"example.com", "Limit"⟩, peer.inherited = true := by
    rw [peers]
    exact ⟨_, List.mem_cons_self, rfl⟩
  have reconciles := resolve_reconciles_orderly (.applyAll .empty _) sectioned_threeRoutes run
    (by decide) (sound _) inherited
  rw [peers] at reconciles
  exact ⟨sectioned_threeRoutes, report, after, run, sound _, peers, reconciles⟩

/-- The routes are met in the order of their names, and after the first two the value of the worst
policy stands under the identity of the best, so that the third policy loses to the second. -/
theorem threeRoutes_outOfPrecedence : ∃ report after reconciled part merged,
    (resolve MergerRegistry.specifications.toPolicyMerger .bestEffort).run threeRoutes =
      (.ok report, after) ∧
    .backend "" "Service" "n" "b" ∉ report.failedIds ∧
    after.peersAt (.backend "" "Service" "n" "b") (.gateway "n" "g") ⟨"example.com", "Limit"⟩ =
      threePolicies ∧
    (reconcileRoutes MergerRegistry.specifications.toPolicyMerger after (sortedIds
      (after.sources .routeBackend (.backend "" "Service" "n" "b")))).result = .ok reconciled ∧
    reconciled.get? (.gateway "n" "g") = some part ∧
    part.get? ⟨"example.com", "Limit"⟩ = some merged ∧
    Document.HasLeaf (.object (merged.sectionFields "default")) ["x"] (.int 3) ∧
    ¬ Policy.InPrecedence "default" threePolicies merged := by
  obtain ⟨report, after, run, h, sound⟩ := resolution_threeRoutes
  have peers := peersAt_threeRoutes h sound
  have coherent : threeRoutes.Coherent := (Reachable.applyAll .empty _).coherent
  obtain ⟨routes, reconciled, result, gathered⟩ := exists_reconciled_peersAt h
    (show .backend "" "Service" "n" "b" ∈ after.idsOf .backend from h.graph.idsOf _ ▸ by decide)
    (sound _)
  have gathered := gathered (.gateway "n" "g") ⟨"example.com", "Limit"⟩
  rw [peers] at gathered
  obtain ⟨merged, found⟩ := Table.exists_of_gather (List.cons_ne_nil _ _) gathered
  obtain ⟨part, stored, entry⟩ := Option.bind_eq_some_iff.mp found
  rw [found] at gathered
  have hpeers : ∀ peer ∈ threePolicies, peer.Shaped := by
    rw [← peers]
    exact shaped_peersAt h coherent (coherent.admits_shaped sectioned_threeRoutes) routes
  obtain ⟨_, hpeers⟩ := Policy.exists_isPeer hpeers gathered ⟨_, List.mem_cons_self, rfl⟩
  have layer := Policy.layer_of_reconciled hpeers gathered (show "default" ∈ _ by decide)
  have leaf : Document.HasLeaf (.object (merged.sectionFields "default")) ["x"] (.int 3) := by
    rw [Policy.hasLeaf_iff_look, layer]
    rfl
  refine ⟨report, after, reconciled, part, merged, run, sound _, peers, result, stored, entry,
    leaf, ?_⟩
  intro precedence
  obtain ⟨peer, member, leaf, first⟩ := precedence.first_wins _ _ leaf
  simp only [threePolicies, List.mem_cons, List.not_mem_nil, or_false] at member
  rcases member with rfl | rfl | rfl
  · cases leaf.1
  · have ahead := first (limit "b" "HTTPRoute" "r3" [("default", .object [("x", .int 2)])])
      (by simp [threePolicies]) (.int 2) ⟨rfl, rfl⟩
    exact absurd ahead (by decide)
  · cases leaf.1

end Topology

end PolicyTopology
