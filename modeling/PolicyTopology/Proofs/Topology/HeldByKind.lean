import PolicyTopology.Proofs.Topology.DiscoveryOrder
import PolicyTopology.Proofs.Topology.Interrupted
import PolicyTopology.Proofs.Topology.KindByKind

/-!
# What resolutions hold, kind by kind

However a resolution ends, what it has worked out for a node is for each kind what the policies of
this kind come to, so what one kind is merged to never depends on the others. A registry whose
mergers never fail resolves every node.
-/

namespace PolicyTopology

namespace Topology

variable {registry : MergerRegistry} {topology : Topology} {kind : MergeKind}
  {gatewayClass gateway route backend : ResourceId} {policies : PoliciesByKind}

/-! ### Registries that never fail -/

section Unfailing

open MergerRegistry (Identifies)

variable (unfailing : registry.Unfailing)

include unfailing

theorem identifies_layersOf {ancestor ofNameSpace own : Option Policy}
    (h : ∀ policy, ancestor = some policy → ∃ id, policy.id = .ok id)
    (h' : ∀ policy, ofNameSpace = some policy → ∃ id, policy.id = .ok id)
    (h'' : ∀ policy, own = some policy → ∃ id, policy.id = .ok id) :
    Identifies (layersOf registry kind ancestor ofNameSpace own) :=
  (unfailing.chain h h').bind fun _ identified => unfailing.chain identified h''

variable (coherent : topology.Coherent)

include coherent

theorem identifies_peersOn (target : Option ResourceId) :
    Identifies (peersOn registry topology kind target) := by
  refine .gather (unfailing kind .peers) nofun fun policy member => ?_
  obtain ⟨⟨id, attachment, stored, rfl, _⟩, _⟩ := mem_kindOn.mp member
  exact ⟨id, (coherent.readable stored).1⟩

theorem identifies_gatewayPolicy :
    Identifies (gatewayPolicy registry topology gatewayClass gateway kind) :=
  (identifies_peersOn unfailing coherent _).bind fun _ ofClass =>
    (identifies_peersOn unfailing coherent _).bind fun _ ofNameSpace =>
      (identifies_peersOn unfailing coherent _).bind fun _ own =>
        identifies_layersOf unfailing ofClass ofNameSpace own

theorem identifies_routePolicy
    (h : ∀ policy, policies.get? kind = some policy → ∃ id, policy.id = .ok id) :
    Identifies (routePolicy registry topology route policies kind) :=
  (identifies_peersOn unfailing coherent _).bind fun _ ofNameSpace =>
    (identifies_peersOn unfailing coherent _).bind fun _ own =>
      identifies_layersOf unfailing h ofNameSpace own

theorem identifies_backendPolicy
    (h : ∀ policy ∈ topology.peersAt backend gateway kind, ∃ id, policy.id = .ok id) :
    Identifies (backendPolicy registry topology backend gateway kind) :=
  (identifies_peersOn unfailing coherent _).bind fun _ ofNameSpace =>
    (identifies_peersOn unfailing coherent _).bind fun _ own =>
      (unfailing.reunited h).bind fun _ reunited =>
        identifies_layersOf unfailing reunited ofNameSpace own

theorem not_levelsFail (node : ResourceId) : ¬ LevelsFail registry topology node kind := by
  rintro (⟨error, failed⟩ | ⟨error, failed⟩)
  · obtain ⟨_, found, _⟩ := identifies_peersOn unfailing coherent (topology.nameSpace? node)
    cases failed.symm.trans found
  · obtain ⟨_, found, _⟩ := identifies_peersOn unfailing coherent (some node)
    cases failed.symm.trans found

variable (once : topology.IndexedOnce)

include once

/-- The policies that a gateway holds have identities. -/
theorem GatewayHeld.identified (held : GatewayHeld registry.toPolicyMerger topology gateway)
    (stored : topology.effective.get? gateway = some policies) {policy : Policy}
    (found : policies.get? kind = some policy) : ∃ id, policy.id = .ok id := by
  obtain ⟨gatewayClass, classed⟩ := held.effective_iff.mp ⟨policies, stored⟩
  obtain ⟨_, same, entry⟩ := (kindByKind coherent once registry).gateway_entry classed held
  cases stored.symm.trans same
  obtain ⟨_, result, identified⟩ := identifies_gatewayPolicy unfailing coherent
  cases result.symm.trans (entry kind)
  exact identified policy found

/-- The policies in the parts that a route holds have identities. -/
theorem RouteHeld.identified {partitions : Partitions} {part : PoliciesByKind}
    (held : RouteHeld registry.toPolicyMerger topology route partitions)
    (stored : partitions.get? gateway = some part) {policy : Policy}
    (found : part.get? kind = some policy) : ∃ id, policy.id = .ok id := by
  have byKind := kindByKind coherent once registry
  obtain ⟨target, _, above⟩ := (byKind.route_part_iff held.result).mp ⟨part, stored⟩
  obtain ⟨_, result, identified⟩ := identifies_routePolicy unfailing coherent fun _ among =>
    (held.gateways gateway target).identified unfailing coherent once above among
  cases result.symm.trans (byKind.route_entry held.result stored above kind)
  exact identified policy found

end Unfailing

variable {before after : Topology} {mode : ResolutionMode}

section Sound

variable {report : ResolutionReport} (unfailing : registry.Unfailing)
  (h : Resolution registry.toPolicyMerger mode before after report) (once : after.IndexedOnce)

include unfailing h once

theorem gateway_sound_of_unfailing (member : gateway ∈ after.idsOf .gateway) :
    gateway ∉ report.failedIds := by
  intro failed
  obtain ⟨failure, failed⟩ := Resolution.mem_failedIds_iff.mp failed
  have failed := (h.gateway_failure_iff member).mp failed
  change (after.gatewayPolicies registry.toPolicyMerger gateway).result = _ at failed
  cases classed : after.target? .gatewayClass gateway with
  | none =>
      rw [gatewayPolicies_of_classless classed] at failed
      cases failed
  | some gatewayClass =>
      obtain ⟨kind, error, failed⟩ :=
        ((kindByKind h.coherent once registry).gateway_fails_iff classed).mp ⟨_, failed⟩
      obtain ⟨_, found, _⟩ := identifies_gatewayPolicy unfailing h.coherent
      cases failed.symm.trans found

variable (coherent : before.Coherent)

include coherent

theorem route_sound_of_unfailing (member : route ∈ after.idsOf .httpRoute) :
    route ∉ report.failedIds := by
  intro failed
  obtain ⟨failure, failed⟩ := Resolution.mem_failedIds_iff.mp failed
  have failed := (h.route_failure_iff member).mp failed
  change (some <$> after.routePartitions _ report.failedIds route : NodeWork _).result = _
    at failed
  rw [Traced.result_map, Except.map_error_iff] at failed
  rcases (kindByKind h.coherent once registry).route_fails_iff.mp ⟨_, failed⟩ with
    ⟨gateway, target, failed⟩ | ⟨kind, failed⟩ | ⟨gateway, target, policies, above, kind, error,
      failed⟩
  · exact gateway_sound_of_unfailing unfailing h once (h.coherent.gateway_of_target target) failed
  · exact not_levelsFail unfailing h.coherent route failed
  · have node := h.coherent.gateway_of_target target
    have held := h.gatewayHeld coherent node (gateway_sound_of_unfailing unfailing h once node)
    obtain ⟨_, found, _⟩ := identifies_routePolicy unfailing h.coherent fun _ among =>
      held.identified unfailing h.coherent once above among
    cases failed.symm.trans found

theorem backend_sound_of_unfailing (member : backend ∈ after.idsOf .backend) :
    backend ∉ report.failedIds := by
  intro failed
  obtain ⟨failure, failed⟩ := Resolution.mem_failedIds_iff.mp failed
  have failed := (h.backend_failure_iff member).mp failed
  change (some <$> after.backendPartitions _ report.failedIds backend : NodeWork _).result = _
    at failed
  rw [Traced.result_map, Except.map_error_iff] at failed
  have sound : ∀ route ∈ after.idsOf .httpRoute, route ∉ report.failedIds :=
    fun _ => route_sound_of_unfailing unfailing h once coherent
  rcases (kindByKind h.coherent once registry).backend_fails_iff.mp ⟨_, failed⟩ with
    ⟨route, source, failed⟩ | ⟨kind, failed⟩ | ⟨gateway, _, kind, error, failed⟩
  · exact sound route (h.coherent.route_of_source source) failed
  · exact not_levelsFail unfailing h.coherent backend failed
  · obtain ⟨_, found, _⟩ := identifies_backendPolicy unfailing h.coherent fun policy among => by
      obtain ⟨route, source, partitions, part, held, stored, entry⟩ := mem_peersAt.mp among
      have node := h.coherent.route_of_source source
      obtain ⟨_, atRoute⟩ := h.exists_routeHeld coherent node (sound route node)
      cases held.symm.trans atRoute.held
      exact atRoute.identified unfailing h.coherent once stored entry
    cases failed.symm.trans found

/-- With a registry that merges whatever it is given no node fails. -/
theorem sound_of_unfailing (id : ResourceId) : id ∉ report.failedIds := by
  intro failed
  obtain ⟨failure, among⟩ := Resolution.mem_failedIds_iff.mp failed
  rcases h.mem_failures_iff.mp among with ⟨member, _⟩ | ⟨member, _⟩ | ⟨member, _⟩
  · exact gateway_sound_of_unfailing unfailing h once member failed
  · exact route_sound_of_unfailing unfailing h once coherent member failed
  · exact backend_sound_of_unfailing unfailing h once coherent member failed

end Sound

theorem resolve_of_unfailing (unfailing : registry.Unfailing) (reachable : before.Reachable) :
    ∃ report after, (resolve registry.toPolicyMerger .bestEffort).run before =
      (.ok report, after) ∧ ∀ id, id ∉ report.failedIds := by
  have coherent := reachable.coherent
  have law : registry.toPolicyMerger.RaisesOnlyConflicts fun policy =>
      ∃ id, policy.id = .ok id := by
    refine MergerRegistry.raisesOnlyConflicts id fun kind operation first second h h' => ?_
    obtain ⟨merged, result, identified⟩ := unfailing kind operation h h'
    rw [result]
    exact identified
  obtain ⟨report, after, run⟩ := resolve_bestEffort_total law coherent
    fun id _ stored => ⟨id, (coherent.readable stored).1⟩
  exact ⟨report, after, run, sound_of_unfailing unfailing (resolution_of_run coherent run)
    (reachable.after_resolve run).indexedOnce coherent⟩

/-- The policies of a gateway are for each kind what the kind comes to. -/
def GatewayByKind (registry : MergerRegistry) (topology : Topology) (gateway : ResourceId)
    (policies : PoliciesByKind) : Prop :=
  ∃ gatewayClass, topology.target? .gatewayClass gateway = some gatewayClass ∧
    ∀ kind, gatewayPolicy registry topology gatewayClass gateway kind = .ok (policies.get? kind)

/-- The parts of a route are those for its gateways that hold policies, and are for each kind what
the kind comes to. -/
structure RouteByKind (registry : MergerRegistry) (topology : Topology) (route : ResourceId)
    (partitions : Partitions) : Prop where
  part_iff : ∀ gateway, (∃ part, partitions.get? gateway = some part) ↔
    gateway ∈ topology.targets .routeGateway route ∧
      ∃ policies, topology.effective.get? gateway = some policies
  entry : ∀ gateway part policies, partitions.get? gateway = some part →
    topology.effective.get? gateway = some policies →
      ∀ kind, routePolicy registry topology route policies kind = .ok (part.get? kind)

/-- The parts of a backend are those that its routes have, and are for each kind what the kind comes
to. -/
structure BackendByKind (registry : MergerRegistry) (topology : Topology) (backend : ResourceId)
    (partitions : Partitions) : Prop where
  part_iff : ∀ gateway, (∃ part, partitions.get? gateway = some part) ↔
    topology.RouteHasPart backend gateway
  entry : ∀ gateway part, partitions.get? gateway = some part →
    ∀ kind, backendPolicy registry topology backend gateway kind = .ok (part.get? kind)

/-- What a resolution that leads from `before` to `after` works out for a node is held there, and is
for each kind what that kind comes to. Whatever else is held was held before. -/
structure HoldsByKind (registry : MergerRegistry) (mode : ResolutionMode)
    (before after : Topology) : Prop extends
    HeldFrom registry.toPolicyMerger mode before after where
  gateway : ∀ {gateway policies},
    ResolvesGateway registry.toPolicyMerger mode before gateway policies →
      after.effective.get? gateway = some policies ∧ GatewayByKind registry after gateway policies
  route : ∀ {route partitions},
    ResolvesRoute registry.toPolicyMerger mode before route partitions →
      after.partitions.get? route = some partitions ∧ RouteByKind registry after route partitions
  backend : ∀ {backend partitions},
    ResolvesBackend registry.toPolicyMerger mode before backend partitions →
      after.partitions.get? backend = some partitions ∧
      BackendByKind registry after backend partitions

/-- Everything that nodes hold is for each kind what that kind comes to. -/
structure HeldByKind (registry : MergerRegistry) (topology : Topology) : Prop where
  gateway : ∀ {gateway policies}, topology.effective.get? gateway = some policies →
    GatewayByKind registry topology gateway policies
  route : ∀ {route partitions}, route.nodeKind = .httpRoute →
    topology.partitions.get? route = some partitions →
      RouteByKind registry topology route partitions
  backend : ∀ {backend partitions}, backend.nodeKind = .backend →
    topology.partitions.get? backend = some partitions →
      BackendByKind registry topology backend partitions

theorem HoldsByKind.heldByKind (h : HoldsByKind registry mode before after)
    (nothing : before.HoldsNothing) : HeldByKind registry after where
  gateway stored := (h.gateway (h.resolvesGateway nothing stored)).2
  route ofKind stored := (h.route (h.resolvesRoute nothing ofKind stored)).2
  backend ofKind stored := (h.backend (h.resolvesBackend nothing ofKind stored)).2

theorem holdsByKind (registry : MergerRegistry) (mode : ResolutionMode)
    (reachable : before.Reachable) :
    HoldsByKind registry mode before
      ((resolve registry.toPolicyMerger mode).run before).2 := by
  have reachable' := reachable.apply (.resolve registry.toPolicyMerger mode)
  change Reachable ((resolve registry.toPolicyMerger mode).run before).2 at reachable'
  cases run : (resolve registry.toPolicyMerger mode).run before with
  | mk result after =>
  rw [run] at reachable'
  have byKind := kindByKind reachable'.coherent reachable'.indexedOnce registry
  refine ⟨heldFrom_of_run reachable.coherent run, ?_, ?_, ?_⟩
  · intro gateway policies resolves
    obtain ⟨stored, held⟩ := resolves.gatewayHeld reachable.coherent run
    refine ⟨stored, ?_⟩
    have classed := reachable'.coherent.effective_classed (by rw [stored]; exact nofun)
    obtain ⟨gatewayClass, classed⟩ := Option.ne_none_iff_exists'.mp classed
    obtain ⟨_, same, entry⟩ := byKind.gateway_entry classed held
    cases stored.symm.trans same
    exact ⟨gatewayClass, classed, entry⟩
  · intro route partitions resolves
    have held := resolves.routeHeld reachable.coherent run
    exact ⟨held.held, fun _ => byKind.route_part_iff held.result, fun _ _ _ stored policies =>
      byKind.route_entry held.result stored policies⟩
  · intro backend partitions resolves
    have held := resolves.backendHeld reachable.coherent run
    exact ⟨held.held, fun _ => byKind.backend_part_iff held.result, fun _ _ stored =>
      byKind.backend_entry held.result stored⟩

/-- With any registry, what the work on a node comes to is worked out kind by kind, and so is what a
resolution holds for a node, however the resolution ends. If nothing was held before, this is all
that is held. -/
theorem resolve_kind_by_kind (registry : MergerRegistry) (mode : ResolutionMode)
    (reachable : before.Reachable) :
    KindByKind registry before ∧
      KindByKind registry ((resolve registry.toPolicyMerger mode).run before).2 ∧
      HoldsByKind registry mode before ((resolve registry.toPolicyMerger mode).run before).2 ∧
      (before.HoldsNothing →
        HeldByKind registry ((resolve registry.toPolicyMerger mode).run before).2) := by
  have reachable' := reachable.apply (.resolve registry.toPolicyMerger mode)
  have holds := holdsByKind registry mode reachable
  exact ⟨kindByKind reachable.coherent reachable.indexedOnce registry,
    kindByKind reachable'.coherent reachable'.indexedOnce registry, holds, holds.heldByKind⟩

/-- The registry that keeps the first of two quotas, and of two other policies the second. -/
def keeping : MergerRegistry :=
  (⟨.keepSecond, .empty⟩ : MergerRegistry).register quotaKind .keepFirst

theorem unfailing_keeping : keeping.Unfailing := by
  intro kind operation first second h h'
  by_cases ofKind : kind = quotaKind
  · cases ofKind
    exact ⟨first, rfl, h⟩
  · refine ⟨second, ?_, h'⟩
    rw [keeping, MergerRegistry.register, MergerRegistry.mergerFor,
      Table.get?_set_ne _ _ (Ne.symm ofKind)]
    rfl

/-- A gateway with two limits, of which the later one is attached first, and a backend behind two
routes of the gateway, of which the later one has the smaller limit. -/
def rankedLimits : Topology :=
  [Operation.insert (.gatewayClass ⟨"c", ""⟩), .insert (.gateway ⟨"n", "g", "c"⟩),
    .insert (.httpRoute ⟨"n", "r1", [], []⟩), .insert (.httpRoute ⟨"n", "r2", [], []⟩),
    .insert (.backend ⟨"n", "b", "", "Service"⟩),
    .connect .gatewayClass (.gateway "n" "g") (.gatewayClass "c"),
    .connect .routeGateway (.httpRoute "n" "r1") (.gateway "n" "g"),
    .connect .routeGateway (.httpRoute "n" "r2") (.gateway "n" "g"),
    .connect .routeBackend (.httpRoute "n" "r2") (.backend "" "Service" "n" "b"),
    .connect .routeBackend (.httpRoute "n" "r1") (.backend "" "Service" "n" "b"),
    .attach (limit "b" "Gateway" "g" []), .attach (limit "a" "Gateway" "g" []),
    .attach (limit "d" "HTTPRoute" "r1" []), .attach (limit "c" "HTTPRoute" "r2" []),
    .attach (quotaOn toClass "q"), .attach (quotaOn toBackend "p")].foldl Operation.apply .empty

set_option maxRecDepth 4000 in
theorem policies_rankedLimits : rankedLimits.policies.entries =
    [(.policy "example.com" "Limit" "n" "b",
        .single (limit "b" "Gateway" "g" []) .gateway (.gateway "n" "g")),
      (.policy "example.com" "Limit" "n" "a",
        .single (limit "a" "Gateway" "g" []) .gateway (.gateway "n" "g")),
      (.policy "example.com" "Limit" "n" "d",
        .single (limit "d" "HTTPRoute" "r1" []) .httpRoute (.httpRoute "n" "r1")),
      (.policy "example.com" "Limit" "n" "c",
        .single (limit "c" "HTTPRoute" "r2" []) .httpRoute (.httpRoute "n" "r2")),
      (.policy "example.com" "Quota" "n" "q",
        .single (quotaOn toClass "q") .gatewayClass (.gatewayClass "c")),
      (.policy "example.com" "Quota" "n" "p",
        .single (quotaOn toBackend "p") .backend (.backend "" "Service" "n" "b"))] := (rfl)

/-- What the limits at each target come to, and then the quotas. -/
theorem peersOn_rankedLimits :
    (peersOn keeping rankedLimits limitKind (some (.gatewayClass "c")) = .ok none ∧
      peersOn keeping rankedLimits limitKind (some (.gateway "n" "g")) =
        .ok (some (limit "b" "Gateway" "g" [])) ∧
      peersOn keeping rankedLimits limitKind (some (.httpRoute "n" "r1")) =
        .ok (some (limit "d" "HTTPRoute" "r1" [])) ∧
      peersOn keeping rankedLimits limitKind (some (.httpRoute "n" "r2")) =
        .ok (some (limit "c" "HTTPRoute" "r2" [])) ∧
      peersOn keeping rankedLimits limitKind (some (.backend "" "Service" "n" "b")) = .ok none) ∧
    peersOn keeping rankedLimits quotaKind (some (.gatewayClass "c")) =
      .ok (some (quotaOn toClass "q")) ∧
    peersOn keeping rankedLimits quotaKind (some (.gateway "n" "g")) = .ok none ∧
    peersOn keeping rankedLimits quotaKind (some (.httpRoute "n" "r1")) = .ok none ∧
    peersOn keeping rankedLimits quotaKind (some (.httpRoute "n" "r2")) = .ok none ∧
    peersOn keeping rankedLimits quotaKind (some (.backend "" "Service" "n" "b")) =
      .ok (some (quotaOn toBackend "p")) := by
  simp only [peersOn, kindOn, attachedTo, attachedEntries, policies_rankedLimits]
  exact ⟨⟨rfl, rfl, rfl, rfl, rfl⟩, rfl, rfl, rfl, rfl, rfl⟩

theorem reachable_rankedLimits : rankedLimits.Reachable := .applyAll .empty _

theorem graph_rankedLimits :
    (∀ node ∈ [ResourceId.gateway "n" "g", .backend "" "Service" "n" "b", .httpRoute "n" "r1",
      .httpRoute "n" "r2"],
      node ∈ rankedLimits.idsOf node.nodeKind ∧ rankedLimits.nameSpace? node = none) ∧
    rankedLimits.target? .gatewayClass (.gateway "n" "g") = some (.gatewayClass "c") ∧
    (∀ route ∈ [ResourceId.httpRoute "n" "r1", .httpRoute "n" "r2"],
      rankedLimits.targets .routeGateway route = [.gateway "n" "g"]) ∧
    (rankedLimits.sources .routeBackend (.backend "" "Service" "n" "b")).insertionSort (· ≤ ·) =
      [.httpRoute "n" "r1", .httpRoute "n" "r2"] := by
  decide +kernel

set_option maxRecDepth 4000 in
theorem holdsNothing_rankedLimits : rankedLimits.HoldsNothing := ⟨fun _ => rfl, fun _ => rfl⟩

section RankedLimits

variable {report : ResolutionReport}
  (h : Resolution keeping.toPolicyMerger mode rankedLimits after report)
  (sound : ∀ id, id ∉ report.failedIds) (held : HeldByKind keeping after)

include h sound held

theorem gateway_rankedLimits : ∃ policies,
    after.effective.get? (.gateway "n" "g") = some policies ∧
      policies.get? limitKind = some (limit "b" "Gateway" "g" []) ∧
      policies.get? quotaKind = some (quotaOn toClass "q") := by
  obtain ⟨nodes, classed, _⟩ := graph_rankedLimits
  obtain ⟨node, bare⟩ := nodes (.gateway "n" "g") (by simp)
  rw [← h.graph.idsOf] at node
  rw [← h.graph.nameSpace?] at bare
  rw [← h.graph.target?] at classed
  obtain ⟨⟨classLimit, ownLimit, _⟩, classQuota, ownQuota, _⟩ := peersOn_rankedLimits
  rw [← h.graph.peersOn] at classLimit ownLimit classQuota ownQuota
  have coherent := reachable_rankedLimits.coherent
  obtain ⟨policies, effective⟩ :=
    (h.gatewayHeld coherent node (sound _)).effective_iff.mpr ⟨_, classed⟩
  obtain ⟨_, same, entry⟩ := held.gateway effective
  cases classed.symm.trans same
  refine ⟨policies, effective, ?_, ?_⟩
  · have entry := entry limitKind
    rw [gatewayPolicy, bare, peersOn_none, classLimit, ownLimit] at entry
    exact (Except.ok.inj entry).symm
  · have entry := entry quotaKind
    rw [gatewayPolicy, bare, peersOn_none, classQuota, ownQuota] at entry
    exact (Except.ok.inj entry).symm

theorem route_rankedLimits {route : ResourceId} {policy : Policy}
    (member : route ∈ [ResourceId.httpRoute "n" "r1", .httpRoute "n" "r2"])
    (ownLimit : peersOn keeping rankedLimits limitKind (some route) = .ok (some policy))
    (ownQuota : peersOn keeping rankedLimits quotaKind (some route) = .ok none) :
    ∃ partitions part, after.partitions.get? route = some partitions ∧
      partitions.get? (.gateway "n" "g") = some part ∧ part.get? limitKind = some policy ∧
      part.get? quotaKind = some (quotaOn toClass "q") := by
  obtain ⟨nodes, _, attached, _⟩ := graph_rankedLimits
  obtain ⟨node, bare⟩ := nodes route (List.mem_cons_of_mem _ (List.mem_cons_of_mem _ member))
  have ofKind : route.nodeKind = .httpRoute := by
    simp only [List.mem_cons, List.not_mem_nil, or_false] at member
    rcases member with rfl | rfl <;> rfl
  have target := attached route member
  rw [← h.graph.idsOf, ofKind] at node
  rw [← h.graph.nameSpace?] at bare
  rw [← h.graph.targets] at target
  rw [← h.graph.peersOn] at ownLimit ownQuota
  have coherent := reachable_rankedLimits.coherent
  obtain ⟨policies, effective, limits, quotas⟩ := gateway_rankedLimits h sound held
  obtain ⟨partitions, atRoute⟩ := h.exists_routeHeld coherent node (sound _)
  have byKind := held.route ofKind atRoute.held
  obtain ⟨part, stored⟩ := (byKind.part_iff (.gateway "n" "g")).mpr
    ⟨by simp [target], policies, effective⟩
  refine ⟨partitions, part, atRoute.held, stored, ?_, ?_⟩
  · have entry := byKind.entry _ _ _ stored effective limitKind
    rw [routePolicy, bare, peersOn_none, ownLimit, limits] at entry
    exact (Except.ok.inj entry).symm
  · have entry := byKind.entry _ _ _ stored effective quotaKind
    rw [routePolicy, bare, peersOn_none, ownQuota, quotas] at entry
    exact (Except.ok.inj entry).symm

theorem backend_rankedLimits : ∃ partitions part,
    after.partitions.get? (.backend "" "Service" "n" "b") = some partitions ∧
      partitions.get? (.gateway "n" "g") = some part ∧
      part.get? limitKind = some (limit "d" "HTTPRoute" "r1" []) ∧
      part.get? quotaKind = some (quotaOn toClass "q") := by
  obtain ⟨nodes, _, _, sources⟩ := graph_rankedLimits
  obtain ⟨node, bare⟩ := nodes (.backend "" "Service" "n" "b") (by simp)
  rw [← h.graph.idsOf] at node
  rw [← h.graph.nameSpace?] at bare
  rw [← h.graph.sources] at sources
  obtain ⟨⟨_, _, firstLimit, secondLimit, ownLimit⟩, _, _, firstQuota, secondQuota, ownQuota⟩ :=
    peersOn_rankedLimits
  obtain ⟨first, firstPart, atFirst, inFirst, limitOfFirst, quotaOfFirst⟩ :=
    route_rankedLimits h sound held (by simp) firstLimit firstQuota
  obtain ⟨second, secondPart, atSecond, inSecond, limitOfSecond, quotaOfSecond⟩ :=
    route_rankedLimits h sound held (by simp) secondLimit secondQuota
  rw [← h.graph.peersOn] at ownLimit ownQuota
  have visits : after.visits (.backend "" "Service" "n" "b") (.gateway "n" "g") =
      [(.httpRoute "n" "r1", firstPart), (.httpRoute "n" "r2", secondPart)] := by
    rw [visits, sources]
    simp [atFirst, inFirst, atSecond, inSecond]
  have coherent := reachable_rankedLimits.coherent
  obtain ⟨partitions, atBackend⟩ := h.exists_backendHeld coherent node (sound _)
  have byKind := held.backend rfl atBackend.held
  obtain ⟨part, stored⟩ := (byKind.part_iff (.gateway "n" "g")).mpr
    (visits_ne_nil_iff.mp (by rw [visits]; exact List.cons_ne_nil _ _))
  refine ⟨partitions, part, atBackend.held, stored, ?_, ?_⟩
  · have entry := byKind.entry _ _ stored limitKind
    rw [backendPolicy, bare, peersOn_none, ownLimit, peersAt, visits] at entry
    simp only [List.filterMap_cons, limitOfFirst, limitOfSecond, List.filterMap_nil] at entry
    exact (Except.ok.inj entry).symm
  · have entry := byKind.entry _ _ stored quotaKind
    rw [backendPolicy, bare, peersOn_none, ownQuota, peersAt, visits] at entry
    simp only [List.filterMap_cons, quotaOfFirst, quotaOfSecond, List.filterMap_nil] at entry
    exact (Except.ok.inj entry).symm

end RankedLimits

/-- Of the limits the last in the order of their names is kept, wherever several meet, and of the
quotas the one of the class. -/
theorem resolve_kind_by_kind_rankedLimits : ∃ report after,
    (resolve keeping.toPolicyMerger .bestEffort).run rankedLimits = (.ok report, after) ∧
    (∃ policies, after.effective.get? (.gateway "n" "g") = some policies ∧
      policies.get? limitKind = some (limit "b" "Gateway" "g" []) ∧
      policies.get? quotaKind = some (quotaOn toClass "q")) ∧
    (∃ partitions part, after.partitions.get? (.httpRoute "n" "r2") = some partitions ∧
      partitions.get? (.gateway "n" "g") = some part ∧
      part.get? limitKind = some (limit "c" "HTTPRoute" "r2" []) ∧
      part.get? quotaKind = some (quotaOn toClass "q")) ∧
    ∃ partitions part, after.partitions.get? (.backend "" "Service" "n" "b") = some partitions ∧
      partitions.get? (.gateway "n" "g") = some part ∧
      part.get? limitKind = some (limit "d" "HTTPRoute" "r1" []) ∧
      part.get? quotaKind = some (quotaOn toClass "q") := by
  have reachable := reachable_rankedLimits
  obtain ⟨report, after, run, sound⟩ := resolve_of_unfailing unfailing_keeping reachable
  obtain ⟨_, _, _, held⟩ := resolve_kind_by_kind keeping .bestEffort reachable
  rw [run] at held
  have held := held holdsNothing_rankedLimits
  have h := resolution_of_run reachable.coherent run
  obtain ⟨⟨_, _, _, secondLimit, _⟩, _, _, _, secondQuota, _⟩ := peersOn_rankedLimits
  exact ⟨report, after, run, gateway_rankedLimits h sound held,
    route_rankedLimits h sound held (by simp) secondLimit secondQuota,
    backend_rankedLimits h sound held⟩

end Topology

end PolicyTopology
