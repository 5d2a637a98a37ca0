import PolicyTopology.Proofs.Policy.Outline
import PolicyTopology.Proofs.Topology.DirectUnion

/-!
# Whose outline an effective policy has

An effective policy is merged from many attached ones, but apart from the content of its
specification it is one of them. Which one is decided by the levels of the node: at the most
specific level that has policies of the kind, it is the first in order of precedence. Below a
gateway the least specific level is what has come down, for a backend on all of its routes. So an
effective policy never has the identity of a policy outside of the cone of its node.
-/

namespace PolicyTopology

namespace Topology

open Policy (TakesAfter SameOutline mostSpecific ofKind)

variable {topology before after : Topology} {kind : MergeKind} {policy entry : Policy}
  {gateway route backend : ResourceId} {cone other : ResourceId → Prop}
  {policies part : PoliciesByKind} {partitions : Partitions} {levels above : List (List Policy)}
  {found ancestor ofNameSpace own : Option Policy}

/-- A policy of a kind has the identity and the outline of one that is attached to a cone. -/
def StemsFrom (topology : Topology) (cone : ResourceId → Prop) (kind : MergeKind)
    (entry : Policy) : Prop :=
  ∃ id source, topology.policies.get? id = some source ∧ cone source.target ∧
    entry.id = .ok id ∧ entry.kind = .ok kind ∧ entry.SameOutline source.policy

theorem StemsFrom.imp (h : topology.StemsFrom cone kind entry)
    (wider : ∀ target, cone target → other target) : topology.StemsFrom other kind entry := by
  obtain ⟨id, source, stored, within, rest⟩ := h
  exact ⟨id, source, stored, wider source.target within, rest⟩

theorem StemsFrom.of_sameOutline (h : topology.StemsFrom cone kind policy)
    (outline : entry.SameOutline policy) : topology.StemsFrom cone kind entry := by
  obtain ⟨id, source, stored, within, identity, ofKind, same⟩ := h
  exact ⟨id, source, stored, within, outline.id.trans identity, outline.kind.trans ofKind,
    outline.trans same⟩

theorem StemsFrom.isManifest (h : topology.StemsFrom cone kind entry) : entry.IsManifest := by
  obtain ⟨_, _, _, _, _, _, outline⟩ := h
  exact outline.isManifest

/-- What the policies of a kind on some levels come to, of which the most specific one stands first:
it takes after the most specific level that has policies, and stems from a cone. -/
structure Descends (topology : Topology) (cone : ResourceId → Prop) (kind : MergeKind)
    (levels : List (List Policy)) (found : Option Policy) : Prop where
  takesAfter : TakesAfter (mostSpecific levels) found
  stemsFrom : ∀ entry, found = some entry → topology.StemsFrom cone kind entry

theorem Descends.of_levels (takesAfter : TakesAfter (mostSpecific levels) found)
    (stems : ∀ level ∈ levels, ∀ policy ∈ level, topology.StemsFrom cone kind policy) :
    topology.Descends cone kind levels found where
  takesAfter := takesAfter
  stemsFrom := by
    rintro entry rfl
    obtain ⟨first, member, outline, _⟩ := takesAfter
    obtain ⟨level, among, inLevel⟩ := Policy.exists_level_of_mem_mostSpecific member
    exact (stems level among first inLevel).of_sameOutline outline

/-- The policies of a gateway descend from its own, from those of its namespace and of its class. -/
def GatewayOutlines (topology : Topology) (gateway : ResourceId) (policies : PoliciesByKind) :
    Prop :=
  ∀ kind, topology.Descends (topology.GatewayCone gateway) kind
    [topology.kindOn kind (some gateway), topology.kindOn kind (topology.nameSpace? gateway),
      topology.kindOn kind (topology.target? .gatewayClass gateway)] (policies.get? kind)

/-- The parts of a route descend from its own policies, from those of its namespace and from what
the gateway holds. -/
def RouteOutlines (topology : Topology) (route : ResourceId) (partitions : Partitions) : Prop :=
  ∀ gateway part, partitions.get? gateway = some part →
    ∃ policies, topology.effective.get? gateway = some policies ∧ ∀ kind,
      topology.Descends (topology.RouteCone gateway route) kind
        [topology.kindOn kind (some route), topology.kindOn kind (topology.nameSpace? route),
          (policies.get? kind).toList] (part.get? kind)

/-- The parts of a backend descend from its own policies, from those of its namespace and from what
its routes have for the gateway. -/
def BackendOutlines (topology : Topology) (backend : ResourceId) (partitions : Partitions) : Prop :=
  ∀ gateway part, partitions.get? gateway = some part → ∀ kind,
    topology.Descends (topology.BackendCone gateway backend) kind
      [topology.kindOn kind (some backend), topology.kindOn kind (topology.nameSpace? backend),
        topology.peersAt backend gateway kind] (part.get? kind)

section Levels

variable (coherent : topology.Coherent) (manifests : topology.Admits Policy.IsManifest)

include coherent manifests

theorem stemsFrom_of_mem_kindOn {target : Option ResourceId}
    (member : policy ∈ topology.kindOn kind target)
    (within : ∀ node, target = some node → cone node) :
    topology.StemsFrom cone kind policy := by
  obtain ⟨⟨id, source, stored, rfl, same⟩, ofKind⟩ := mem_kindOn.mp member
  exact ⟨id, source, stored, within source.target same.symm, (coherent.readable stored).1, ofKind,
    .refl (manifests id _ stored)⟩

theorem takesAfter_peersOn {target : Option ResourceId}
    (result : peersOn MergerRegistry.specifications topology kind target = .ok found) :
    TakesAfter (topology.kindOn kind target) found := by
  refine MergerRegistry.takesAfter_gather (fun policy member => ?_) ?_ result
  · obtain ⟨⟨id, source, stored, rfl, _⟩, _⟩ := mem_kindOn.mp member
    exact manifests id source stored
  · refine (coherent.pairwise_kindOn kind target).imp ?_
    rintro first second ⟨id, other, found, found', le⟩
    rwa [Policy.identity_of_id found, Policy.identity_of_id found']

/-- The levels of a node go before what has come down to it. -/
theorem takesAfter_layersOf {node : ResourceId} (h : TakesAfter (mostSpecific above) ancestor)
    (atNameSpace : peersOn MergerRegistry.specifications topology kind (topology.nameSpace? node) =
      .ok ofNameSpace)
    (atNode : peersOn MergerRegistry.specifications topology kind (some node) = .ok own)
    (result : layersOf MergerRegistry.specifications kind ancestor ofNameSpace own = .ok found) :
    TakesAfter (mostSpecific (topology.kindOn kind (some node) ::
      topology.kindOn kind (topology.nameSpace? node) :: above)) found := by
  obtain ⟨middle, first, second⟩ := Except.bind_ok_iff.mp result
  have lower := MergerRegistry.takesAfter_chain h
    (takesAfter_peersOn coherent manifests atNameSpace) first
  exact MergerRegistry.takesAfter_chain lower (takesAfter_peersOn coherent manifests atNode) second

/-- A node takes after its own levels, and else after what has come down to it. -/
theorem descends_of_layersOf {node : ResourceId} {group : List Policy}
    (h : TakesAfter group ancestor)
    (stems : ∀ policy ∈ group, topology.StemsFrom cone kind policy)
    (inNameSpace : ∀ target, topology.nameSpace? node = some target → cone target)
    (atSelf : cone node)
    (atNameSpace : peersOn MergerRegistry.specifications topology kind (topology.nameSpace? node) =
      .ok ofNameSpace)
    (atNode : peersOn MergerRegistry.specifications topology kind (some node) = .ok own)
    (result : layersOf MergerRegistry.specifications kind ancestor ofNameSpace own = .ok found) :
    topology.Descends cone kind [topology.kindOn kind (some node),
      topology.kindOn kind (topology.nameSpace? node), group] found := by
  rw [← Policy.mostSpecific_singleton group] at h
  refine .of_levels (takesAfter_layersOf coherent manifests h atNameSpace atNode result) ?_
  intro level member policy among
  simp only [List.mem_cons, List.not_mem_nil, or_false] at member
  rcases member with rfl | rfl | rfl
  · refine stemsFrom_of_mem_kindOn coherent manifests among fun target same => ?_
    exact Option.some.inj same ▸ atSelf
  · exact stemsFrom_of_mem_kindOn coherent manifests among inNameSpace
  · exact stems policy among

variable (once : topology.IndexedOnce)

include once

theorem gateway_descends
    (held : GatewayHeld MergerRegistry.specifications.toPolicyMerger topology gateway)
    (stored : topology.effective.get? gateway = some policies) :
    topology.GatewayOutlines gateway policies := by
  intro kind
  have classed := coherent.effective_classed (by rw [stored]; exact nofun)
  obtain ⟨gatewayClass, classed⟩ := Option.ne_none_iff_exists'.mp classed
  obtain ⟨_, same, entry⟩ := (kindByKind coherent once MergerRegistry.specifications).gateway_entry
    classed held
  cases stored.symm.trans same
  have result := entry kind
  unfold gatewayPolicy at result
  simp only [Except.bind_ok_iff] at result
  obtain ⟨ofClass, atClass, ofNameSpace, atNameSpace, own, atNode, result⟩ := result
  rw [classed]
  refine descends_of_layersOf coherent manifests (takesAfter_peersOn coherent manifests atClass)
    (fun policy member => ?_) (fun target same => .inr (.inl same)) (.inr (.inr rfl)) atNameSpace
    atNode result
  exact stemsFrom_of_mem_kindOn coherent manifests member fun node same =>
    .inl (classed.trans same)

theorem route_descends
    (held : RouteHeld MergerRegistry.specifications.toPolicyMerger topology route partitions) :
    topology.RouteOutlines route partitions := by
  intro gateway part stored
  have byKind := kindByKind coherent once MergerRegistry.specifications
  obtain ⟨attached, policies, reached⟩ := (byKind.route_part_iff held.result).mp ⟨part, stored⟩
  refine ⟨policies, reached, fun kind => ?_⟩
  have above := (gateway_descends coherent manifests once (held.gateways gateway attached) reached
    kind).stemsFrom
  have result := byKind.route_entry held.result stored reached kind
  unfold routePolicy at result
  simp only [Except.bind_ok_iff] at result
  obtain ⟨ofNameSpace, atNameSpace, own, atNode, result⟩ := result
  refine descends_of_layersOf coherent manifests
    (Policy.takesAfter_toList fun entry found => (above entry found).isManifest)
    (fun policy member => ?_) (fun target same => .inr (.inl same)) (.inr (.inr rfl)) atNameSpace
    atNode result
  exact (above policy (Option.mem_toList.mp member)).imp fun target within => .inl within

theorem backend_descends
    (held : BackendHeld MergerRegistry.specifications.toPolicyMerger topology backend partitions) :
    topology.BackendOutlines backend partitions := by
  intro gateway part stored kind
  have byKind := kindByKind coherent once MergerRegistry.specifications
  have stems : ∀ policy ∈ topology.peersAt backend gateway kind,
      topology.StemsFrom (topology.BackendCone gateway backend) kind policy := by
    intro policy member
    obtain ⟨⟨route, reached⟩, visited, found⟩ := List.mem_filterMap.mp member
    obtain ⟨source, ofRoute, atRoute, stored'⟩ := held.routeHeld visited
    have target := ((byKind.route_part_iff atRoute.result).mp ⟨reached, stored'⟩).1
    obtain ⟨_, _, descends⟩ := route_descends coherent manifests once atRoute _ _ stored'
    exact ((descends kind).stemsFrom policy found).imp fun node within =>
      .inl ⟨route, source, target, within⟩
  have result := byKind.backend_entry held.result stored kind
  unfold backendPolicy at result
  simp only [Except.bind_ok_iff] at result
  obtain ⟨ofNameSpace, atNameSpace, own, atNode, reunited, gathered, result⟩ := result
  refine descends_of_layersOf coherent manifests
    (MergerRegistry.takesAfter_reunited (fun policy member => (stems policy member).isManifest)
      gathered) stems (fun target same => .inr (.inl same)) (.inr (.inr rfl)) atNameSpace atNode
    result

end Levels

/-- What a resolution that leads from `before` to `after` works out for a node is stored there, each
policy under its own kind, and each descends from the levels of the node. Whatever else is stored
was there before. -/
structure KeepsOutlines (mode : ResolutionMode) (before after : Topology) : Prop extends
    HeldFrom MergerRegistry.specifications.toPolicyMerger mode before after where
  graph : before.SameGraph after
  gateway : ∀ {gateway policies},
    ResolvesGateway MergerRegistry.specifications.toPolicyMerger mode before gateway policies →
      after.effective.get? gateway = some policies ∧ after.GatewayOutlines gateway policies
  route : ∀ {route partitions},
    ResolvesRoute MergerRegistry.specifications.toPolicyMerger mode before route partitions →
      after.partitions.get? route = some partitions ∧ after.RouteOutlines route partitions
  backend : ∀ {backend partitions},
    ResolvesBackend MergerRegistry.specifications.toPolicyMerger mode before backend partitions →
      after.partitions.get? backend = some partitions ∧ after.BackendOutlines backend partitions

/-- Everything that nodes hold descends from their levels. -/
structure HeldOutlines (topology : Topology) : Prop where
  gateway : ∀ {gateway policies}, topology.effective.get? gateway = some policies →
    topology.GatewayOutlines gateway policies
  route : ∀ {route partitions}, route.nodeKind = .httpRoute →
    topology.partitions.get? route = some partitions → topology.RouteOutlines route partitions
  backend : ∀ {backend partitions}, backend.nodeKind = .backend →
    topology.partitions.get? backend = some partitions →
      topology.BackendOutlines backend partitions

theorem KeepsOutlines.heldOutlines {mode : ResolutionMode} (h : KeepsOutlines mode before after)
    (nothing : before.HoldsNothing) : after.HeldOutlines where
  gateway stored := (h.gateway (h.resolvesGateway nothing stored)).2
  route ofKind stored := (h.route (h.resolvesRoute nothing ofKind stored)).2
  backend ofKind stored := (h.backend (h.resolvesBackend nothing ofKind stored)).2

theorem keepsOutlines (reachable : before.Reachable)
    (manifests : before.Admits Policy.IsManifest) (mode : ResolutionMode) :
    KeepsOutlines mode before
      ((resolve MergerRegistry.specifications.toPolicyMerger mode).run before).2 := by
  have coherent := reachable.coherent
  have reachable' := reachable.apply (.resolve MergerRegistry.specifications.toPolicyMerger mode)
  have graph := sameGraph_resolve MergerRegistry.specifications.toPolicyMerger mode before
  change Reachable ((resolve MergerRegistry.specifications.toPolicyMerger mode).run before).2
    at reachable'
  cases run : (resolve MergerRegistry.specifications.toPolicyMerger mode).run before with
  | mk result after =>
  rw [run] at reachable' graph
  have coherent' := reachable'.coherent
  have once := reachable'.indexedOnce
  have manifests' : after.Admits Policy.IsManifest := manifests.congr graph
  refine ⟨heldFrom_of_run coherent run, graph, ?_, ?_, ?_⟩
  · intro gateway policies resolves
    obtain ⟨stored, held⟩ := resolves.gatewayHeld coherent run
    exact ⟨stored, gateway_descends coherent' manifests' once held stored⟩
  · intro route partitions resolves
    have held := resolves.routeHeld coherent run
    exact ⟨held.held, route_descends coherent' manifests' once held⟩
  · intro backend partitions resolves
    have held := resolves.backendHeld coherent run
    exact ⟨held.held, backend_descends coherent' manifests' once held⟩

/-- With the registry that merges specifications, and manifests only, each effective policy has the
identity and the outline of the first policy at the most specific level that has any. If nothing was
held before, this is true of all that is held. -/
theorem resolve_keeps_outlines (reachable : before.Reachable)
    (manifests : before.Admits Policy.IsManifest) (mode : ResolutionMode) :
    KeepsOutlines mode before
        ((resolve MergerRegistry.specifications.toPolicyMerger mode).run before).2 ∧
      (before.HoldsNothing →
        ((resolve MergerRegistry.specifications.toPolicyMerger mode).run before).2.HeldOutlines) :=
  ⟨keepsOutlines reachable manifests mode, (keepsOutlines reachable manifests mode).heldOutlines⟩

/-- What a node has that takes after policies of one outline has this outline. -/
theorem Descends.exists_outline {level : List Policy} {source : Policy}
    (h : topology.Descends cone kind levels found) (specific : mostSpecific levels = level)
    (nonempty : level ≠ []) (each : ∀ policy ∈ level, policy.SameOutline source) :
    ∃ entry, found = some entry ∧ entry.SameOutline source := by
  have takesAfter := h.takesAfter
  rw [specific] at takesAfter
  cases found with
  | none => exact absurd takesAfter nonempty
  | some entry =>
      obtain ⟨first, member, outline, _⟩ := takesAfter
      exact ⟨entry, rfl, outline.trans (each first member)⟩

section TwoWays

variable {mode : ResolutionMode} {report : ResolutionReport}
  (h : Resolution MergerRegistry.specifications.toPolicyMerger mode (twoWays (.int 1)) after report)
  (sound : ∀ id, id ∉ report.failedIds) (held : after.HeldOutlines)

include h sound held

theorem gateway_outline_twoWays : ∃ policies entry,
    after.effective.get? (.gateway "n" "g") = some policies ∧
      policies.get? quotaKind = some entry ∧ entry.SameOutline (quota (.int 1)) := by
  have reachable : (twoWays (.int 1)).Reachable := .applyAll .empty _
  have node : .gateway "n" "g" ∈ (twoWays (.int 1)).idsOf .gateway := by decide
  have stored : GatewayHeld _ after (.gateway "n" "g") :=
    h.gateway_of_sound reachable.coherent (h.graph.idsOf _ ▸ node) (sound _)
  obtain ⟨policies, stored⟩ := stored.effective_iff.mpr ⟨_, h.graph.target? _ _⟩
  have own : after.kindOn quotaKind (some (.gateway "n" "g")) = [quota (.int 1)] := by
    rw [h.graph.kindOn]
    rfl
  have descends := held.gateway stored quotaKind
  rw [own] at descends
  obtain ⟨entry, found, outline⟩ := descends.exists_outline
    (Policy.mostSpecific_cons_of_ne_nil (List.cons_ne_nil _ _)) (List.cons_ne_nil _ _)
    fun policy member => by
      rw [List.mem_singleton.mp member]
      exact .refl ⟨_, rfl⟩
  exact ⟨policies, entry, stored, found, outline⟩

omit sound held in
/-- Nothing is attached to the routes and the backend themselves. -/
theorem bare_twoWays (id : ResourceId) (member : id ∈ [ResourceId.httpRoute "n" "r1",
      .httpRoute "n" "r2", .backend "" "Service" "n" "b"]) :
    id ∈ after.idsOf id.nodeKind ∧ after.kindOn quotaKind (some id) = [] ∧
      after.kindOn quotaKind (after.nameSpace? id) = [] := by
  rw [h.graph.idsOf, h.graph.kindOn, h.graph.kindOn, h.graph.nameSpace?]
  simp only [List.mem_cons, List.not_mem_nil, or_false] at member
  rcases member with rfl | rfl | rfl <;> exact ⟨by decide, rfl, rfl⟩

theorem route_outline_twoWays (route : ResourceId)
    (member : route ∈ [ResourceId.httpRoute "n" "r1", .httpRoute "n" "r2"]) :
    ∃ partitions part entry, after.partitions.get? route = some partitions ∧
      partitions.get? (.gateway "n" "g") = some part ∧ part.get? quotaKind = some entry ∧
      entry.SameOutline (quota (.int 1)) := by
  have coherent : (twoWays (.int 1)).Coherent := (Reachable.applyAll .empty _).coherent
  obtain ⟨policies, above, effective, reached, outline⟩ := gateway_outline_twoWays h sound held
  have among : route ∈ [ResourceId.httpRoute "n" "r1", .httpRoute "n" "r2",
      .backend "" "Service" "n" "b"] := List.mem_append_left [_] member
  obtain ⟨node, own, ofNameSpace⟩ := bare_twoWays h route among
  have ofKind : route.nodeKind = .httpRoute := by
    simp only [List.mem_cons, List.not_mem_nil, or_false] at member
    rcases member with rfl | rfl <;> rfl
  have target : .gateway "n" "g" ∈ after.targets .routeGateway route := by
    rw [h.graph.targets]
    simp only [List.mem_cons, List.not_mem_nil, or_false] at member
    rcases member with rfl | rfl <;> decide
  obtain ⟨partitions, atRoute⟩ := h.exists_routeHeld coherent (ofKind ▸ node) (sound _)
  obtain ⟨_, _, parts⟩ := routeParts_of_ok atRoute.result
  obtain ⟨part, stored⟩ := parts.hasPart target effective
  obtain ⟨_, again, descends⟩ := held.route ofKind atRoute.held _ _ stored
  cases effective.symm.trans again
  have descends := descends quotaKind
  rw [own, ofNameSpace, reached] at descends
  obtain ⟨entry, found, same⟩ := descends.exists_outline rfl (List.cons_ne_nil _ _)
    fun policy member => List.mem_singleton.mp member ▸ outline
  exact ⟨partitions, part, entry, atRoute.held, stored, found, same⟩

theorem backend_outline_twoWays : ∃ partitions part entry,
    after.partitions.get? (.backend "" "Service" "n" "b") = some partitions ∧
      partitions.get? (.gateway "n" "g") = some part ∧ part.get? quotaKind = some entry ∧
      entry.SameOutline (quota (.int 1)) := by
  have coherent : (twoWays (.int 1)).Coherent := (Reachable.applyAll .empty _).coherent
  obtain ⟨node, own, ofNameSpace⟩ := bare_twoWays h (.backend "" "Service" "n" "b") (by simp)
  have routes : after.sources .routeBackend (.backend "" "Service" "n" "b") =
      [.httpRoute "n" "r1", .httpRoute "n" "r2"] := by
    rw [h.graph.sources]
    rfl
  obtain ⟨ofFirst, firstPart, firstEntry, atFirst, inFirst, fromFirst, _⟩ :=
    route_outline_twoWays h sound held (.httpRoute "n" "r1") (by simp)
  obtain ⟨partitions, atBackend⟩ := h.exists_backendHeld coherent node (sound _)
  obtain ⟨_, _, _, parts⟩ := backendParts_of_ok atBackend.result
  have source : .httpRoute "n" "r1" ∈
      after.sources .routeBackend (.backend "" "Service" "n" "b") := by
    rw [routes]
    exact List.mem_cons_self
  obtain ⟨part, stored⟩ := parts.part_iff.mpr
    (visits_ne_nil_iff.mpr ⟨_, source, ofFirst, firstPart, atFirst, inFirst⟩)
  have descends := held.backend rfl atBackend.held _ _ stored quotaKind
  rw [own, ofNameSpace] at descends
  have peer : firstEntry ∈
      after.peersAt (.backend "" "Service" "n" "b") (.gateway "n" "g") quotaKind :=
    mem_peersAt.mpr ⟨_, source, ofFirst, firstPart, atFirst, inFirst, fromFirst⟩
  obtain ⟨entry, found, same⟩ := descends.exists_outline
    (Policy.mostSpecific_singleton _) (List.ne_nil_of_mem peer) fun policy member => by
      obtain ⟨route, source, _, _, atRoute, inRoute, fromRoute⟩ := mem_peersAt.mp member
      rw [routes] at source
      obtain ⟨_, _, _, again, again', again'', same⟩ :=
        route_outline_twoWays h sound held route source
      cases atRoute.symm.trans again
      cases inRoute.symm.trans again'
      cases fromRoute.symm.trans again''
      exact same
  exact ⟨partitions, part, entry, atBackend.held, stored, found, same⟩

end TwoWays

/-- What holds of the quota at the gateway, for the routes and for the backend is, apart from what
it says, the quota that is attached to the gateway. -/
theorem resolve_keeps_outlines_twoWays : (twoWays (.int 1)).Admits Policy.IsManifest ∧
    ∃ report after, (resolve MergerRegistry.specifications.toPolicyMerger .bestEffort).run
        (twoWays (.int 1)) = (.ok report, after) ∧
      (∃ policies entry, after.effective.get? (.gateway "n" "g") = some policies ∧
        policies.get? quotaKind = some entry ∧ entry.SameOutline (quota (.int 1))) ∧
      ∀ id ∈ [ResourceId.httpRoute "n" "r1", .httpRoute "n" "r2", .backend "" "Service" "n" "b"],
        ∃ partitions part entry, after.partitions.get? id = some partitions ∧
          partitions.get? (.gateway "n" "g") = some part ∧ part.get? quotaKind = some entry ∧
          entry.SameOutline (quota (.int 1)) := by
  have reachable : (twoWays (.int 1)).Reachable := .applyAll .empty _
  have manifests : (twoWays (.int 1)).Admits Policy.IsManifest :=
    (admits_twoWays (.int 1)).imp fun _ same => same ▸ ⟨_, rfl⟩
  obtain ⟨report, after, run, sound⟩ := resolve_of_compatible reachable (admits_twoWays _)
    (by rintro _ rfl; exact ⟨_, rfl, nofun⟩) (by rintro _ _ rfl rfl; exact compatible_quota)
  have h := resolution_of_run reachable.coherent run
  obtain ⟨_, held⟩ := resolve_keeps_outlines reachable manifests .bestEffort
  rw [run] at held
  have held := held ⟨fun _ => rfl, fun _ => rfl⟩
  refine ⟨manifests, report, after, run, gateway_outline_twoWays h sound held, fun id member => ?_⟩
  simp only [List.mem_cons, List.not_mem_nil, or_false] at member
  rcases member with rfl | rfl | rfl
  · exact route_outline_twoWays h sound held _ (by simp)
  · exact route_outline_twoWays h sound held _ (by simp)
  · exact backend_outline_twoWays h sound held

end Topology

end PolicyTopology
