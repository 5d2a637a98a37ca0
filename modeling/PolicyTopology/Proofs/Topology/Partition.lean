import PolicyTopology.Proofs.Topology.BothEnds
import PolicyTopology.Proofs.Topology.Cone
import PolicyTopology.Proofs.Topology.Conflict
import PolicyTopology.Proofs.Topology.DiscoveryOrder
import PolicyTopology.Proofs.Topology.Interrupted

/-!
# Parts for one gateway

A route or backend that is reached through several gateways keeps a part for each. What it has for
one gateway is determined by this gateway and by the policies on the way from it: nothing that is
attached to another gateway, or to a route that is not attached to this one, finds its way in.
-/

namespace PolicyTopology

/-- To select among identities is the same before and after they are sorted. -/
theorem sortedIds_filter (ids : List ResourceId) (keep : ResourceId → Bool) :
    (sortedIds ids).filter keep = sortedIds (ids.filter keep) :=
  List.Perm.eq_of_pairwise (fun _ _ _ _ => ResourceId.le_antisymm)
    ((pairwise_sortedIds ids).filter keep) (pairwise_sortedIds _)
    (((sortedIds_perm ids).filter keep).trans (sortedIds_perm _).symm)

namespace Topology

open Table (gather)

variable {merger : PolicyMerger} {registry : MergerRegistry} {mode mode' : ResolutionMode}
  {first second after after' : Topology} {gateway route backend id : ResourceId}
  {partitions partitions' : Partitions} {target : Option ResourceId}

/-- The policies at a target are the same in two topologies, in whatever order they came. -/
def SamePolicies (first second : Topology) (target : Option ResourceId) : Prop :=
  (second.policiesOn target).Perm (first.policiesOn target)

theorem SamePolicies.of_eq (policies : List Policy) (h : first.policiesOn target = policies)
    (h' : second.policiesOn target = policies) : SamePolicies first second target := by
  rw [SamePolicies, h, h']

/-- A registry makes the same of the same policies. -/
theorem SamePolicies.sameLevel (h : SamePolicies first second target) (coherent : first.Coherent)
    (once : first.IndexedOnce) (registry : MergerRegistry) :
    SameLevel registry.toPolicyMerger first second target :=
  MergerRegistry.mergeLevel_perm (coherent.readable_policiesOn target)
    (coherent.distinct_policiesOn once target) h

/-- Two topologies agree on a backend and on those of its routes that are attached to a gateway. -/
structure ThroughAgrees (same : Option ResourceId → Prop) (first second : Topology)
    (gateway backend : ResourceId) : Prop extends NodeAgrees same first second backend where
  attached_iff : ∀ route, (route ∈ second.sources .routeBackend backend ∧
      gateway ∈ second.targets .routeGateway route) ↔
    route ∈ first.sources .routeBackend backend ∧ gateway ∈ first.targets .routeGateway route
  attached : ∀ route ∈ first.sources .routeBackend backend,
    gateway ∈ first.targets .routeGateway route → NodeAgrees same first second route

theorem ThroughAgrees.imp {same same' : Option ResourceId → Prop}
    (h : ThroughAgrees same first second gateway backend)
    (h' : ∀ target, same target → same' target) :
    ThroughAgrees same' first second gateway backend :=
  ⟨h.toNodeAgrees.imp h', h.attached_iff, fun route source target =>
    (h.attached route source target).imp h'⟩

theorem ThroughAgrees.of_graph
    (h : ThroughAgrees (SameLevel merger first second) first second gateway backend)
    (graph : first.SameGraph after) (graph' : second.SameGraph after') :
    ThroughAgrees (SameLevel merger after after') after after' gateway backend := by
  refine ⟨h.toNodeAgrees.of_graph graph graph', fun route => ?_, fun route source target => ?_⟩
  · rw [graph.sources, graph'.sources, graph.targets, graph'.targets]
    exact h.attached_iff route
  · rw [graph.sources] at source
    rw [graph.targets] at target
    exact (h.attached route source target).of_graph graph graph'

section Parts

variable (agrees : GatewayAgrees (SameLevel merger after after') after after' gateway)

theorem levelOn_congr (h : SameLevel merger after after' target) :
    levelOn merger after' target = levelOn merger after target :=
  congrArg (fun level => (Merging.atNode level).result) h

include agrees

theorem effective_congr (h : GatewayHeld merger after gateway)
    (h' : GatewayHeld merger after' gateway) :
    after'.effective.get? gateway = after.effective.get? gateway := by
  unfold GatewayHeld at h h'
  rw [gatewayPolicies_of_agrees agrees, h] at h'
  exact (Except.ok.inj h').symm

/-- What a route has for a gateway is determined by the gateway and the two levels of the route. -/
theorem route_part_congr (h : RouteHeld merger after route partitions)
    (h' : RouteHeld merger after' route partitions')
    (levels : NodeAgrees (SameLevel merger after after') after after' route)
    (target_iff : gateway ∈ after'.targets .routeGateway route ↔
      gateway ∈ after.targets .routeGateway route) :
    partitions'.get? gateway = partitions.get? gateway := by
  obtain ⟨ofNameSpace, own, parts⟩ := routeParts_of_ok h.result
  obtain ⟨ofNameSpace', own', parts'⟩ := routeParts_of_ok h'.result
  have ofNameSpace_eq := parts'.ofNameSpace_eq
  rw [levels.nameSpace_eq, levelOn_congr levels.nameSpace, parts.ofNameSpace_eq] at ofNameSpace_eq
  cases ofNameSpace_eq
  have own_eq := parts'.own_eq
  rw [levelOn_congr levels.own, parts.own_eq] at own_eq
  cases own_eq
  have parents : after'.parentPolicies route gateway = after.parentPolicies route gateway := by
    unfold parentPolicies
    by_cases target : gateway ∈ after.targets .routeGateway route
    · rw [if_pos target, if_pos (target_iff.mpr target)]
      exact effective_congr agrees (h.gateways gateway target)
        (h'.gateways gateway (target_iff.mpr target))
    · rw [if_neg target, if_neg fun target' => target (target_iff.mp target')]
  rw [parts.get?_eq, parts'.get?_eq, parents]

end Parts

/-- A route that is not attached to a gateway has no part for it. -/
theorem RouteHeld.part_eq_none (h : RouteHeld merger after route partitions)
    (unattached : gateway ∉ after.targets .routeGateway route) :
    partitions.get? gateway = none := by
  obtain ⟨_, _, parts⟩ := routeParts_of_ok h.result
  refine Option.eq_none_iff_forall_ne_some.mpr fun part stored => ?_
  exact unattached (parts.part stored).1

/-- What the routes of a backend have for a gateway comes from those that are attached to it. -/
theorem visits_eq_attached (h : BackendHeld merger after backend partitions)
    (gateway : ResourceId) : after.visits backend gateway =
      (sortedIds (after.attachedRoutes backend gateway)).filterMap fun route =>
        ((after.partitions.get? route).bind (·.get? gateway)).map (route, ·) := by
  unfold visits attachedRoutes
  rw [← sortedIds_eq, ← sortedIds_filter, List.filterMap_filter]
  refine List.filterMap_congr fun route member => ?_
  split
  · rfl
  · next unattached =>
    obtain ⟨parts, held⟩ := h.routes route (mem_sortedIds.mp member)
    rw [held.held, Option.bind_some, held.part_eq_none (by simpa using unattached)]
    rfl

/-- What a backend has for a gateway is determined by the gateway, the routes of the backend that
are attached to it, and the levels of these and of the backend. -/
theorem backend_part_congr
    (agrees : GatewayAgrees (SameLevel merger after after') after after' gateway)
    (h : BackendHeld merger after backend partitions)
    (h' : BackendHeld merger after' backend partitions')
    (through : ThroughAgrees (SameLevel merger after after') after after' gateway backend)
    (nodup : (after.sources .routeBackend backend).Nodup)
    (nodup' : (after'.sources .routeBackend backend).Nodup) :
    partitions'.get? gateway = partitions.get? gateway := by
  obtain ⟨ofNameSpace, own, reconciled, parts⟩ := backendParts_of_ok h.result
  obtain ⟨ofNameSpace', own', reconciled', parts'⟩ := backendParts_of_ok h'.result
  have ofNameSpace_eq := parts'.ofNameSpace_eq
  rw [through.nameSpace_eq, levelOn_congr through.nameSpace, parts.ofNameSpace_eq] at ofNameSpace_eq
  cases ofNameSpace_eq
  have own_eq := parts'.own_eq
  rw [levelOn_congr through.own, parts.own_eq] at own_eq
  cases own_eq
  have attached : (after'.attachedRoutes backend gateway).Perm
      (after.attachedRoutes backend gateway) := by
    refine (List.perm_ext_iff_of_nodup (nodup'.filter _) (nodup.filter _)).mpr fun route => ?_
    simpa [attachedRoutes] using through.attached_iff route
  have visits_eq : after'.visits backend gateway = after.visits backend gateway := by
    rw [visits_eq_attached h, visits_eq_attached h', sortedIds_congr attached]
    refine List.filterMap_congr fun route member => ?_
    obtain ⟨source, target⟩ : route ∈ after.sources .routeBackend backend ∧
        gateway ∈ after.targets .routeGateway route := by
      simpa [attachedRoutes] using member
    obtain ⟨source', target'⟩ := (through.attached_iff route).mpr ⟨source, target⟩
    obtain ⟨ofRoute, held⟩ := h.routes route source
    obtain ⟨ofRoute', held'⟩ := h'.routes route source'
    rw [held.held, held'.held, Option.bind_some, Option.bind_some,
      route_part_congr agrees held held' (through.attached route source target)
        (iff_of_true target' target)]
  have gathered := parts'.reconciled_eq gateway
  rw [visits_eq, parts.reconciled_eq gateway] at gathered
  rw [parts.get?_eq, parts'.get?_eq, Except.ok.inj gathered]

/-- What a resolution works out for routes and backends is held afterwards, and is kept apart by
gateway: a route has a part for each of its gateways that has a class, and a backend for each
gateway that one of its routes has a part for. -/
structure KeptApart (merger : PolicyMerger) (mode : ResolutionMode) (before after : Topology) :
    Prop where
  route : ∀ {route partitions}, ResolvesRoute merger mode before route partitions →
    after.partitions.get? route = some partitions ∧
    ∀ gateway, (∃ part, partitions.get? gateway = some part) ↔
      gateway ∈ before.targets .routeGateway route ∧
        ∃ gatewayClass, before.target? .gatewayClass gateway = some gatewayClass
  backend : ∀ {backend partitions}, ResolvesBackend merger mode before backend partitions →
    after.partitions.get? backend = some partitions ∧
    ∀ gateway, (∃ part, partitions.get? gateway = some part) ↔
      ∃ route ∈ before.sources .routeBackend backend, ∃ ofRoute part,
        after.partitions.get? route = some ofRoute ∧ ofRoute.get? gateway = some part

theorem keptApart (merger : PolicyMerger) (mode : ResolutionMode) (coherent : first.Coherent) :
    KeptApart merger mode first ((resolve merger mode).run first).2 := by
  have graph := sameGraph_resolve merger mode first
  generalize run : (resolve merger mode).run first = ended at graph
  obtain ⟨result, after⟩ := ended
  constructor
  · intro route partitions resolves
    have held := resolves.routeHeld coherent run
    obtain ⟨_, _, parts⟩ := routeParts_of_ok held.result
    refine ⟨held.held, fun gateway => ?_⟩
    rw [parts.part_iff, ← graph.targets, ← graph.target?]
    exact and_congr_right fun target => (held.gateways gateway target).effective_iff
  · intro backend partitions resolves
    have held := resolves.backendHeld coherent run
    obtain ⟨_, _, _, parts⟩ := backendParts_of_ok held.result
    refine ⟨held.held, fun gateway => ?_⟩
    rw [parts.part_iff, visits_ne_nil_iff, RouteHasPart, ← graph.sources]

/-- What two resolutions work out for a route or backend and one gateway is the same if the
topologies agree on the gateway and on the way from it, whatever other gateways and routes there are
and whatever is attached to them. And the parts of a route are those for its gateways with a class,
those of a backend the ones that its routes have a part for. -/
theorem resolve_keeps_gateways_apart (registry : MergerRegistry) (mode mode' : ResolutionMode)
    (reachable : first.Reachable) (reachable' : second.Reachable) :
    (∀ {gateway route partitions partitions'},
      ResolvesRoute registry.toPolicyMerger mode first route partitions →
      ResolvesRoute registry.toPolicyMerger mode' second route partitions' →
      GatewayAgrees (SamePolicies first second) first second gateway →
      NodeAgrees (SamePolicies first second) first second route →
      (gateway ∈ second.targets .routeGateway route ↔
        gateway ∈ first.targets .routeGateway route) →
      partitions'.get? gateway = partitions.get? gateway) ∧
    (∀ {gateway backend partitions partitions'},
      ResolvesBackend registry.toPolicyMerger mode first backend partitions →
      ResolvesBackend registry.toPolicyMerger mode' second backend partitions' →
      GatewayAgrees (SamePolicies first second) first second gateway →
      ThroughAgrees (SamePolicies first second) first second gateway backend →
      partitions'.get? gateway = partitions.get? gateway) ∧
    KeptApart registry.toPolicyMerger mode first
      ((resolve registry.toPolicyMerger mode).run first).2 := by
  have coherent := reachable.coherent
  have coherent' := reachable'.coherent
  have graph := sameGraph_resolve registry.toPolicyMerger mode first
  have graph' := sameGraph_resolve registry.toPolicyMerger mode' second
  have sameLevel : ∀ target, SamePolicies first second target →
      SameLevel registry.toPolicyMerger first second target :=
    fun _ same => same.sameLevel coherent reachable.indexedOnce registry
  refine ⟨?_, ?_, keptApart registry.toPolicyMerger mode coherent⟩
  · intro gateway route partitions partitions' resolves resolves' agrees levels target_iff
    refine route_part_congr ((agrees.imp sameLevel).of_graph graph graph')
      (resolves.routeHeld coherent rfl) (resolves'.routeHeld coherent' rfl)
      ((levels.imp sameLevel).of_graph graph graph') ?_
    rw [graph.targets, graph'.targets]
    exact target_iff
  · intro gateway backend partitions partitions' resolves resolves' agrees through
    obtain ⟨_, linked⟩ := reachable.exists_links
    obtain ⟨_, linked'⟩ := reachable'.exists_links
    refine backend_part_congr ((agrees.imp sameLevel).of_graph graph graph')
      (resolves.backendHeld coherent rfl) (resolves'.backendHeld coherent' rfl)
      ((through.imp sameLevel).of_graph graph graph') ?_ ?_
    · rw [graph.sources]
      exact linked.nodup_sources _ _
    · rw [graph'.sources]
      exact linked'.nodup_sources _ _

def oneGateway : Topology :=
  [Operation.insert (.gatewayClass ⟨"c", ""⟩), .insert (.gateway ⟨"n", "g", "c"⟩),
    .insert (.httpRoute ⟨"n", "r", [], []⟩), .insert (.backend ⟨"n", "b", "", "Service"⟩),
    .connect .gatewayClass (.gateway "n" "g") (.gatewayClass "c"),
    .connect .routeGateway (.httpRoute "n" "r") (.gateway "n" "g"),
    .connect .routeBackend (.httpRoute "n" "r") (.backend "" "Service" "n" "b"),
    .attach (limit "a" "Gateway" "g" [("default", .object [("x", .int 1)])])].foldl
    Operation.apply .empty

/-- The same, with the route attached to a second gateway that has another policy. -/
def secondGateway : Topology :=
  [Operation.insert (.gateway ⟨"n", "h", "c"⟩),
    .connect .gatewayClass (.gateway "n" "h") (.gatewayClass "c"),
    .connect .routeGateway (.httpRoute "n" "r") (.gateway "n" "h"),
    .attach (limit "b" "Gateway" "h" [("override", .object [("x", .int 2)])])].foldl
    Operation.apply oneGateway

def gatewayLimits : List Policy :=
  [limit "a" "Gateway" "g" [("default", .object [("x", .int 1)])],
    limit "b" "Gateway" "h" [("override", .object [("x", .int 2)])]]

theorem compatible_gatewayLimits : ∀ first second, first ∈ gatewayLimits →
    second ∈ gatewayLimits → first.Compatible second := by
  have each : ∀ policy ∈ gatewayLimits,
      policy.kind = .ok ⟨"example.com", "Limit"⟩ ∧ policy.inherited = true := by
    intro policy member
    simp only [gatewayLimits, List.mem_cons, List.not_mem_nil, or_false] at member
    rcases member with rfl | rfl <;> exact ⟨rfl, rfl⟩
  intro first second member member'
  obtain ⟨kind, inherited⟩ := each first member
  obtain ⟨kind', inherited'⟩ := each second member'
  exact .of_inherited (kind.trans kind'.symm) inherited inherited'

/-- No node fails where only these policies are attached. -/
theorem resolves_of_gatewayLimits {topology : Topology} (reachable : topology.Reachable)
    (admits : topology.Admits (· ∈ gatewayLimits)) : ∃ report after,
      (resolve MergerRegistry.specifications.toPolicyMerger .bestEffort).run topology =
        (.ok report, after) ∧ ∀ id, id ∉ report.failedIds := by
  refine resolve_of_compatible reachable admits (fun policy member => ?_) compatible_gatewayLimits
  simp only [gatewayLimits, List.mem_cons, List.not_mem_nil, or_false] at member
  rcases member with same | same
  · rw [same]
    exact sectioned_limit (by decide)
  · rw [same]
    exact sectioned_limit (by decide)

theorem gatewayAgrees_secondGateway : GatewayAgrees (SamePolicies oneGateway secondGateway)
    oneGateway secondGateway (.gateway "n" "g") where
  nameSpace_eq := by decide
  nameSpace := .of_eq [] rfl rfl
  own := .of_eq [limit "a" "Gateway" "g" [("default", .object [("x", .int 1)])]] rfl rfl
  class_eq := by decide
  gatewayClass := .of_eq [] rfl rfl

theorem throughAgrees_secondGateway : ThroughAgrees (SamePolicies oneGateway secondGateway)
    oneGateway secondGateway (.gateway "n" "g") (.backend "" "Service" "n" "b") where
  nameSpace_eq := by decide
  nameSpace := .of_eq [] rfl rfl
  own := .of_eq [] rfl rfl
  attached_iff route := by
    constructor
    · rintro ⟨source, _⟩
      cases List.mem_singleton.mp (show route ∈ [.httpRoute "n" "r"] from source)
      exact ⟨source, by decide⟩
    · rintro ⟨source, _⟩
      cases List.mem_singleton.mp (show route ∈ [.httpRoute "n" "r"] from source)
      exact ⟨source, by decide⟩
  attached route source _ := by
    cases List.mem_singleton.mp (show route ∈ [.httpRoute "n" "r"] from source)
    exact ⟨by decide, .of_eq [] rfl rfl, .of_eq [] rfl rfl⟩

theorem resolve_keeps_gateways_apart_secondGateway : ∃ partitions partitions',
    ResolvesBackend MergerRegistry.specifications.toPolicyMerger .bestEffort oneGateway
      (.backend "" "Service" "n" "b") partitions ∧
    ResolvesBackend MergerRegistry.specifications.toPolicyMerger .bestEffort secondGateway
      (.backend "" "Service" "n" "b") partitions' ∧
    partitions'.get? (.gateway "n" "g") = partitions.get? (.gateway "n" "g") := by
  have reachable : oneGateway.Reachable := .applyAll .empty _
  have reachable' : secondGateway.Reachable := .applyAll reachable _
  have admits : oneGateway.Admits (· ∈ gatewayLimits) := by
    intro id attachment stored
    have member := List.mem_map_of_mem (f := fun entry => entry.2.policy)
      (Table.mem_entries_iff.mpr stored)
    exact List.mem_of_mem_take (i := 1) (l := gatewayLimits) member
  have admits' : secondGateway.Admits (· ∈ gatewayLimits) := by
    intro id attachment stored
    exact List.mem_map_of_mem (f := fun entry => entry.2.policy)
      (Table.mem_entries_iff.mpr stored)
  obtain ⟨report, after, run, sound⟩ := resolves_of_gatewayLimits reachable admits
  obtain ⟨report', after', run', sound'⟩ := resolves_of_gatewayLimits reachable' admits'
  obtain ⟨partitions, resolves⟩ := exists_resolvesBackend reachable.coherent run
    (show .backend "" "Service" "n" "b" ∈ oneGateway.idsOf .backend by decide) (sound _)
  obtain ⟨partitions', resolves'⟩ := exists_resolvesBackend reachable'.coherent run'
    (show .backend "" "Service" "n" "b" ∈ secondGateway.idsOf .backend by decide) (sound' _)
  refine ⟨partitions, partitions', resolves, resolves', ?_⟩
  obtain ⟨_, backends, _⟩ := resolve_keeps_gateways_apart MergerRegistry.specifications .bestEffort
    .bestEffort reachable reachable'
  exact backends resolves resolves' gatewayAgrees_secondGateway throughAgrees_secondGateway

end Topology

end PolicyTopology
