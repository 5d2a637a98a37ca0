import PolicyTopology.Proofs.Policy.United
import PolicyTopology.Proofs.Topology.Conflict
import PolicyTopology.Proofs.Topology.KindByKind
import PolicyTopology.Proofs.Topology.Partition

/-!
# Direct policies are carried down as a union

A policy that is not inherited still reaches what lies below its target. With the registry that
merges specifications, what a kind with direct policies only comes to is the union of those that are
attached to the cone of a node: to a gateway, its class and its namespace, and below it to the
routes and backends that are reached through it, and to their namespaces. It makes no difference at
which level a policy is attached, in what order the routes of a backend are visited, and how often a
node of the cone is met.
-/

namespace PolicyTopology

namespace Topology

open Policy (UnitedFrom Unites PlainUnion ofKind)

/-- Every attached policy of a kind is a direct manifest. -/
def DirectOnly (topology : Topology) (kind : MergeKind) : Prop :=
  topology.Admits fun policy =>
    policy.kind = .ok kind → policy.IsManifest ∧ policy.inherited = false

/-- The nodes whose policies reach a gateway: its class, its namespace and itself. -/
def GatewayCone (topology : Topology) (gateway target : ResourceId) : Prop :=
  topology.target? .gatewayClass gateway = some target ∨
    topology.nameSpace? gateway = some target ∨ target = gateway

/-- The nodes whose policies reach a route through a gateway. -/
def RouteCone (topology : Topology) (gateway route target : ResourceId) : Prop :=
  topology.GatewayCone gateway target ∨ topology.nameSpace? route = some target ∨ target = route

/-- The nodes whose policies reach a backend through a gateway, by any of its routes that are
attached to this gateway. -/
def BackendCone (topology : Topology) (gateway backend target : ResourceId) : Prop :=
  (∃ route ∈ topology.sources .routeBackend backend,
    gateway ∈ topology.targets .routeGateway route ∧ topology.RouteCone gateway route target) ∨
  topology.nameSpace? backend = some target ∨ target = backend

def AttachedIn (topology : Topology) (cone : ResourceId → Prop) (kind : MergeKind)
    (policy : Policy) : Prop :=
  ∃ id attachment, topology.policies.get? id = some attachment ∧ attachment.policy = policy ∧
    policy.kind = .ok kind ∧ cone attachment.target

variable {topology before after : Topology} {kind : MergeKind} {policy : Policy}
  {gatewayClass gateway route backend : ResourceId} {cone other : ResourceId → Prop}
  {policies : PoliciesByKind} {partitions : Partitions} {group others : List Policy}
  {found ancestor ofNameSpace own : Option Policy}

section Members

/-- A list of the policies of a kind that are attached to the nodes of a cone, each once or more. -/
def Gathers (topology : Topology) (cone : ResourceId → Prop) (kind : MergeKind)
    (group : List Policy) : Prop :=
  ∀ policy, policy ∈ group ↔ topology.AttachedIn cone kind policy

theorem Gathers.append (h : topology.Gathers cone kind group)
    (h' : topology.Gathers other kind others) :
    topology.Gathers (fun target => cone target ∨ other target) kind (group ++ others) := by
  intro policy
  rw [List.mem_append, h, h']
  simp only [AttachedIn, and_or_left, exists_or]

theorem Gathers.flatMap {α : Type} {items : List α} {groupOf : α → List Policy}
    {coneOf : α → ResourceId → Prop}
    (h : ∀ item ∈ items, topology.Gathers (coneOf item) kind (groupOf item)) :
    topology.Gathers (fun target => ∃ item ∈ items, coneOf item target) kind
      (items.flatMap groupOf) := by
  intro policy
  rw [List.mem_flatMap]
  constructor
  · rintro ⟨item, member, among⟩
    obtain ⟨id, attachment, stored, own, ofKind, within⟩ := (h item member policy).mp among
    exact ⟨id, attachment, stored, own, ofKind, item, member, within⟩
  · rintro ⟨id, attachment, stored, own, ofKind, item, member, within⟩
    exact ⟨item, member,
      (h item member policy).mpr ⟨id, attachment, stored, own, ofKind, within⟩⟩

theorem Gathers.congr (h : topology.Gathers cone kind group)
    (same : ∀ target, cone target ↔ other target) : topology.Gathers other kind group := by
  rwa [show other = cone from funext fun target => propext (same target).symm]

variable (coherent : topology.Coherent)

include coherent

theorem Coherent.gathers_policiesOn (target : Option ResourceId) :
    topology.Gathers (fun node => target = some node) kind
      (ofKind kind (topology.policiesOn target)) := by
  intro policy
  rw [Policy.mem_ofKind]
  cases target with
  | none =>
      constructor
      · rintro ⟨member, _⟩
        cases member
      · rintro ⟨_, _, _, _, _, absent⟩
        cases absent
  | some node =>
      constructor
      · rintro ⟨member, ofKind⟩
        obtain ⟨id, attached, found⟩ := List.mem_filterMap.mp member
        obtain ⟨attachment, stored, same⟩ := coherent.attached_iff.mp attached
        rw [stored] at found
        cases found
        exact ⟨id, attachment, stored, rfl, ofKind, congrArg some same.symm⟩
      · rintro ⟨id, attachment, stored, rfl, ofKind, same⟩
        cases same
        refine ⟨List.mem_filterMap.mpr
          ⟨id, coherent.attached_iff.mpr ⟨attachment, stored, rfl⟩, ?_⟩, ofKind⟩
        rw [stored]
        rfl

theorem Coherent.gathers_groupAtGateway (gateway : ResourceId) :
    topology.Gathers (topology.GatewayCone gateway) kind
      (ofKind kind (topology.groupAtGateway gateway)) := by
  simp only [groupAtGateway, Policy.ofKind_append]
  refine (((coherent.gathers_policiesOn _).append (coherent.gathers_policiesOn _)).append
    (coherent.gathers_policiesOn _)).congr fun target => ?_
  simp only [GatewayCone, or_assoc, Option.some.injEq, eq_comm]

theorem Coherent.gathers_groupAtRoute (gateway route : ResourceId) :
    topology.Gathers (topology.RouteCone gateway route) kind
      (ofKind kind (topology.groupAtRoute gateway route)) := by
  simp only [groupAtRoute, Policy.ofKind_append]
  refine (((coherent.gathers_groupAtGateway gateway).append (coherent.gathers_policiesOn _)).append
    (coherent.gathers_policiesOn _)).congr fun target => ?_
  simp only [RouteCone, or_assoc, Option.some.injEq, eq_comm]

end Members

theorem DirectOnly.plainUnion (direct : topology.DirectOnly kind)
    (gathers : topology.Gathers cone kind group) (united : Unites group found) :
    PlainUnion (topology.AttachedIn cone kind) found := by
  refine united.plainUnion gathers fun policy attached => ?_
  obtain ⟨id, attachment, stored, rfl, ofKind, _⟩ := attached
  exact (direct id _ stored ofKind).2

section Levels

variable (coherent : topology.Coherent) (direct : topology.DirectOnly kind)

include coherent direct

theorem DirectOnly.unites_self {target : Option ResourceId}
    (member : policy ∈ ofKind kind (topology.policiesOn target)) : UnitedFrom [policy] policy := by
  obtain ⟨id, attachment, stored, rfl, ofKind, _⟩ := (coherent.gathers_policiesOn _ _).mp member
  obtain ⟨⟨manifest, same⟩, notInherited⟩ := direct id _ stored ofKind
  obtain ⟨readable, reference, read⟩ := coherent.readable stored
  rw [same] at readable read notInherited ⊢
  have specified : Policy.Specified (.manifest manifest) :=
    ⟨⟨id, readable⟩, ManifestPolicy.spec_of_target read⟩
  refine Policy.unitedFrom_singleton (Policy.shaped_iff.mpr ⟨specified, fun inherited => ?_⟩)
    notInherited
  exact nomatch notInherited.symm.trans inherited

variable (once : topology.IndexedOnce)

include once

theorem DirectOnly.unites_peersOn {target : Option ResourceId}
    (result : peersOn MergerRegistry.specifications topology kind target = .ok found) :
    Unites (ofKind kind (topology.policiesOn target)) found := by
  rw [← coherent.peers_eq once] at result
  exact MergerRegistry.unites_peers (fun _ member => direct.unites_self coherent member) result

/-- What reaches a node, its namespace and the node itself are united. -/
theorem DirectOnly.unites_levels {node : ResourceId}
    (h : Unites (ofKind kind group) ancestor)
    (atNameSpace : peersOn MergerRegistry.specifications topology kind (topology.nameSpace? node) =
      .ok ofNameSpace)
    (atNode : peersOn MergerRegistry.specifications topology kind (some node) = .ok own)
    (result : layersOf MergerRegistry.specifications kind ancestor ofNameSpace own = .ok found) :
    Unites (ofKind kind (group ++ topology.policiesOn (topology.nameSpace? node) ++
      topology.policiesOn (some node))) found := by
  obtain ⟨middle, first, second⟩ := Except.bind_ok_iff.mp result
  rw [Policy.ofKind_append, Policy.ofKind_append]
  exact MergerRegistry.unites_chain
    (MergerRegistry.unites_chain h (direct.unites_peersOn coherent once atNameSpace) first)
    (direct.unites_peersOn coherent once atNode) second

theorem DirectOnly.unites_gatewayPolicy
    (classed : topology.target? .gatewayClass gateway = some gatewayClass)
    (result : gatewayPolicy MergerRegistry.specifications topology gatewayClass gateway kind =
      .ok found) : Unites (ofKind kind (topology.groupAtGateway gateway)) found := by
  unfold gatewayPolicy at result
  simp only [Except.bind_ok_iff] at result
  obtain ⟨ofClass, atClass, ofNameSpace, atNameSpace, own, atNode, result⟩ := result
  rw [groupAtGateway, classed]
  exact direct.unites_levels coherent once (direct.unites_peersOn coherent once atClass) atNameSpace
    atNode result

theorem DirectOnly.unites_routePolicy
    (reached : Unites (ofKind kind (topology.groupAtGateway gateway)) (policies.get? kind))
    (result : routePolicy MergerRegistry.specifications topology route policies kind = .ok found) :
    Unites (ofKind kind (topology.groupAtRoute gateway route)) found := by
  unfold routePolicy at result
  simp only [Except.bind_ok_iff] at result
  obtain ⟨ofNameSpace, atNameSpace, own, atNode, result⟩ := result
  exact direct.unites_levels coherent once reached atNameSpace atNode result

theorem DirectOnly.unites_backendPolicy
    (visited : ∀ visit ∈ topology.visits backend gateway,
      Unites (ofKind kind (topology.groupAtRoute gateway visit.1)) (visit.2.get? kind))
    (result : backendPolicy MergerRegistry.specifications topology backend gateway kind =
      .ok found) :
    Unites (ofKind kind ((topology.visits backend gateway).flatMap
        (fun visit => topology.groupAtRoute gateway visit.1) ++
      topology.policiesOn (topology.nameSpace? backend) ++ topology.policiesOn (some backend)))
      found := by
  unfold backendPolicy at result
  simp only [Except.bind_ok_iff] at result
  obtain ⟨ofNameSpace, atNameSpace, own, atNode, reunited, gathered, result⟩ := result
  refine direct.unites_levels coherent once ?_ atNameSpace atNode result
  have united := MergerRegistry.unites_reunited visited gathered
  rwa [ofKind, List.filter_flatMap]

end Levels

section Held

variable {registry : MergerRegistry}

/-- What a backend visits is a part of a route that holds what the work on it comes to. -/
theorem BackendHeld.routeHeld
    (held : BackendHeld registry.toPolicyMerger topology backend partitions)
    (visited : (route, policies) ∈ topology.visits backend gateway) :
    route ∈ topology.sources .routeBackend backend ∧ ∃ ofRoute,
      RouteHeld registry.toPolicyMerger topology route ofRoute ∧
        ofRoute.get? gateway = some policies := by
  obtain ⟨source, ofRoute, held', stored⟩ := mem_visits.mp visited
  obtain ⟨_, atRoute⟩ := held.routes route source
  cases held'.symm.trans atRoute.held
  exact ⟨source, ofRoute, atRoute, stored⟩

variable (coherent : topology.Coherent) (once : topology.IndexedOnce)

include coherent once

/-- The routes that are visited for a gateway with policies are those that are attached to it. -/
theorem BackendHeld.visited_iff
    (held : BackendHeld registry.toPolicyMerger topology backend partitions) :
    (∃ policies, (route, policies) ∈ topology.visits backend gateway) ↔
      route ∈ topology.sources .routeBackend backend ∧
        gateway ∈ topology.targets .routeGateway route ∧
          ∃ policies, topology.effective.get? gateway = some policies := by
  have byKind := kindByKind coherent once registry
  constructor
  · rintro ⟨policies, visited⟩
    obtain ⟨source, ofRoute, atRoute, stored⟩ := held.routeHeld visited
    exact ⟨source, (byKind.route_part_iff atRoute.result).mp ⟨policies, stored⟩⟩
  · rintro ⟨source, attached⟩
    obtain ⟨ofRoute, atRoute⟩ := held.routes route source
    obtain ⟨policies, stored⟩ := (byKind.route_part_iff atRoute.result).mpr attached
    exact ⟨policies, mem_visits.mpr ⟨source, ofRoute, atRoute.held, stored⟩⟩

/-- A backend has a part for each gateway with a class that one of its routes is attached to. -/
theorem BackendHeld.exists_part
    (held : BackendHeld registry.toPolicyMerger topology backend partitions)
    (source : route ∈ topology.sources .routeBackend backend)
    (target : gateway ∈ topology.targets .routeGateway route)
    (classed : topology.target? .gatewayClass gateway = some gatewayClass) :
    ∃ part, partitions.get? gateway = some part := by
  have byKind := kindByKind coherent once registry
  obtain ⟨_, atRoute⟩ := held.routes route source
  have above := (atRoute.gateways gateway target).effective_iff.mpr ⟨gatewayClass, classed⟩
  obtain ⟨_, stored⟩ := (byKind.route_part_iff atRoute.result).mpr ⟨target, above⟩
  exact (byKind.backend_part_iff held.result).mpr ⟨route, source, _, _, atRoute.held, stored⟩

/-- What a backend is reached by on the ways that it visits, and has itself, is what is attached to
its cone. -/
theorem BackendHeld.gathers_visits
    (held : BackendHeld registry.toPolicyMerger topology backend partitions)
    (reached : topology.RouteHasPart backend gateway) :
    topology.Gathers (topology.BackendCone gateway backend) kind
      (ofKind kind ((topology.visits backend gateway).flatMap
          (fun visit => topology.groupAtRoute gateway visit.1) ++
        topology.policiesOn (topology.nameSpace? backend) ++
        topology.policiesOn (some backend))) := by
  obtain ⟨⟨_, _⟩, visited⟩ := List.exists_mem_of_ne_nil _ (visits_ne_nil_iff.mpr reached)
  obtain ⟨_, _, above⟩ := (held.visited_iff coherent once).mp ⟨_, visited⟩
  have attached : ∀ target, (∃ visit ∈ topology.visits backend gateway,
      topology.RouteCone gateway visit.1 target) ↔
      ∃ route ∈ topology.sources .routeBackend backend,
        gateway ∈ topology.targets .routeGateway route ∧
          topology.RouteCone gateway route target := by
    intro target
    constructor
    · rintro ⟨⟨route, policies⟩, visited, within⟩
      obtain ⟨source, attached, _⟩ := (held.visited_iff coherent once).mp ⟨policies, visited⟩
      exact ⟨route, source, attached, within⟩
    · rintro ⟨route, source, attached, within⟩
      obtain ⟨policies, visited⟩ := (held.visited_iff coherent once).mpr ⟨source, attached, above⟩
      exact ⟨(route, policies), visited, within⟩
  rw [Policy.ofKind_append, Policy.ofKind_append, ofKind, ofKind, List.filter_flatMap]
  refine (((Gathers.flatMap fun visit _ => coherent.gathers_groupAtRoute gateway visit.1).append
    (coherent.gathers_policiesOn _)).append (coherent.gathers_policiesOn _)).congr fun target => ?_
  simp only [BackendCone, attached, or_assoc, Option.some.injEq, eq_comm]

variable (direct : topology.DirectOnly kind)

include direct

theorem DirectOnly.unites_gateway
    (held : GatewayHeld MergerRegistry.specifications.toPolicyMerger topology gateway)
    (stored : topology.effective.get? gateway = some policies) :
    Unites (ofKind kind (topology.groupAtGateway gateway)) (policies.get? kind) := by
  have classed := coherent.effective_classed (by rw [stored]; exact nofun)
  obtain ⟨gatewayClass, classed⟩ := Option.ne_none_iff_exists'.mp classed
  obtain ⟨_, same, entry⟩ := (kindByKind coherent once MergerRegistry.specifications).gateway_entry
    classed held
  cases stored.symm.trans same
  exact direct.unites_gatewayPolicy coherent once classed (entry kind)

theorem DirectOnly.unites_route
    (held : RouteHeld MergerRegistry.specifications.toPolicyMerger topology route partitions)
    (stored : partitions.get? gateway = some policies) :
    Unites (ofKind kind (topology.groupAtRoute gateway route)) (policies.get? kind) := by
  have byKind := kindByKind coherent once MergerRegistry.specifications
  obtain ⟨attached, above, reached⟩ := (byKind.route_part_iff held.result).mp ⟨policies, stored⟩
  have united := direct.unites_gateway coherent once (held.gateways gateway attached) reached
  exact direct.unites_routePolicy coherent once united
    (byKind.route_entry held.result stored reached kind)

theorem DirectOnly.unites_backend
    (held : BackendHeld MergerRegistry.specifications.toPolicyMerger topology backend partitions)
    (stored : partitions.get? gateway = some policies) :
    Unites (ofKind kind ((topology.visits backend gateway).flatMap
        (fun visit => topology.groupAtRoute gateway visit.1) ++
      topology.policiesOn (topology.nameSpace? backend) ++ topology.policiesOn (some backend)))
      (policies.get? kind) := by
  have byKind := kindByKind coherent once MergerRegistry.specifications
  refine direct.unites_backendPolicy coherent once (fun visit visited => ?_)
    (byKind.backend_entry held.result stored kind)
  obtain ⟨_, ofRoute, atRoute, stored'⟩ := held.routeHeld visited
  exact direct.unites_route coherent once atRoute stored'

end Held

namespace SameGraph

variable (graph : before.SameGraph after)

include graph

theorem gatewayCone (gateway : ResourceId) :
    after.GatewayCone gateway = before.GatewayCone gateway := by
  funext target
  simp only [GatewayCone, graph.target?, graph.nameSpace?]

theorem routeCone (gateway route : ResourceId) :
    after.RouteCone gateway route = before.RouteCone gateway route := by
  funext target
  simp only [RouteCone, graph.gatewayCone, graph.nameSpace?]

theorem backendCone (gateway backend : ResourceId) :
    after.BackendCone gateway backend = before.BackendCone gateway backend := by
  funext target
  simp only [BackendCone, graph.routeCone, graph.nameSpace?, graph.sources, graph.targets]

theorem attachedIn (cone : ResourceId → Prop) (kind : MergeKind) :
    after.AttachedIn cone kind = before.AttachedIn cone kind := by
  funext policy
  simp only [AttachedIn, graph.policies]

end SameGraph

/-- What a resolution that leads from `before` to `after` works out for a node is held there, and
for a kind it is the plain union of the policies that are attached to the cone of the node. -/
structure HoldsUnions (kind : MergeKind) (mode : ResolutionMode) (before after : Topology) :
    Prop where
  gateway : ∀ {gateway policies},
    ResolvesGateway MergerRegistry.specifications.toPolicyMerger mode before gateway policies →
      after.effective.get? gateway = some policies ∧
      PlainUnion (before.AttachedIn (before.GatewayCone gateway) kind) (policies.get? kind)
  route : ∀ {route partitions},
    ResolvesRoute MergerRegistry.specifications.toPolicyMerger mode before route partitions →
      after.partitions.get? route = some partitions ∧
      ∀ gateway part, partitions.get? gateway = some part →
        PlainUnion (before.AttachedIn (before.RouteCone gateway route) kind) (part.get? kind)
  backend : ∀ {backend partitions},
    ResolvesBackend MergerRegistry.specifications.toPolicyMerger mode before backend partitions →
      after.partitions.get? backend = some partitions ∧
      ∀ gateway part, partitions.get? gateway = some part →
        PlainUnion (before.AttachedIn (before.BackendCone gateway backend) kind) (part.get? kind)

/-- Policies of a kind with direct policies only are carried down as a plain union. -/
theorem resolve_unites_direct (reachable : before.Reachable) (direct : before.DirectOnly kind)
    (mode : ResolutionMode) :
    HoldsUnions kind mode before
      ((resolve MergerRegistry.specifications.toPolicyMerger mode).run before).2 := by
  have coherent := reachable.coherent
  have reachable' := reachable.apply (.resolve MergerRegistry.specifications.toPolicyMerger mode)
  have graph := sameGraph_resolve MergerRegistry.specifications.toPolicyMerger mode before
  change Reachable ((resolve MergerRegistry.specifications.toPolicyMerger mode).run before).2
    at reachable'
  cases run : (resolve MergerRegistry.specifications.toPolicyMerger mode).run before with
  | mk result after =>
  rw [run] at reachable' graph
  have coherent' := reachable'.coherent
  have once := reachable'.indexedOnce
  have direct' : after.DirectOnly kind := direct.congr graph
  constructor
  · intro gateway policies resolves
    obtain ⟨stored, held⟩ := resolves.gatewayHeld coherent run
    rw [← graph.attachedIn, ← graph.gatewayCone]
    exact ⟨stored, direct'.plainUnion (coherent'.gathers_groupAtGateway gateway)
      (direct'.unites_gateway coherent' once held stored)⟩
  · intro route partitions resolves
    have held := resolves.routeHeld coherent run
    refine ⟨held.held, fun gateway part stored => ?_⟩
    rw [← graph.attachedIn, ← graph.routeCone]
    exact direct'.plainUnion (coherent'.gathers_groupAtRoute gateway route)
      (direct'.unites_route coherent' once held stored)
  · intro backend partitions resolves
    have held := resolves.backendHeld coherent run
    refine ⟨held.held, fun gateway part stored => ?_⟩
    have reached := ((kindByKind coherent' once _).backend_part_iff held.result).mp ⟨part, stored⟩
    rw [← graph.attachedIn, ← graph.backendCone]
    exact direct'.plainUnion (held.gathers_visits coherent' once reached)
      (direct'.unites_backend coherent' once held stored)

theorem directOnly_twoWays (kind : MergeKind) : (twoWays (.int 1)).DirectOnly kind :=
  (admits_twoWays (.int 1)).imp fun _ same _ => same ▸ ⟨⟨_, rfl⟩, rfl⟩

theorem quota_attachedIn_twoWays : (twoWays (.int 1)).AttachedIn
    ((twoWays (.int 1)).BackendCone (.gateway "n" "g") (.backend "" "Service" "n" "b"))
    ⟨"example.com", "Quota"⟩ (quota (.int 1)) := by
  refine ⟨.policy "example.com" "Quota" "n" "q", _, rfl, rfl, rfl, .inl ?_⟩
  exact ⟨.httpRoute "n" "r1", by decide, by decide, .inl (.inr (.inr rfl))⟩

/-- The backend is resolved, and it has a part for the gateway. -/
theorem exists_part_twoWays : ∃ partitions part,
    ResolvesBackend MergerRegistry.specifications.toPolicyMerger .bestEffort (twoWays (.int 1))
        (.backend "" "Service" "n" "b") partitions ∧
      partitions.get? (.gateway "n" "g") = some part := by
  have reachable : (twoWays (.int 1)).Reachable := .applyAll .empty _
  obtain ⟨report, after, run, sound⟩ := resolve_of_compatible reachable (admits_twoWays _)
    (by rintro _ rfl; exact ⟨_, rfl, fun inherited => nomatch inherited⟩)
    (by rintro _ _ rfl rfl; exact ⟨rfl, rfl, fun _ => by decide⟩)
  have graph := (resolution_of_run reachable.coherent run).graph
  have node : .backend "" "Service" "n" "b" ∈ (twoWays (.int 1)).idsOf .backend := by decide
  obtain ⟨partitions, resolves⟩ := exists_resolvesBackend reachable.coherent run node (sound _)
  have reachable' := reachable.apply
    (.resolve MergerRegistry.specifications.toPolicyMerger .bestEffort)
  rw [Operation.apply, run] at reachable'
  have source : .httpRoute "n" "r1" ∈ after.sources .routeBackend
      (.backend "" "Service" "n" "b") := by
    rw [graph.sources]
    decide
  have target : .gateway "n" "g" ∈ after.targets .routeGateway (.httpRoute "n" "r1") := by
    rw [graph.targets]
    decide
  have classed : after.target? .gatewayClass (.gateway "n" "g") = some (.gatewayClass "c") :=
    graph.target? _ _
  obtain ⟨part, stored⟩ := (resolves.backendHeld reachable.coherent run).exists_part
    reachable'.coherent reachable'.indexedOnce source target classed
  exact ⟨partitions, part, resolves, stored⟩

/-- The quota of the backend is the union of the one policy that reaches it by both its routes. -/
theorem resolve_unites_direct_twoWays : ∃ partitions part policy,
    ResolvesBackend MergerRegistry.specifications.toPolicyMerger .bestEffort (twoWays (.int 1))
        (.backend "" "Service" "n" "b") partitions ∧
      partitions.get? (.gateway "n" "g") = some part ∧
      part.get? ⟨"example.com", "Quota"⟩ = some policy ∧
      PlainUnion ((twoWays (.int 1)).AttachedIn
        ((twoWays (.int 1)).BackendCone (.gateway "n" "g") (.backend "" "Service" "n" "b"))
        ⟨"example.com", "Quota"⟩) (some policy) := by
  have holds := resolve_unites_direct (.applyAll .empty _)
    (directOnly_twoWays ⟨"example.com", "Quota"⟩) .bestEffort
  obtain ⟨partitions, part, resolves, stored⟩ := exists_part_twoWays
  have union := (holds.backend resolves).2 _ part stored
  obtain ⟨policy, found⟩ := union.exists_iff.mpr ⟨_, quota_attachedIn_twoWays⟩
  exact ⟨partitions, part, policy, resolves, stored, found, found ▸ union⟩

end Topology

end PolicyTopology
