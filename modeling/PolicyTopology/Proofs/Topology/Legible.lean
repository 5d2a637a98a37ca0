import PolicyTopology.Proofs.Topology.Groups

/-!
# Topologies whose policies can be read together

What meets at a node can be told from its groups: if the policies of each group are legible
together, then the work on a node decides whether its groups agree, once everything that is read for
it is held. So a best-effort resolution with the registry that merges specifications comes to no
fault, whatever the policies are that never meet.
-/

namespace PolicyTopology

namespace Topology.SameGraph

variable {before after : Topology}

theorem groupAtGateway (h : before.SameGraph after) (gateway : ResourceId) :
    after.groupAtGateway gateway = before.groupAtGateway gateway := by
  simp only [Topology.groupAtGateway, h.policiesOn, h.target?, h.nameSpace?]

theorem groupAtRoute (h : before.SameGraph after) (gateway route : ResourceId) :
    after.groupAtRoute gateway route = before.groupAtRoute gateway route := by
  simp only [Topology.groupAtRoute, h.groupAtGateway, h.policiesOn, h.nameSpace?]

theorem groupAtBackend (h : before.SameGraph after) (gateway backend : ResourceId) :
    after.groupAtBackend gateway backend = before.groupAtBackend gateway backend := by
  have routes : after.groupAtRoute gateway = before.groupAtRoute gateway :=
    funext fun route => h.groupAtRoute gateway route
  simp only [Topology.groupAtBackend, Topology.attachedRoutes, routes, h.policiesOn, h.nameSpace?,
    h.sources, h.targets]

theorem groupOf (h : before.SameGraph after) {id : ResourceId} {group : List Policy}
    (member : after.GroupOf id group) : before.GroupOf id group := by
  cases member with
  | gateway kind classed =>
      rw [h.groupAtGateway]
      rw [Classed, h.target?] at classed
      exact .gateway kind classed
  | ofNameSpace kind =>
      rw [h.policiesOn, h.nameSpace?]
      exact .ofNameSpace kind
  | own kind =>
      rw [h.policiesOn]
      exact .own kind
  | route kind reached =>
      rw [h.groupAtRoute]
      rw [ReachedThrough, Classed, h.target?, h.targets] at reached
      exact .route kind reached
  | backend kind reached =>
      rw [h.groupAtBackend]
      simp only [ReachesBackend, ReachedThrough, Classed, h.target?, h.targets, h.sources]
        at reached
      exact .backend kind reached

theorem agreesAt (h : before.SameGraph after) (id : ResourceId) :
    after.AgreesAt id ↔ before.AgreesAt id :=
  ⟨fun agree group member => agree group (h.symm.groupOf member),
    fun agree group member => agree group (h.groupOf member)⟩

end Topology.SameGraph

namespace Topology

open Policy (LegibleAmong)

variable {topology before after : Topology} {id gateway route backend : ResourceId}
  {group : List Policy} {partitions : Partitions}

/-- The policies of a list are attached somewhere. -/
def Attached (topology : Topology) (group : List Policy) : Prop :=
  ∀ policy ∈ group, ∃ target, policy ∈ topology.policiesOn target

theorem attached_policiesOn (topology : Topology) (target : Option ResourceId) :
    topology.Attached (topology.policiesOn target) :=
  fun _ member => ⟨target, member⟩

theorem Attached.append {others : List Policy} (h : topology.Attached group)
    (h' : topology.Attached others) : topology.Attached (group ++ others) :=
  List.forall_mem_append.mpr ⟨h, h'⟩

theorem attached_groupAtGateway (topology : Topology) (gateway : ResourceId) :
    topology.Attached (topology.groupAtGateway gateway) :=
  ((attached_policiesOn _ _).append (attached_policiesOn _ _)).append (attached_policiesOn _ _)

theorem attached_groupAtRoute (topology : Topology) (gateway route : ResourceId) :
    topology.Attached (topology.groupAtRoute gateway route) :=
  ((attached_groupAtGateway _ _).append (attached_policiesOn _ _)).append (attached_policiesOn _ _)

theorem attached_groupAtBackend (topology : Topology) (gateway backend : ResourceId) :
    topology.Attached (topology.groupAtBackend gateway backend) := by
  refine (Attached.append ?_ (attached_policiesOn _ _)).append (attached_policiesOn _ _)
  intro policy member
  obtain ⟨route, _, member⟩ := List.mem_flatMap.mp member
  exact attached_groupAtRoute topology gateway route policy member

theorem GroupOf.attached (h : topology.GroupOf id group) : topology.Attached group := by
  cases h with
  | gateway _ _ => exact attached_groupAtGateway _ _
  | ofNameSpace _ => exact attached_policiesOn _ _
  | own _ => exact attached_policiesOn _ _
  | route _ _ => exact attached_groupAtRoute _ _ _
  | backend _ _ => exact attached_groupAtBackend _ _ _

/-- What is attached can be read up to its specification, if it is a manifest. -/
theorem Coherent.admits_specified (h : topology.Coherent)
    (manifests : topology.Admits Policy.IsManifest) : topology.Admits Policy.Specified := by
  intro id attachment stored
  obtain ⟨readable, reference, target⟩ := h.readable stored
  obtain ⟨manifest, same⟩ := manifests id attachment stored
  rw [same] at readable target ⊢
  exact ⟨⟨id, readable⟩, ManifestPolicy.spec_of_target target⟩

/-- A topology whose policies have specifications and are legible together wherever they meet. -/
structure Legible (topology : Topology) : Prop where
  specified : topology.Admits Policy.Specified
  groups : ∀ id, topology.LegibleAt id

theorem Legible.of_shaped (shaped : topology.Admits Policy.Shaped) : topology.Legible where
  specified id attachment stored := (shaped id attachment stored).specified
  groups id group member := by
    refine Policy.legibleAmong_of_shaped fun policy among => ?_
    obtain ⟨target, attached⟩ := member.attached policy among
    exact shaped.of_mem_policiesOn attached

theorem Legible.congr (h : before.Legible) (graph : before.SameGraph after) : after.Legible where
  specified := h.specified.congr graph
  groups id _ member := h.groups id _ (graph.groupOf member)

section Decides

variable (legible : topology.Legible)

include legible

/-- The work on a gateway decides whether its group agrees. -/
theorem Legible.decides_gateway (kind : gateway.nodeKind = .gateway) :
    Except.Decides NodeError.IsConflict (topology.AgreesAt gateway)
      (HeldFor (topology.Classed gateway) (topology.groupAtGateway gateway))
      (topology.gatewayPolicies MergerRegistry.specifications.toPolicyMerger gateway).result := by
  by_cases classed : topology.Classed gateway
  · have among := legible.groups gateway _ (.gateway kind classed)
    exact (decides_gatewayPolicies legible.specified classed among).congr
      (agreesAt_gateway_iff kind classed).symm fun _ _ held => held
  · rw [gatewayPolicies_of_classless (not_not.mp classed)]
    exact ⟨agreesAt_of_classless kind classed, classed⟩

theorem Legible.gateway_held (kind : gateway.nodeKind = .gateway)
    (held : GatewayHeld MergerRegistry.specifications.toPolicyMerger topology gateway) :
    HeldFor (topology.Classed gateway) (topology.groupAtGateway gateway)
      (topology.effective.get? gateway) := by
  have decided := legible.decides_gateway kind
  rw [held] at decided
  exact decided.2

variable (coherent : topology.Coherent)

include coherent

/-- The work on a route decides whether its groups agree, once its gateways hold their policies. -/
theorem Legible.decides_route (kind : route.nodeKind = .httpRoute)
    (read : ∀ gateway ∈ topology.targets .routeGateway route,
      GatewayHeld MergerRegistry.specifications.toPolicyMerger topology gateway) :
    Except.Decides NodeError.IsConflict (topology.AgreesAt route)
      (fun partitions => ∀ gateway, HeldFor (topology.ReachedThrough gateway route)
        (topology.groupAtRoute gateway route) (partitions.get? gateway))
      (topology.routePartitions MergerRegistry.specifications.toPolicyMerger [] route).result := by
  rw [agreesAt_route_iff kind]
  refine decides_routePartitions legible.specified kind (legible.groups route)
    fun gateway target => ?_
  exact legible.gateway_held (nodeKind_of_mem_idsOf (coherent.gateway_of_target target))
    (read gateway target)

theorem Legible.route_held (kind : route.nodeKind = .httpRoute)
    (held : RouteHeld MergerRegistry.specifications.toPolicyMerger topology route partitions) :
    ∀ gateway, HeldFor (topology.ReachedThrough gateway route)
      (topology.groupAtRoute gateway route) (partitions.get? gateway) := by
  have decided := legible.decides_route coherent kind held.gateways
  rw [held.result] at decided
  exact decided.2

/-- The work on a backend decides whether its groups agree, once its routes hold their parts. -/
theorem Legible.decides_backend (kind : backend.nodeKind = .backend)
    (read : ∀ route ∈ topology.sources .routeBackend backend, ∃ partitions,
      RouteHeld MergerRegistry.specifications.toPolicyMerger topology route partitions) :
    Except.Decides NodeError.IsConflict (topology.AgreesAt backend)
      (fun partitions => ∀ gateway, HeldFor (topology.ReachesBackend gateway backend)
        (topology.groupAtBackend gateway backend) (partitions.get? gateway))
      (topology.backendPartitions MergerRegistry.specifications.toPolicyMerger []
        backend).result := by
  rw [agreesAt_backend_iff kind]
  refine decides_backendPartitions legible.specified kind (legible.groups backend)
    fun route source => ?_
  obtain ⟨partitions, held⟩ := read route source
  exact ⟨partitions, held.held, legible.route_held coherent
    (nodeKind_of_mem_idsOf (coherent.route_of_source source)) held⟩

end Decides

/-- Work that decides is no end of a best-effort resolution. -/
theorem passes_of_decides {α β : Type} {agreed : Prop} {property : α → Prop}
    {result : Except NodeError α} (h : Except.Decides NodeError.IsConflict agreed property result)
    (f : α → Option β) : Outcome.Passes .bestEffort (result.map f) := by
  cases result with
  | ok value => trivial
  | error error =>
      obtain ⟨⟨conflict, rfl⟩, _⟩ := h
      rfl

/-- Where policies are legible together, no work comes to a fault. -/
theorem Legible.faultless (h : before.Legible) :
    Faultless MergerRegistry.specifications.toPolicyMerger before where
  gateway gateway member := by
    have passes := passes_of_decides (h.decides_gateway (nodeKind_of_mem_idsOf member)) id
    rwa [Except.map_id] at passes
  route graph coherent _ member held := passes_of_decides
    ((h.congr graph).decides_route coherent (nodeKind_of_mem_idsOf member) held) some
  backend graph coherent _ member held := passes_of_decides
    ((h.congr graph).decides_backend coherent (nodeKind_of_mem_idsOf member) held) some

end Topology

end PolicyTopology
