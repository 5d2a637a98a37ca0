import PolicyTopology.Proofs.Topology.Attached
import PolicyTopology.Proofs.Topology.Interrupted

/-!
# Inheritance from the nodes above

Nodes inherit one pass after another, from what has been stored for their parents. What comes of it
can be said at once: a node inherits the inheritable policies that are attached to a node above it.
Above a gateway are its namespace and its class, above a route its namespace, its gateways and what
is above these, and above a backend its namespace, the routes that refer to it and what is above
these. This is settled by the edges and the attached policies, so neither earlier runs nor the way
in which a resolution ends make a difference.
-/

namespace PolicyTopology

namespace Topology

variable {topology : Topology} {policy id gateway place : ResourceId} {parents : List ResourceId}
  {first second : ResourceId → Prop} {above : ResourceId → ResourceId → Prop}

def AboveGateway (topology : Topology) (gateway place : ResourceId) : Prop :=
  topology.nameSpace? gateway = some place ∨ topology.target? .gatewayClass gateway = some place

/-- A node is the namespace of a route, one of its gateways, or above one of these. -/
def AboveRoute (topology : Topology) (route place : ResourceId) : Prop :=
  topology.nameSpace? route = some place ∨ ∃ gateway ∈ topology.targets .routeGateway route,
    place = gateway ∨ topology.AboveGateway gateway place

/-- A node is the namespace of a backend, a route that refers to it, or above one of these. -/
def AboveBackend (topology : Topology) (backend place : ResourceId) : Prop :=
  topology.nameSpace? backend = some place ∨ ∃ route ∈ topology.sources .routeBackend backend,
    place = route ∨ topology.AboveRoute route place

def InheritableAt (topology : Topology) (places : ResourceId → Prop) (policy : ResourceId) : Prop :=
  ∃ attachment, topology.policies.get? policy = some attachment ∧
    attachment.policy.inherited = true ∧ places attachment.target

/-- What is stored as inherited by a node are the inheritable policies of some places, each once. -/
def InheritsFrom (topology : Topology) (id : ResourceId) (places : ResourceId → Prop) : Prop :=
  ∃ policies, topology.inherited.get? id = some policies ∧ policies.Nodup ∧
    ∀ policy, policy ∈ policies ↔ topology.InheritableAt places policy

/-- Every node inherits the inheritable policies of the nodes above it. -/
structure InheritsFromAbove (topology : Topology) : Prop where
  gateway : ∀ gateway ∈ topology.idsOf .gateway,
    topology.InheritsFrom gateway (topology.AboveGateway gateway)
  route : ∀ route ∈ topology.idsOf .httpRoute,
    topology.InheritsFrom route (topology.AboveRoute route)
  backend : ∀ backend ∈ topology.idsOf .backend,
    topology.InheritsFrom backend (topology.AboveBackend backend)

/-! ### One node -/

theorem inheritableAt_or : topology.InheritableAt (fun place => first place ∨ second place) policy ↔
    topology.InheritableAt first policy ∨ topology.InheritableAt second policy := by
  simp only [InheritableAt, and_or_left, exists_or]

theorem inheritableAt_exists :
    topology.InheritableAt (fun place => ∃ parent ∈ parents, above parent place) policy ↔
      ∃ parent ∈ parents, topology.InheritableAt (above parent) policy := by
  constructor
  · rintro ⟨attachment, held, inheritable, parent, member, reached⟩
    exact ⟨parent, member, attachment, held, inheritable, reached⟩
  · rintro ⟨parent, member, attachment, held, inheritable, reached⟩
    exact ⟨attachment, held, inheritable, parent, member, reached⟩

theorem Coherent.mem_inheritableOn (coherent : topology.Coherent) {target : Option ResourceId} :
    policy ∈ topology.inheritableOn target ↔
      topology.InheritableAt (fun place => target = some place) policy := by
  cases target with
  | none => simp [inheritableOn, InheritableAt]
  | some target =>
      simp only [inheritableOn, List.mem_filter, coherent.attached_iff, isInheritable,
        InheritableAt, Option.some.injEq]
      constructor
      · rintro ⟨⟨attachment, held, same⟩, inheritable⟩
        rw [held] at inheritable
        exact ⟨attachment, held, inheritable, same.symm⟩
      · rintro ⟨attachment, held, inheritable, same⟩
        refine ⟨⟨attachment, held, same.symm⟩, ?_⟩
        rw [held]
        exact inheritable

theorem IndexedOnce.nodup_inheritableOn (once : topology.IndexedOnce) (target : Option ResourceId) :
    (topology.inheritableOn target).Nodup := by
  cases target with
  | none => exact List.nodup_nil
  | some target => exact (once target).filter _

theorem mem_inheritedFrom :
    policy ∈ topology.inheritedFrom id parents ↔
      policy ∈ topology.inheritableOn (topology.nameSpace? id) ∨
        ∃ parent ∈ parents, policy ∈ topology.inheritableOn (some parent) ∨
          policy ∈ (topology.inherited.get? parent).getD [] := by
  unfold inheritedFrom
  generalize topology.inheritableOn (topology.nameSpace? id) = start
  have sorted : ∀ parent, parent ∈ parents ↔ parent ∈ sortedIds parents :=
    fun _ => mem_sortedIds.symm
  simp only [sorted]
  generalize sortedIds parents = ordered
  clear sorted
  induction ordered generalizing start with
  | nil => simp
  | cons parent rest ih =>
      refine (ih _).trans ?_
      rw [mem_addMissing, mem_addMissing, List.exists_mem_cons_iff]
      grind

theorem IndexedOnce.nodup_inheritedFrom (once : topology.IndexedOnce) (id : ResourceId)
    (parents : List ResourceId) : (topology.inheritedFrom id parents).Nodup := by
  unfold inheritedFrom
  have start := once.nodup_inheritableOn (topology.nameSpace? id)
  generalize topology.inheritableOn (topology.nameSpace? id) = result at start
  generalize sortedIds parents = parents
  induction parents generalizing result with
  | nil => exact start
  | cons parent rest ih => exact ih _ (nodup_addMissing (nodup_addMissing start _) _)

theorem Coherent.mem_gatewayInherited (coherent : topology.Coherent) :
    policy ∈ topology.gatewayInherited gateway ↔
      topology.InheritableAt (topology.AboveGateway gateway) policy := by
  unfold gatewayInherited AboveGateway
  rw [mem_addMissing, coherent.mem_inheritableOn, coherent.mem_inheritableOn, inheritableAt_or]

/-- What a node inherits through its parents, if it is stored what these inherit. -/
theorem Coherent.mem_inheritedFrom (coherent : topology.Coherent)
    (stored : ∀ parent ∈ parents, topology.InheritsFrom parent (above parent)) :
    policy ∈ topology.inheritedFrom id parents ↔
      topology.InheritableAt (fun place => topology.nameSpace? id = some place ∨
        ∃ parent ∈ parents, place = parent ∨ above parent place) policy := by
  rw [Topology.mem_inheritedFrom, inheritableAt_or, inheritableAt_exists,
    coherent.mem_inheritableOn]
  refine or_congr_right (exists_congr fun parent => and_congr_right fun member => ?_)
  obtain ⟨policies, found, _, listed⟩ := stored parent member
  rw [inheritableAt_or, coherent.mem_inheritableOn, found, Option.getD_some, listed]
  simp only [Option.some.injEq, eq_comm]

/-! ### All nodes -/

/-- After the pass over a kind, its nodes inherit what they inherited at the start, and the others
what they inherited before. -/
theorem inheritAll_inheritsFrom {kind : NodeKind}
    {inherits : Topology → ResourceId → List ResourceId}
    (apart : topology.InheritsApart kind inherits)
    (nodup : ∀ id, (inherits topology id).Nodup)
    (listed : ∀ {id}, id ∈ topology.idsOf kind → ∀ policy,
      policy ∈ inherits topology id ↔ topology.InheritableAt (above id) policy) :
    ∃ inherited, topology.inheritAll kind inherits = { topology with inherited } ∧
      (∀ id ∈ topology.idsOf kind,
        ({ topology with inherited } : Topology).InheritsFrom id (above id)) ∧
      ∀ id places, id.nodeKind ≠ kind → topology.InheritsFrom id places →
        ({ topology with inherited } : Topology).InheritsFrom id places := by
  obtain ⟨inherited, result, read⟩ := inheritAll_of_apart apart
  refine ⟨inherited, result, fun id member => ?_, fun id places other former => ?_⟩
  · exact ⟨_, (read id).trans (if_pos member), nodup id, listed member⟩
  · obtain ⟨policies, found, rest⟩ := former
    have outside : id ∉ topology.idsOf kind := fun member => other (nodeKind_of_mem_idsOf member)
    exact ⟨policies, (read id).trans ((if_neg outside).trans found), rest⟩

/-- The passes lead to inheritance from above, whatever has been stored before. -/
theorem Coherent.inheritsFromAbove_inherit (coherent : topology.Coherent)
    (once : topology.IndexedOnce) : topology.inherit.InheritsFromAbove := by
  obtain ⟨ofGateways, gateways, gatewayG, -⟩ :=
    inheritAll_inheritsFrom (gateways_inherit_apart topology)
      (fun _ => nodup_addMissing (once.nodup_inheritableOn _) _)
      fun _ _ => coherent.mem_gatewayInherited
  have coherentG : ({ topology with inherited := ofGateways } : Topology).Coherent :=
    coherent.congr ..
  have onceG : ({ topology with inherited := ofGateways } : Topology).IndexedOnce := once
  obtain ⟨ofRoutes, routes, routeR, formerR⟩ :=
    inheritAll_inheritsFrom (routes_inherit_apart coherentG)
      (fun _ => onceG.nodup_inheritedFrom _ _) fun _ _ => coherentG.mem_inheritedFrom
        fun gateway member => gatewayG gateway (coherentG.gateway_of_target member)
  have coherentR : ({ topology with inherited := ofRoutes } : Topology).Coherent :=
    coherent.congr ..
  have onceR : ({ topology with inherited := ofRoutes } : Topology).IndexedOnce := once
  obtain ⟨ofBackends, backends, backendB, formerB⟩ :=
    inheritAll_inheritsFrom (backends_inherit_apart coherentR)
      (fun _ => onceR.nodup_inheritedFrom _ _) fun _ _ => coherentR.mem_inheritedFrom
        fun route member => routeR route (coherentR.route_of_source member)
  have result : topology.inherit = ({ topology with inherited := ofBackends } : Topology).record
      [.inheritanceCompleted (topology.idsOf .gateway).length (topology.idsOf .httpRoute).length
        (topology.idsOf .backend).length] := by
    rw [Topology.inherit, gateways, routes, backends]
  rw [result]
  refine ⟨fun gateway member => ?_, fun route member => ?_, backendB⟩
  · have ofKind : gateway.nodeKind = .gateway := nodeKind_of_mem_idsOf member
    have afterRoutes := formerR gateway _ (by rw [ofKind]; decide) (gatewayG gateway member)
    exact formerB gateway _ (by rw [ofKind]; decide) afterRoutes
  · have ofKind : route.nodeKind = .httpRoute := nodeKind_of_mem_idsOf member
    exact formerB route _ (by rw [ofKind]; decide) (routeR route member)

theorem InheritsFromAbove.record (h : topology.InheritsFromAbove) (events : List Event) :
    (topology.record events).InheritsFromAbove :=
  ⟨h.gateway, h.route, h.backend⟩

/-! ### Builds -/

/-- Two topologies with the same nodes, edges and policies in which nodes inherit the same. -/
structure SameInheritance (first second : Topology) : Prop extends SameGraph first second where
  inherited : second.inherited = first.inherited

namespace SameInheritance

variable {first second : Topology}

theorem record (h : SameInheritance first second) (events : List Event) :
    SameInheritance first (second.record events) :=
  ⟨⟨h.nodes, h.outgoing, h.incoming, h.policies, h.attached⟩, h.inherited⟩

theorem recordBoth (h : SameInheritance first second) (events more : List Event) :
    SameInheritance (first.record events) (second.record more) :=
  ⟨⟨h.nodes, h.outgoing, h.incoming, h.policies, h.attached⟩, h.inherited⟩

theorem inheritableOn (h : SameInheritance first second) (target : Option ResourceId) :
    second.inheritableOn target = first.inheritableOn target := by
  have inheritable : second.isInheritable = first.isInheritable := by
    funext id
    rw [isInheritable, h.policies]
    rfl
  cases target with
  | none => rfl
  | some target => rw [Topology.inheritableOn, h.policyIdsOn, inheritable, Topology.inheritableOn]

theorem gatewayInherited (h : SameInheritance first second) (gateway : ResourceId) :
    second.gatewayInherited gateway = first.gatewayInherited gateway := by
  rw [Topology.gatewayInherited, h.inheritableOn, h.inheritableOn, h.nameSpace?, h.target?,
    Topology.gatewayInherited]

theorem inheritedFrom (h : SameInheritance first second) (id : ResourceId)
    (parents : List ResourceId) :
    second.inheritedFrom id parents = first.inheritedFrom id parents := by
  simp only [Topology.inheritedFrom, h.inheritableOn, h.nameSpace?, h.inherited]

theorem inheritAll (h : SameInheritance first second) (kind : NodeKind)
    (inherits : Topology → ResourceId → List ResourceId)
    (same : ∀ {first second}, SameInheritance first second → ∀ id,
      inherits second id = inherits first id) :
    SameInheritance (first.inheritAll kind inherits) (second.inheritAll kind inherits) := by
  unfold Topology.inheritAll
  rw [h.idsOf]
  generalize first.idsOf kind = ids
  induction ids generalizing first second with
  | nil => exact h
  | cons id rest ih =>
      refine ih ⟨⟨h.nodes, h.outgoing, h.incoming, h.policies, h.attached⟩, ?_⟩
      dsimp only
      rw [same h, h.inherited]

theorem inherit (h : SameInheritance first second) :
    SameInheritance first.inherit second.inherit := by
  have gateways := h.inheritAll .gateway Topology.gatewayInherited fun h => h.gatewayInherited
  have routes := gateways.inheritAll .httpRoute routeInherited fun h route => by
    rw [routeInherited, h.inheritedFrom, h.targets, routeInherited]
  have backends := routes.inheritAll .backend backendInherited fun h backend => by
    rw [backendInherited, h.inheritedFrom, h.sources, backendInherited]
  unfold Topology.inherit
  exact backends.recordBoth _ _

theorem survivesResolution (topology : Topology) :
    SurvivesResolution (SameInheritance topology) where
  record events h := h.record events
  effective _ h := ⟨⟨h.nodes, h.outgoing, h.incoming, h.policies, h.attached⟩, h.inherited⟩
  partitions _ h := ⟨⟨h.nodes, h.outgoing, h.incoming, h.policies, h.attached⟩, h.inherited⟩

theorem resolve (merger : PolicyMerger) (mode : ResolutionMode) (topology : Topology) :
    SameInheritance topology ((Topology.resolve merger mode).run topology).2 :=
  (survivesResolution topology).resolve merger mode topology ⟨.refl topology, rfl⟩

end SameInheritance

theorem sameGraph_inherit (topology : Topology) : topology.SameGraph topology.inherit :=
  @inherit_keeps (SameGraph topology) topology
    (fun _ same => same.trans ⟨rfl, rfl, rfl, rfl, rfl⟩)
    (fun _ same => same.trans ⟨rfl, rfl, rfl, rfl, rfl⟩) (.refl topology)

/-- What a build leaves behind if its policies can be read, whatever comes of the resolution: the
nodes inherit what they do without one. -/
structure BuiltInheritance (snapshot : Snapshot) (built : Topology) : Prop
    extends SameInheritance ((attachAll snapshot.policies).run snapshot.graph).2.inherit built where
  fromAbove : built.InheritsFromAbove

/-- If all policies of a snapshot can be read, its build goes on to the resolution. -/
theorem run_build_of_readable {snapshot : Snapshot}
    (readable : ∀ policy ∈ snapshot.policies, policy.Readable) (merger : PolicyMerger)
    (mode : ResolutionMode) :
    ∃ attached, attached.Reachable ∧
      (attachAll snapshot.policies).run snapshot.graph = (.ok (), attached) ∧
      (build snapshot merger mode).run .empty = (complete merger mode).run attached := by
  have reachable := snapshot.reachable_graph.apply (.attachAll snapshot.policies)
  obtain ⟨events, run⟩ := run_attachAll_of_readable readable snapshot.graph
  rw [Operation.apply, run] at reachable
  refine ⟨_, reachable, run, ?_⟩
  rw [run_build, run]

/-- If the work after the attachments comes to a report, so does the resolution. -/
theorem exists_run_of_complete {merger : PolicyMerger} {mode : ResolutionMode}
    {report : ResolutionReport} (completed : ((complete merger mode).run topology).1 = .ok report) :
    ∃ after, (resolve merger mode).run topology = (.ok report, after) := by
  rw [run_complete] at completed
  generalize (resolve merger mode).run topology = resolved at completed ⊢
  obtain ⟨_ | other, after⟩ := resolved
  · cases completed
  · cases completed
    exact ⟨after, rfl⟩

theorem builtInheritance_complete {snapshot : Snapshot} {merger : PolicyMerger}
    {mode : ResolutionMode} {attached : Topology} (reachable : attached.Reachable)
    (run : (attachAll snapshot.policies).run snapshot.graph = (.ok (), attached)) :
    BuiltInheritance snapshot ((complete merger mode).run attached).2 := by
  have same := (SameInheritance.resolve merger mode attached).inherit
  have reachable' := reachable.apply (.resolve merger mode)
  have above := reachable'.coherent.inheritsFromAbove_inherit reachable'.indexedOnce
  have start : ((attachAll snapshot.policies).run snapshot.graph).2 = attached := by rw [run]
  rw [Operation.apply] at above
  rw [run_complete]
  generalize (resolve merger mode).run attached = resolved at same above
  obtain ⟨_ | report, after⟩ := resolved
  · exact ⟨start ▸ same, above⟩
  · exact ⟨start ▸ same.record _, above.record _⟩

/-- Nodes inherit the inheritable policies of the nodes above them: after any operations, and in a
build whether or not the resolution succeeds. Only a policy that cannot be read ends a build before
anything is resolved or inherited. -/
theorem inherits_from_above :
    (∀ operations : List Operation,
      (operations.foldl Operation.apply .empty).SameGraph
          (operations.foldl Operation.apply .empty).inherit ∧
        (operations.foldl Operation.apply .empty).inherit.InheritsFromAbove) ∧
    (∀ snapshot : Snapshot, (∀ policy ∈ snapshot.policies, policy.Readable) →
      ∀ merger mode, BuiltInheritance snapshot ((build snapshot merger mode).run .empty).2) ∧
    ∀ snapshot : Snapshot, (∃ policy ∈ snapshot.policies, ¬ policy.Readable) →
      ∀ merger mode, ∃ error built, (build snapshot merger mode).run .empty =
        (.error (.fault (.malformed error)), built) ∧ built.Unresolved := by
  refine ⟨fun operations => ?_, fun snapshot readable merger mode => ?_,
    fun snapshot unreadable merger mode => ?_⟩
  · have reachable := Reachable.empty.applyAll operations
    exact ⟨sameGraph_inherit _,
      reachable.coherent.inheritsFromAbove_inherit reachable.indexedOnce⟩
  · obtain ⟨attached, reachable, run, built⟩ := run_build_of_readable readable merger mode
    rw [built]
    exact builtInheritance_complete reachable run
  · obtain ⟨error, built, run, attached⟩ := run_build_of_unreadable unreadable merger mode
    exact ⟨error, built, run, attached.unresolved⟩

def unfit : PolicyMerger where
  mergeLevel _ := Traced.fail (.fault .withoutManifest)
  overlay _ _ := Traced.fail (.fault .withoutManifest)
  reconcile _ _ := Traced.fail (.fault .withoutManifest)

def governedGateway : Snapshot := governed [⟨"n", "g", "c"⟩] [quotaOn toNameSpace "p"]

/-- The resolution ends at the gateway without a report, and the gateway inherits the policy of its
namespace. -/
theorem inherits_from_above_governed :
    (∀ report, ((build governedGateway unfit .bestEffort).run .empty).1 ≠ .ok report) ∧
      ∃ policies, ((build governedGateway unfit .bestEffort).run .empty).2.inherited.get?
          (.gateway "n" "g") = some policies ∧
        .policy "example.com" "Quota" "n" "p" ∈ policies := by
  have readable : ∀ policy ∈ governedGateway.policies, policy.Readable := by
    intro policy member
    cases List.mem_singleton.mp member
    exact ⟨⟨_, rfl⟩, _, rfl⟩
  have built := inherits_from_above.2.1 governedGateway readable unfit .bestEffort
  have wiring := sameWiring_build governedGateway unfit .bestEffort
  refine ⟨fun report reported => ?_, ?_⟩
  · obtain ⟨attached, reachable, run, completed⟩ := run_build_of_readable readable unfit .bestEffort
    rw [completed] at reported
    obtain ⟨after, resolved⟩ := exists_run_of_complete reported
    obtain rfl := congrArg Prod.snd run
    exact passes_gateway_of_run reachable.coherent resolved
      (show .gateway "n" "g" ∈ Topology.idsOf _ .gateway by decide)
  · generalize (build governedGateway unfit .bestEffort).run .empty = run at built wiring
    have node : .gateway "n" "g" ∈ run.2.idsOf .gateway := by
      rw [idsOf, wiring.nodes]
      decide
    obtain ⟨policies, found, -, listed⟩ := built.fromAbove.gateway (.gateway "n" "g") node
    have held : run.2.policies.get? (.policy "example.com" "Quota" "n" "p") =
        some (.single (quotaOn toNameSpace "p") .nameSpace (.ofNamespace "n")) := by
      rw [built.policies]
      rfl
    have above : run.2.nameSpace? (.gateway "n" "g") = some (.ofNamespace "n") :=
      wiring.target? .gatewayNameSpace (.gateway "n" "g")
    exact ⟨policies, found, (listed _).mpr ⟨_, held, rfl, .inl above⟩⟩

end Topology

end PolicyTopology
