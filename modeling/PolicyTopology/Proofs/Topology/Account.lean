import PolicyTopology.Proofs.Topology.Ancestry
import PolicyTopology.Proofs.Topology.Attached
import PolicyTopology.Proofs.Topology.Fixpoint

/-!
# What a build accounts for

The resources of a snapshot refer to each other, and policies refer to resources. Nothing of this is
lost without a trace: a reference becomes an edge if its target is there and otherwise a diagnostic,
a policy is attached, is hidden by an attached one of its identity, or leaves a diagnostic. Neither
the edges nor the diagnostics hold anything else. Only a policy that cannot be read ends the
account, and with it the build.
-/

namespace PolicyTopology

/-- A list repeats nothing once its repetitions are left out. -/
theorem nodup_eraseDups {α : Type} [BEq α] [LawfulBEq α] (items : List α) :
    items.eraseDups.Nodup := by
  cases items with
  | nil =>
      rw [List.eraseDups_nil]
      exact .nil
  | cons item rest =>
      rw [List.eraseDups_cons]
      refine List.nodup_cons.mpr ⟨fun member => ?_, nodup_eraseDups _⟩
      simpa using (List.mem_filter.mp (List.mem_eraseDups.mp member)).2
termination_by items.length
decreasing_by
  have shorter := List.length_filter_le (fun other => !other == item) rest
  simp only [List.length_cons]
  omega

/-- A list that is read item by item is read in order. -/
theorem Except.forall₂_of_mapM {ε α β : Type} {read : α → Except ε β} {items : List α}
    {results : List β} (h : items.mapM read = .ok results) :
    List.Forall₂ (fun item result => read item = .ok result) items results := by
  induction items generalizing results with
  | nil =>
      cases h
      exact .nil
  | cons item rest ih =>
      rw [List.mapM_cons] at h
      obtain ⟨result, found, h⟩ := Except.bind_ok_iff.mp h
      obtain ⟨results, found', h⟩ := Except.bind_ok_iff.mp h
      cases h
      exact .cons found (ih found')

namespace HttpRoute

/-- The references of a route are those of its manifest, with what they leave open filled in: each
parent as often as it is named, and each backend that some rule names once. -/
structure ReadFrom (manifest : Document) (route : HttpRoute) : Prop where
  parents : ∃ documents,
    (manifest.getPresent "spec" >>= fun spec => spec.itemsAt "parentRefs") = .ok documents ∧
    documents.mapM (ObjectRef.decode route.nameSpace gatewayGroup "Gateway") = .ok route.parentRefs
  backends : ∃ rules : List Document, ∃ named : List (List ObjectRef),
    (manifest.getPresent "spec" >>= fun spec => spec.itemsAt "rules") = .ok rules ∧
    rules.mapM (fun rule => do
      (← rule.itemsAt "backendRefs").mapM (ObjectRef.decode route.nameSpace coreGroup "Service")) =
        .ok named ∧
    ∀ reference, reference ∈ route.backendRefs ↔ ∃ among ∈ named, reference ∈ among
  nodup : route.backendRefs.Nodup

theorem readFrom_of_decode {manifest : Document} {route : HttpRoute}
    (h : decode manifest = .ok route) : route.ReadFrom manifest := by
  unfold decode at h
  simp only [Except.bind_ok_iff] at h
  obtain ⟨metadata, _, spec, readSpec, nameSpace, _, parents, readParents, parentRefs, mapped,
    rules, readRules, named, mapped', name, _, same⟩ := h
  cases same
  refine ⟨⟨parents, ?_, mapped⟩, ⟨rules, named, ?_, mapped', fun reference => ?_⟩,
    nodup_eraseDups _⟩
  · rw [readSpec]
    exact readParents
  · rw [readSpec]
    exact readRules
  · rw [List.mem_eraseDups, List.mem_flatten]

end HttpRoute

namespace Declaration

def asked? : Declaration → Option Link
  | .edge kind source target => some ⟨kind, source, target⟩
  | .foreignParent _ _ => none

end Declaration

namespace Link

def omission? (topology : Topology) (link : Link) : Option Diagnostic :=
  if topology.nodes.contains link.target then none
  else some (.missingEndpoint link.edge link.source link.target)

theorem omission?_congr {first second : Topology} (nodes : second.nodes = first.nodes) :
    omission? second = omission? first := by
  funext link
  rw [omission?, nodes]
  rfl

end Link

namespace Snapshot

variable {snapshot : Snapshot} {edge : Edge} {source target : ResourceId} {link : Link}
  {declaration : Declaration}

def referencesOfGateway (gateway : Gateway) : List Link :=
  [⟨.gatewayClass, gateway.id, .gatewayClass gateway.className⟩,
    ⟨.gatewayNameSpace, gateway.id, .ofNamespace gateway.nameSpace⟩]

def referencesOfRoute (route : HttpRoute) : List Link :=
  ⟨.routeNameSpace, route.id, .ofNamespace route.nameSpace⟩ ::
    (route.parentRefs.filter (·.isGateway)).map
      (fun parent => ⟨.routeGateway, route.id, .gateway parent.nameSpace parent.name⟩) ++
    route.backendRefs.map fun reference => ⟨.routeBackend, route.id, reference.backendId⟩

def referencesOfBackend (backend : Backend) : List Link :=
  [⟨.backendNameSpace, backend.id, .ofNamespace backend.nameSpace⟩]

def references (snapshot : Snapshot) : List Link :=
  snapshot.gateways.flatMap referencesOfGateway ++ snapshot.httpRoutes.flatMap referencesOfRoute ++
    snapshot.backends.flatMap referencesOfBackend

def coverings (snapshot : Snapshot) : List Link :=
  snapshot.referenceGrants.flatMap fun grant =>
    (snapshot.backends.filter grant.covers).map fun backend =>
      ⟨.grantBackend, grant.id, backend.id⟩

theorem filterMap_asked_map {α : Type} (edge : Edge) (source : ResourceId)
    (target : α → ResourceId) (items : List α) :
    (items.map fun item => Declaration.edge edge source (target item)).filterMap
      Declaration.asked? = items.map fun item => ⟨edge, source, target item⟩ := by
  induction items with
  | nil => rfl
  | cons item rest ih => exact congrArg _ ih

theorem filterMap_asked_ofRoute (route : HttpRoute) :
    (ofRoute route).filterMap Declaration.asked? = referencesOfRoute route := by
  have parents : (route.parentRefs.map fun parent =>
      if parent.isGateway then
        Declaration.edge .routeGateway route.id (.gateway parent.nameSpace parent.name)
      else .foreignParent route.id parent.kind).filterMap Declaration.asked? =
      (route.parentRefs.filter (·.isGateway)).map
        fun parent => ⟨.routeGateway, route.id, .gateway parent.nameSpace parent.name⟩ := by
    induction route.parentRefs with
    | nil => rfl
    | cons parent rest ih =>
        rw [List.map_cons, List.filter_cons, List.filterMap_cons, ih]
        by_cases gateway : parent.isGateway = true
        · simp only [gateway, if_true, Declaration.asked?, List.map_cons]
        · simp only [gateway, Bool.false_eq_true, if_false, Declaration.asked?]
  rw [ofRoute, List.filterMap_append, List.filterMap_cons, parents, filterMap_asked_map]
  rfl

/-- References and coverings are what a snapshot declares. -/
theorem filterMap_asked_declarations (snapshot : Snapshot) :
    snapshot.declarations.filterMap Declaration.asked? =
      snapshot.references ++ snapshot.coverings := by
  have gateways : ∀ gateway,
      (ofGateway gateway).filterMap Declaration.asked? = referencesOfGateway gateway := fun _ => rfl
  have backends : ∀ backend,
      (ofBackend backend).filterMap Declaration.asked? = referencesOfBackend backend := fun _ => rfl
  simp only [declarations, references, coverings, List.filterMap_append, List.filterMap_flatMap,
    gateways, filterMap_asked_ofRoute, backends, ofGrant, filterMap_asked_map]

theorem mem_declarations_iff :
    .edge edge source target ∈ snapshot.declarations ↔
      ⟨edge, source, target⟩ ∈ snapshot.references ∨
        ⟨edge, source, target⟩ ∈ snapshot.coverings := by
  rw [← List.mem_append, ← filterMap_asked_declarations, List.mem_filterMap]
  constructor
  · intro declared
    exact ⟨_, declared, rfl⟩
  · rintro ⟨declaration, declared, asked⟩
    cases declaration with
    | foreignParent route kind => cases asked
    | edge edge' source' target' =>
        cases asked
        exact declared

/-- What grants cover is there. -/
theorem contains_of_covering (member : link ∈ snapshot.coverings) :
    snapshot.graph.nodes.contains link.target = true := by
  obtain ⟨grant, _, covered⟩ := List.mem_flatMap.mp member
  obtain ⟨backend, listed, rfl⟩ := List.mem_map.mp covered
  refine contains_graph_iff.mpr ⟨.backend backend, ?_, rfl⟩
  simp only [resources, List.mem_append, List.mem_map]
  exact .inl (.inr ⟨backend, List.mem_of_mem_filter listed, rfl⟩)

/-- A declaration is left out exactly if the target of its edge is not there. -/
theorem diagnostic?_of_declared (declared : declaration ∈ snapshot.declarations) :
    declaration.diagnostic? snapshot.graph =
      declaration.asked?.bind (Link.omission? snapshot.graph) := by
  cases declaration with
  | foreignParent route kind => rfl
  | edge edge source target =>
      rw [declarations_eq, List.mem_flatMap] at declared
      obtain ⟨resource, listed, declared⟩ := declared
      obtain ⟨rfl, sourceKind, targetKind⟩ := ends_of_declared declared
      have present : snapshot.graph.nodes.contains resource.id = true :=
        contains_graph_iff.mpr ⟨resource, listed, rfl⟩
      have sound : snapshot.graph.hasNode edge.sourceKind resource.id = true := by
        simp [Topology.hasNode, sourceKind, present]
      have ends : snapshot.graph.hasNode edge.targetKind target =
          snapshot.graph.nodes.contains target := by
        simp [Topology.hasNode, targetKind]
      simp only [Declaration.diagnostic?, Topology.refusal?, Declaration.asked?, Option.bind_some,
        Link.omission?, sound, ends, Bool.not_true, Bool.false_eq_true, if_false]
      cases snapshot.graph.nodes.contains target <;> rfl

/-- From a graph are left out the references to what is not there, in order. -/
theorem diagnostics_graph (snapshot : Snapshot) :
    snapshot.graph.diagnostics =
      snapshot.references.filterMap (Link.omission? snapshot.graph) := by
  have coverings : snapshot.coverings.filterMap (Link.omission? snapshot.graph) = [] := by
    refine List.filterMap_eq_nil_iff.mpr fun link member => ?_
    rw [Link.omission?, if_pos (contains_of_covering member)]
  calc snapshot.graph.diagnostics
      = snapshot.declarations.filterMap (Declaration.diagnostic? snapshot.graph) :=
        congrArg Topology.diagnostics snapshot.graph_eq
    _ = snapshot.declarations.filterMap
          (fun declaration => declaration.asked?.bind (Link.omission? snapshot.graph)) :=
        List.filterMap_congr fun _ declared => diagnostic?_of_declared declared
    _ = (snapshot.references ++ snapshot.coverings).filterMap (Link.omission? snapshot.graph) := by
        rw [← filterMap_asked_declarations, List.filterMap_filterMap]
    _ = snapshot.references.filterMap (Link.omission? snapshot.graph) := by
        rw [List.filterMap_append, coverings, List.append_nil]

end Snapshot

namespace Topology

variable {topology : Topology} {policy : Policy}

/-! ### What is left out of a batch -/

theorem diagnostics_attach (policy : Policy) (topology : Topology) :
    ((attach policy).run topology).2.diagnostics =
      topology.diagnostics ++ (topology.omissionOf? policy).toList := by
  rw [run_attach, omissionOf?]
  rcases topology.placement policy with error | ⟨id, diagnostic | target⟩
  · exact (List.append_nil _).symm
  · rfl
  · dsimp only
    split <;> exact (List.append_nil _).symm

theorem diagnostics_offerEach (policies : List Policy) (topology : Topology) :
    (topology.offerEach policies).diagnostics =
      topology.diagnostics ++ policies.filterMap topology.omissionOf? := by
  induction policies generalizing topology with
  | nil => exact (List.append_nil _).symm
  | cons policy rest ih =>
      have same : ((attach policy).run topology).2.omissionOf? = topology.omissionOf? :=
        omissionOf?_congr fun id => by rw [(SameWiring.attach policy topology).nodes]
      have later := ih ((attach policy).run topology).2
      rw [same, diagnostics_attach, List.append_assoc] at later
      rw [List.filterMap_cons]
      generalize topology.omissionOf? policy = omission at later ⊢
      cases omission <;> exact later

/-- A batch leaves out the policies without a place, up to the first that cannot be read. -/
theorem diagnostics_attachAll (policies : List Policy) (topology : Topology) :
    ((attachAll policies).run topology).2.diagnostics = topology.diagnostics ++
      (policies.takeWhile (decide ·.Readable)).filterMap topology.omissionOf? := by
  obtain ⟨events, left⟩ := snd_run_attachAll policies topology
  rw [left]
  exact diagnostics_offerEach _ _

/-- A policy that can be read is offered to its place or left out, for a reason of policies. -/
theorem offer_or_omission (readable : policy.Readable) (topology : Topology) :
    ∃ id, policy.id = .ok id ∧
      ((∃ attachment, topology.offer? policy = some (id, attachment)) ∧
          topology.omissionOf? policy = none ∨
        ∃ diagnostic, topology.omissionOf? policy = some diagnostic ∧ diagnostic.subject = id ∧
          diagnostic.reason ∈ ["policy_target_unsupported", "policy_target_missing"]) := by
  obtain ⟨⟨id, identity⟩, reference, reading⟩ := readable
  refine ⟨id, identity, ?_⟩
  rw [offer?, omissionOf?, placement_of_readable topology reading identity]
  unfold place
  cases reference.targetKind? with
  | none => exact .inr ⟨_, rfl, rfl, by simp [Diagnostic.reason]⟩
  | some kind =>
      dsimp only
      cases topology.nodes.contains (kind.resolver.targetId reference) with
      | true => exact .inl ⟨⟨_, rfl⟩, rfl⟩
      | false => exact .inr ⟨_, rfl, rfl, by simp [Diagnostic.reason]⟩

/-- Where the first offers are held, a policy before the first that cannot be read is left out, or
one of its identity is attached. -/
theorem HoldsFirst.accounted {policies : List Policy}
    (h : topology.HoldsFirst (topology.offersOf policies))
    (member : policy ∈ policies.takeWhile (decide ·.Readable)) :
    ∃ id, policy.id = .ok id ∧
      (topology.policies.contains id = true ∧ topology.omissionOf? policy = none ∨
        ∃ diagnostic, topology.omissionOf? policy = some diagnostic ∧ diagnostic.subject = id ∧
          diagnostic.reason ∈ ["policy_target_unsupported", "policy_target_missing"]) := by
  have readable : policy.Readable := by simpa using List.mem_takeWhile_imp member
  obtain ⟨id, identity, ⟨⟨attachment, offer⟩, none⟩ | omitted⟩ :=
    offer_or_omission readable topology
  · refine ⟨id, identity, .inl ⟨?_, none⟩⟩
    rw [Table.contains_eq_isSome, h]
    exact Entries.contains_iff.mpr
      (List.mem_map_of_mem (List.mem_filterMap.mpr ⟨policy, member, offer⟩))
  · exact ⟨id, identity, .inr omitted⟩

/-! ### What a build leaves alone -/

theorem diagnostics_inherit (topology : Topology) :
    topology.inherit.diagnostics = topology.diagnostics :=
  @inherit_keeps (fun after => after.diagnostics = topology.diagnostics) topology
    (fun _ same => same) (fun _ same => same) rfl

/-- Completion leaves alone which policies are attached and what has been left out. -/
theorem complete_keeps (merger : PolicyMerger) (mode : ResolutionMode) (topology : Topology) :
    topology.SameGraph ((complete merger mode).run topology).2 ∧
      ((complete merger mode).run topology).2.diagnostics = topology.diagnostics := by
  have resolved := resolve_sameButResolved merger mode topology
  rw [run_complete]
  generalize (resolve merger mode).run topology = run at resolved
  obtain ⟨result, after⟩ := run
  have graph := resolved.toSameGraph.trans (sameGraph_inherit after)
  have diagnostics := (diagnostics_inherit after).trans resolved.diagnostics
  cases result with
  | error error => exact ⟨graph, diagnostics⟩
  | ok report =>
      dsimp only
      generalize after.inherit = inherited at *
      exact ⟨graph.trans ⟨rfl, rfl, rfl, rfl, rfl⟩, diagnostics⟩

theorem build_keeps (snapshot : Snapshot) (merger : PolicyMerger) (mode : ResolutionMode) :
    ((attachAll snapshot.policies).run snapshot.graph).2.SameGraph
        ((build snapshot merger mode).run .empty).2 ∧
      ((build snapshot merger mode).run .empty).2.diagnostics =
        ((attachAll snapshot.policies).run snapshot.graph).2.diagnostics := by
  rw [run_build]
  generalize (attachAll snapshot.policies).run snapshot.graph = run
  obtain ⟨_ | _, after⟩ := run
  · exact ⟨.refl after, rfl⟩
  · exact complete_keeps merger mode after

end Topology

/-- What a run has come to accounts for a snapshot. -/
structure Accounts (snapshot : Snapshot) (result : Except ResolutionError ResolutionReport)
    (after : Topology) : Prop where
  /-- The nodes are the resources. -/
  nodes : ∀ {id resource}, after.nodes.get? id = some resource ↔
    resource ∈ snapshot.resources ∧ resource.id = id
  /-- The edges are the references to nodes that are there, and what the grants cover. -/
  edges : ∀ {edge source target}, target ∈ after.targets edge source ↔
    ⟨edge, source, target⟩ ∈ snapshot.references ∧ after.nodes.contains target = true ∨
      ⟨edge, source, target⟩ ∈ snapshot.coverings
  /-- Both ends of an edge know of it. -/
  bothEnds : ∀ edge, after.BothEnds edge
  /-- A reference leads to an edge or, if its target is not there, is left out. -/
  referred : ∀ link ∈ snapshot.references,
    link.target ∈ after.targets link.edge link.source ∧
        link.source ∈ after.sources link.edge link.target ∧ link.omission? after = none ∨
      link.target ∉ after.targets link.edge link.source ∧
        link.omission? after = some (.missingEndpoint link.edge link.source link.target)
  /-- A source that has one target at most has the one that it refers to. -/
  single : ∀ {edge : Edge} {source target}, edge.isSingle = true →
    (after.target? edge source = some target ↔ target ∈ after.targets edge source)
  /-- Left out are, in order, the references to nodes that are not there and the policies without a
  place, up to the first policy that cannot be read. -/
  diagnostics : after.diagnostics = snapshot.references.filterMap (Link.omission? after) ++
    (snapshot.policies.takeWhile (decide ·.Readable)).filterMap after.omissionOf?
  /-- Attached are the first policies of their identities that have a place. -/
  policies : ∀ id, after.policies.get? id = (after.offersOf snapshot.policies).get? id
  /-- Each is held at its target. -/
  attached : ∀ {id target}, id ∈ after.policyIdsOn target ↔
    ∃ attachment, after.policies.get? id = some attachment ∧ attachment.target = target
  /-- Up to the first that cannot be read, a policy either leaves out itself or one of its identity
  is attached. -/
  accounted : ∀ policy ∈ snapshot.policies.takeWhile (decide ·.Readable), ∃ id,
    policy.id = .ok id ∧
      (after.policies.contains id = true ∧ after.omissionOf? policy = none ∨
        ∃ diagnostic, after.omissionOf? policy = some diagnostic ∧ diagnostic.subject = id ∧
          diagnostic.reason ∈ ["policy_target_unsupported", "policy_target_missing"])
  /-- The first policy that cannot be read ends the run, for the reason that it cannot. -/
  stops : ∀ {former policy rest}, snapshot.policies = former ++ policy :: rest →
    (∀ other ∈ former, other.Readable) → ¬ policy.Readable → ∃ error,
      after.placement policy = .error error ∧ result = .error (.fault (.malformed error))

namespace Snapshot

open PolicyTopology.Topology

variable {snapshot : Snapshot}

/-- The first policy that cannot be read ends a build. -/
theorem build_stops (snapshot : Snapshot) (merger : PolicyMerger) (mode : ResolutionMode)
    {former rest : List Policy} {policy : Policy}
    (listed : snapshot.policies = former ++ policy :: rest)
    (readable : ∀ other ∈ former, other.Readable) (unreadable : ¬ policy.Readable) :
    ∃ error, ((build snapshot merger mode).run .empty).2.placement policy = .error error ∧
      ((build snapshot merger mode).run .empty).1 = .error (.fault (.malformed error)) := by
  obtain ⟨error, unread, run⟩ :=
    run_attachAll_of_unreadable readable unreadable rest snapshot.graph
  rw [← listed] at run
  rw [run_build, run]
  exact ⟨error, unread, rfl⟩

theorem holdsFirst_graph (snapshot : Snapshot) : snapshot.graph.HoldsFirst [] := by
  intro id
  rw [policies_graph]
  rfl

/-- A graph with the edges of the snapshot's has those that are declared and whose targets are
there. -/
theorem DistinctResources.mem_targets_of_sameWiring (distinct : snapshot.DistinctResources)
    {after : Topology} (wiring : SameWiring snapshot.graph after) {edge : Edge}
    {source target : ResourceId} :
    target ∈ after.targets edge source ↔
      (⟨edge, source, target⟩ ∈ snapshot.references ∨
        ⟨edge, source, target⟩ ∈ snapshot.coverings) ∧ after.nodes.contains target = true := by
  rw [wiring.targets, wiring.nodes, distinct.mem_targets_iff, mem_declarations_iff]

theorem accounts_build (distinct : snapshot.DistinctResources) (merger : PolicyMerger)
    (mode : ResolutionMode) : Accounts snapshot ((build snapshot merger mode).run .empty).1
      ((build snapshot merger mode).run .empty).2 := by
  have stops := @build_stops snapshot merger mode
  obtain ⟨graph, kept⟩ := build_keeps snapshot merger mode
  have wiring := sameWiring_build snapshot merger mode
  have attached := snapshot.attached_of_attachAll
  have left := diagnostics_attachAll snapshot.policies snapshot.graph
  have held : HoldsFirst ((attachAll snapshot.policies).run snapshot.graph).2
      (snapshot.graph.offersOf snapshot.policies) :=
    HoldsFirst.attachAll snapshot.holdsFirst_graph snapshot.policies
  generalize ((build snapshot merger mode).run .empty).1 = result at stops
  generalize ((build snapshot merger mode).run .empty).2 = after at *
  generalize ((attachAll snapshot.policies).run snapshot.graph).2 = middle at *
  have nodes : ∀ id, after.nodes.get? id = snapshot.graph.nodes.get? id := fun id => by
    rw [wiring.nodes]
  have first : after.HoldsFirst (after.offersOf snapshot.policies) := by
    intro id
    rw [graph.policies, held, offersOf_congr nodes]
  have linked := wiring.hasLinks snapshot.hasLinks_graph
  have bothEnds : ∀ edge, after.BothEnds edge := fun edge =>
    linked.bothEnds_of_oneTarget distinct.oneTarget
  have present {edge source target} :=
    @DistinctResources.mem_targets_of_sameWiring _ distinct _ wiring edge source target
  exact {
    nodes := by
      intro id resource
      rw [nodes, distinct.get?_nodes_iff]
    edges := by
      intro edge source target
      rw [present, wiring.nodes, or_and_right]
      exact or_congr_right (and_iff_left_of_imp contains_of_covering)
    bothEnds
    referred := by
      intro link member
      by_cases there : after.nodes.contains link.target = true
      · have joined := present.mpr ⟨.inl member, there⟩
        exact .inl ⟨joined, (bothEnds _ _ _).mp joined, if_pos there⟩
      · exact .inr ⟨fun joined => there (present.mp joined).2, if_neg there⟩
    single := fun single => (linked.mem_targets_iff_of_single single).symm
    diagnostics := by
      rw [kept, left, diagnostics_graph, omissionOf?_congr nodes, Link.omission?_congr wiring.nodes]
    policies := first
    attached := by
      intro id target
      rw [policyIdsOn, graph.attached, graph.policies]
      exact attached.coherent.attached_iff
    accounted := fun _ member => first.accounted member
    stops := stops }

/-- The routes of a snapshot are read from their manifests, and its policies are those given. -/
theorem readFrom_of_decode {classes nameSpaces gateways httpRoutes backends grants : Document}
    {policies : List Policy} (decoded : decode classes nameSpaces gateways httpRoutes backends
      grants policies = .ok snapshot) :
    snapshot.policies = policies ∧ ∃ manifests, httpRoutes.items = .ok manifests ∧
      List.Forall₂ HttpRoute.ReadFrom manifests snapshot.httpRoutes := by
  unfold decode at decoded
  simp only [Except.bind_ok_iff] at decoded
  obtain ⟨_, _, _, _, _, _, _, _, _, _, _, _, manifests, listed, _, mapped, _, _, _, _, _, _, _, _,
    same⟩ := decoded
  cases same
  exact ⟨rfl, manifests, listed,
    (Except.forall₂_of_mapM mapped).imp fun _ _ => HttpRoute.readFrom_of_decode⟩

/-- A build from manifests accounts for all that they refer to, whatever comes of the policies. -/
theorem build_accounts_of_decode
    {classes nameSpaces gateways httpRoutes backends grants : Document} {policies : List Policy}
    (decoded : decode classes nameSpaces gateways httpRoutes backends grants policies =
      .ok snapshot) (distinct : snapshot.DistinctResources) (merger : PolicyMerger)
    (mode : ResolutionMode) :
    (snapshot.policies = policies ∧ ∃ manifests, httpRoutes.items = .ok manifests ∧
      List.Forall₂ HttpRoute.ReadFrom manifests snapshot.httpRoutes) ∧
    Accounts snapshot ((build snapshot merger mode).run .empty).1
      ((build snapshot merger mode).run .empty).2 :=
  ⟨readFrom_of_decode decoded, accounts_build distinct merger mode⟩

def byName (name : String) : Document := .object [("name", .string name)]

def manifestsOf (names : List String) : Document :=
  .array (names.map fun name => .object [("metadata", byName name)])

def manifestOf (name : String) (spec : Fields) : Document :=
  .object [("metadata", .object [("name", .string name), ("namespace", .string "n")]),
    ("spec", .object spec)]

/-- A route with two gateways and a service that it names twice. -/
def forkedRoute : Document :=
  manifestOf "r" [("parentRefs", .array [byName "g", byName "h"]),
    ("rules", .array [.object [("backendRefs", .array [byName "b", byName "b"])]])]

/-- The route with one of its gateways, whose class is not there, and with a quota. -/
def dangling : Snapshot :=
  { governed [⟨"n", "g", "d"⟩] [quotaOn toNameSpace "p"] with
    httpRoutes := [⟨"n", "r", [⟨gatewayGroup, "Gateway", "n", "g"⟩,
      ⟨gatewayGroup, "Gateway", "n", "h"⟩], [⟨coreGroup, "Service", "n", "b"⟩]⟩] }

theorem build_accounts_of_decode_dangling :
    decode (manifestsOf ["c"]) (manifestsOf ["n"])
        (.array [manifestOf "g" [("gatewayClassName", .string "d")]]) (.array [forkedRoute])
        (manifestsOf []) (manifestsOf []) [quotaOn toNameSpace "p"] = .ok dangling ∧
      dangling.DistinctResources ∧
      Accounts dangling
        ((build dangling MergerRegistry.specifications.toPolicyMerger .bestEffort).run .empty).1
        ((build dangling MergerRegistry.specifications.toPolicyMerger .bestEffort).run .empty).2 ∧
      dangling.references.filterMap (Link.omission? dangling.graph) = [
        .missingEndpoint .gatewayClass (.gateway "n" "g") (.gatewayClass "d"),
        .missingEndpoint .routeGateway (.httpRoute "n" "r") (.gateway "n" "h"),
        .missingEndpoint .routeBackend (.httpRoute "n" "r") (.backend "" "Service" "n" "b")] := by
  have decoded : decode (manifestsOf ["c"]) (manifestsOf ["n"])
      (.array [manifestOf "g" [("gatewayClassName", .string "d")]]) (.array [forkedRoute])
      (manifestsOf []) (manifestsOf []) [quotaOn toNameSpace "p"] = .ok dangling := rfl
  have distinct : dangling.DistinctResources :=
    ⟨by decide, by decide, by decide, by decide, by decide, by decide⟩
  exact ⟨decoded, distinct, (build_accounts_of_decode decoded distinct _ _).2, rfl⟩

/-- A policy whose reference is no object is neither attached nor left out. -/
theorem governed_malformed_unaccounted :
    decode (manifestsOf ["c"]) (manifestsOf ["n"]) (manifestsOf []) (manifestsOf [])
        (manifestsOf []) (manifestsOf []) [quotaOn (.string "n") "p"] =
        .ok (governed [] [quotaOn (.string "n") "p"]) ∧
      (governed [] [quotaOn (.string "n") "p"]).DistinctResources ∧
      ((build (governed [] [quotaOn (.string "n") "p"])
        MergerRegistry.specifications.toPolicyMerger .bestEffort).run .empty).2.policies.keys =
          [] ∧
      ((build (governed [] [quotaOn (.string "n") "p"])
        MergerRegistry.specifications.toPolicyMerger .bestEffort).run .empty).2.diagnostics =
          [] := by
  refine ⟨rfl, ⟨by decide, by decide, by decide, by decide, by decide, by decide⟩, ?_, ?_⟩
  · rw [run_build]
    rfl
  · rw [run_build]
    rfl

end Snapshot

end PolicyTopology
