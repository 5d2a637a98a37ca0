import PolicyTopology.Proofs.Policy.Symmetry
import PolicyTopology.Proofs.Topology.Attached
import PolicyTopology.Proofs.Topology.Containment
import PolicyTopology.Proofs.Topology.Descent
import PolicyTopology.Proofs.Topology.Rerun

/-!
# The order of two routes

What two routes have for a gateway is reconciled at the backends that they share. With the registry
that merges specifications, and manifests only, the order of the two routes makes no difference.

Each policy that a route has comes from one level: from the route's own policies, from those of its
namespace, or from what has come down from the gateway. No policy is attached twice, so the identity
of an entry tells which level it comes from, and two routes have entries of one identity only from a
namespace that they share, or from the gateway. There is one more way: the gateway may be in the
namespace of only one of the routes, which then merges the policies of this namespace a second time.
What it comes to is a twin of what the other route has.
-/

namespace PolicyTopology

theorem ObjectRef.kind_of_nameSpace {reference : ObjectRef} {target : ResourceId}
    (h : reference.carrier? = some target) (ofKind : target.nodeKind = .nameSpace) :
    reference.kind = "Namespace" := by
  obtain ⟨kind, found, rfl⟩ := Option.map_eq_some_iff.mp h
  rw [kind.nodeKind_targetId] at ofKind
  unfold targetKind? at found
  split at found
  · split at found <;> cases found <;> cases ofKind
  · split at found
    · next core => exact core.2
    · cases found
      cases ofKind

/-- A policy of a descendant keeps its outline when it is merged with what comes from above. -/
theorem MergerRegistry.sameOutline_of_chain {kind : MergeKind} {ancestor : Option Policy}
    {policy entry : Policy} (manifest : policy.IsManifest)
    (h : specifications.chain kind ancestor (some policy) = .ok (some entry)) :
    entry.SameOutline policy := by
  cases ancestor with
  | none =>
      cases h
      exact .refl manifest
  | some above =>
      obtain ⟨merged, joins, same⟩ := Except.map_ok_iff.mp h
      cases same
      exact KindMerger.sameOutline_of_merge joins

/-- Two levels that both have policies are merged. -/
theorem MergerRegistry.exists_mergeLevels_of_chain {kind : MergeKind} {above policy entry : Policy}
    (h : specifications.chain kind (some above) (some policy) = .ok (some entry)) :
    ∃ merged, entry = .manifest merged ∧ ManifestPolicy.mergeLevels above policy = .ok merged := by
  obtain ⟨_, joins, same⟩ := Except.map_ok_iff.mp h
  cases same
  change (KindMerger.specification.merge .levels above policy).result = .ok entry at joins
  rw [KindMerger.result_levels, Except.map_ok_iff] at joins
  obtain ⟨merged, joins, rfl⟩ := joins
  exact ⟨merged, rfl, joins⟩

/-- A policy with the outline of one that has a target is specified if it has an identity. -/
theorem Policy.SameOutline.specified {entry source : Policy} {reference : ObjectRef}
    {id : ResourceId} (h : entry.SameOutline source) (target : source.target = .ok reference)
    (identity : entry.id = .ok id) : entry.Specified := by
  cases h with
  | of_parts _ _ same =>
      exact ⟨⟨id, identity⟩, ManifestPolicy.spec_of_target (same.trans target)⟩

/-- What takes after one policy is there and has its identity. -/
theorem Policy.TakesAfter.exists_of_singleton {policy : Policy} {found : Option Policy}
    (h : TakesAfter [policy] found) : ∃ entry, found = some entry ∧ entry.id = policy.id := by
  cases found with
  | none => cases h
  | some entry =>
      obtain ⟨first, member, outline, _⟩ := h
      rw [List.mem_singleton.mp member] at outline
      exact ⟨entry, rfl, outline.id⟩

namespace Topology

variable {topology before : Topology} {kind : MergeKind} {first second entry other policy : Policy}
  {gateway route next node gatewayClass : ResourceId} {target place : Option ResourceId}
  {policies part part' : PoliciesByKind} {partitions partitions' : Partitions}
  {ancestor ofNameSpace own : Option Policy}

/-- How a node comes to a policy of a kind. -/
inductive ComesBy (topology : Topology) (kind : MergeKind) (ancestor : Option Policy)
    (node : ResourceId) (entry : Policy) : Prop
  /-- It has policies of the kind, of which one gives the entry its identity. -/
  | own {first : Policy} : first ∈ topology.kindOn kind (some node) → entry.id = first.id →
      ComesBy topology kind ancestor node entry
  /-- Its namespace has, and they are merged with what has come down. -/
  | ofNameSpace {level : Policy} :
      peersOn MergerRegistry.specifications topology kind (topology.nameSpace? node) =
        .ok (some level) →
      MergerRegistry.specifications.chain kind ancestor (some level) = .ok (some entry) →
      ComesBy topology kind ancestor node entry
  /-- Neither has, and the entry has come down. -/
  | ancestor : ancestor = some entry → ComesBy topology kind ancestor node entry

/-- How a gateway comes to a policy of a kind, what comes down to it being that of its class. -/
def GatewayComesBy (topology : Topology) (kind : MergeKind) (gateway : ResourceId)
    (entry : Policy) : Prop :=
  ∃ gatewayClass ofClass, topology.target? .gatewayClass gateway = some gatewayClass ∧
    peersOn MergerRegistry.specifications topology kind (some gatewayClass) = .ok ofClass ∧
    topology.ComesBy kind ofClass gateway entry

section Coherent

variable (coherent : topology.Coherent)

include coherent

theorem Coherent.nodeKind_of_gatewayClass
    (h : topology.target? .gatewayClass gateway = some gatewayClass) :
    gatewayClass.nodeKind = .gatewayClass :=
  nodeKind_of_mem_idsOf (hasNode_iff.mp (coherent.outgoing_ends (List.mem_of_mem_head? h)).2)

/-- Policies of one identity are attached to one node. -/
theorem Coherent.target_eq_of_stored {id id' : ResourceId} {attachment attachment' : Attachment}
    (stored : topology.policies.get? id = some attachment)
    (stored' : topology.policies.get? id' = some attachment')
    (same : attachment.policy.id = attachment'.policy.id) :
    attachment.target = attachment'.target := by
  have sameId : id = id' := Except.ok.inj
    ((coherent.readable stored).1.symm.trans (same.trans (coherent.readable stored').1))
  subst sameId
  cases stored.symm.trans stored'
  rfl

theorem Coherent.target_eq_of_id (member : first ∈ topology.kindOn kind target)
    (member' : second ∈ topology.kindOn kind place) (same : first.id = second.id) :
    target = place := by
  obtain ⟨⟨_, _, stored, rfl, rfl⟩, _⟩ := mem_kindOn.mp member
  obtain ⟨⟨_, _, stored', rfl, rfl⟩, _⟩ := mem_kindOn.mp member'
  exact congrArg some (coherent.target_eq_of_stored stored stored' same)

/-- Of the nodes above a route, and the route itself, the route is the only one of its kind. -/
theorem Coherent.eq_of_routeCone (atGateway : gateway.nodeKind = .gateway)
    (atRoute : route.nodeKind = .httpRoute) (h : topology.RouteCone gateway next route) :
    route = next := by
  have notNameSpace : ∀ node, topology.nameSpace? node ≠ some route := fun node found =>
    nomatch atRoute.symm.trans (coherent.nodeKind_of_nameSpace? found)
  rcases h with (ofClass | ofNameSpace | same) | ofNameSpace | same
  · exact nomatch atRoute.symm.trans (coherent.nodeKind_of_gatewayClass ofClass)
  · exact absurd ofNameSpace (notNameSpace gateway)
  · rw [same, atGateway] at atRoute
    cases atRoute
  · exact absurd ofNameSpace (notNameSpace next)
  · exact same

/-- An identity among the policies of a route leads to this route. -/
theorem StemsFrom.eq_of_own
    (h : topology.StemsFrom (topology.RouteCone gateway next) kind entry)
    (atGateway : gateway.nodeKind = .gateway) (atRoute : route.nodeKind = .httpRoute)
    (member : first ∈ topology.kindOn kind (some route)) (same : entry.id = first.id) :
    route = next := by
  obtain ⟨_, source, stored, within, identity, _⟩ := h
  obtain ⟨⟨_, attachment, stored', rfl, here⟩, _⟩ := mem_kindOn.mp member
  have place : source.target = attachment.target := coherent.target_eq_of_stored stored stored'
    ((coherent.readable stored).1.trans (identity.symm.trans same))
  rw [place, Option.some.inj here] at within
  exact coherent.eq_of_routeCone atGateway atRoute within

variable (manifests : topology.Admits Policy.IsManifest)

include manifests

/-- What the policies of a level come to has the outline of one of them. -/
theorem exists_outline_of_peersOn
    (h : peersOn MergerRegistry.specifications topology kind target = .ok (some policy)) :
    ∃ first ∈ topology.kindOn kind target, policy.SameOutline first := by
  obtain ⟨first, member, outline, _⟩ := takesAfter_peersOn coherent manifests h
  exact ⟨first, member, outline⟩

/-- Levels that come to policies of one identity are one level. -/
theorem target_eq_of_peersOn
    (h : peersOn MergerRegistry.specifications topology kind target = .ok (some first))
    (h' : peersOn MergerRegistry.specifications topology kind place = .ok (some second))
    (same : first.id = second.id) : target = place := by
  obtain ⟨least, member, outline⟩ := exists_outline_of_peersOn coherent manifests h
  obtain ⟨least', member', outline'⟩ := exists_outline_of_peersOn coherent manifests h'
  exact coherent.target_eq_of_id member member' (outline.id.symm.trans (same.trans outline'.id))

theorem comesBy_of_layersOf
    (atNameSpace : peersOn MergerRegistry.specifications topology kind (topology.nameSpace? node) =
      .ok ofNameSpace)
    (atNode : peersOn MergerRegistry.specifications topology kind (some node) = .ok own)
    (result : layersOf MergerRegistry.specifications kind ancestor ofNameSpace own =
      .ok (some entry)) : topology.ComesBy kind ancestor node entry := by
  obtain ⟨middle, lower, upper⟩ := Except.bind_ok_iff.mp result
  cases own with
  | some policy =>
      obtain ⟨first, member, outline⟩ := exists_outline_of_peersOn coherent manifests atNode
      have kept := MergerRegistry.sameOutline_of_chain outline.isManifest upper
      exact .own member (kept.trans outline).id
  | none =>
      have same : middle = some entry := by cases middle <;> exact Except.ok.inj upper
      rw [same] at lower
      cases ofNameSpace with
      | some level => exact .ofNameSpace atNameSpace lower
      | none => exact .ancestor (by cases ancestor <;> exact Except.ok.inj lower)

variable (once : topology.IndexedOnce)

include once

theorem gateway_comesBy
    (held : GatewayHeld MergerRegistry.specifications.toPolicyMerger topology gateway)
    (stored : topology.effective.get? gateway = some policies)
    (found : policies.get? kind = some entry) : topology.GatewayComesBy kind gateway entry := by
  have classed := coherent.effective_classed (by rw [stored]; exact nofun)
  obtain ⟨gatewayClass, classed⟩ := Option.ne_none_iff_exists'.mp classed
  obtain ⟨_, same, byKind⟩ := (kindByKind coherent once MergerRegistry.specifications).gateway_entry
    classed held
  cases stored.symm.trans same
  have result := byKind kind
  unfold gatewayPolicy at result
  simp only [Except.bind_ok_iff] at result
  obtain ⟨ofClass, atClass, ofNameSpace, atNameSpace, own, atNode, result⟩ := result
  rw [found] at result
  exact ⟨gatewayClass, ofClass, classed, atClass,
    comesBy_of_layersOf coherent manifests atNameSpace atNode result⟩

/-- What a route has for a gateway comes down from the policies of the gateway. -/
theorem route_comesBy
    (held : RouteHeld MergerRegistry.specifications.toPolicyMerger topology route partitions)
    (stored : partitions.get? gateway = some part) :
    ∃ policies, topology.effective.get? gateway = some policies ∧
      (∀ kind entry, policies.get? kind = some entry →
        topology.GatewayComesBy kind gateway entry) ∧
      ∀ kind entry, part.get? kind = some entry →
        topology.ComesBy kind (policies.get? kind) route entry := by
  have byKind := kindByKind coherent once MergerRegistry.specifications
  obtain ⟨attached, policies, reached⟩ := (byKind.route_part_iff held.result).mp ⟨part, stored⟩
  refine ⟨policies, reached, fun kind entry found => ?_, fun kind entry found => ?_⟩
  · exact gateway_comesBy coherent manifests once (held.gateways gateway attached) reached found
  · have result := byKind.route_entry held.result stored reached kind
    unfold routePolicy at result
    simp only [Except.bind_ok_iff] at result
    obtain ⟨ofNameSpace, atNameSpace, own, atNode, result⟩ := result
    rw [found] at result
    exact comesBy_of_layersOf coherent manifests atNameSpace atNode result

omit manifests once

/-- A policy of a namespace names its kind as that of the target, and so does what has its
outline. -/
theorem named_of_nameSpace {child : ManifestPolicy} (placed : topology.Placed)
    (member : first ∈ topology.kindOn kind (topology.nameSpace? route))
    (outline : (Policy.manifest child).SameOutline first) :
    ∃ reference, child.target = .ok reference ∧ reference.kind = "Namespace" := by
  obtain ⟨⟨id, attachment, stored, rfl, atNode⟩, _⟩ := mem_kindOn.mp member
  obtain ⟨reference, target, carrier⟩ := (placed id _ stored).1.exists_carrier
  have named := ObjectRef.kind_of_nameSpace carrier (coherent.nodeKind_of_nameSpace? atNode.symm)
  exact ⟨reference, outline.target.trans target, named⟩

include manifests

/-- A namespace that gives an entry the identity of what has come down has been merged before, at
the gateway, and what it comes to is a twin of that. -/
theorem twinned_of_nameSpace (placed : topology.Placed) (atGateway : gateway.nodeKind = .gateway)
    (above : topology.GatewayComesBy kind gateway other)
    (level : peersOn MergerRegistry.specifications topology kind (topology.nameSpace? route) =
      .ok (some policy))
    (joins : MergerRegistry.specifications.chain kind (some other) (some policy) =
      .ok (some entry)) (same : entry.id = other.id) : entry.Twinned other := by
  obtain ⟨first, member, outline⟩ := exists_outline_of_peersOn coherent manifests level
  have kept := MergerRegistry.sameOutline_of_chain outline.isManifest joins
  obtain ⟨gatewayClass, ofClass, classed, atClass, above⟩ := above
  cases above with
  | own member' same' =>
      have place := coherent.target_eq_of_id member' member
        (same'.symm.trans (same.symm.trans (kept.trans outline).id))
      exact nomatch atGateway.symm.trans (coherent.nodeKind_of_nameSpace? place.symm)
  | ancestor found =>
      rw [found] at atClass
      have place := target_eq_of_peersOn coherent manifests atClass level
        (same.symm.trans kept.id)
      exact nomatch (coherent.nodeKind_of_gatewayClass classed).symm.trans
        (coherent.nodeKind_of_nameSpace? place.symm)
  | ofNameSpace level' joins' =>
      obtain ⟨_, _, outline'⟩ := exists_outline_of_peersOn coherent manifests level'
      have kept' := MergerRegistry.sameOutline_of_chain outline'.isManifest joins'
      have place := target_eq_of_peersOn coherent manifests level' level
        (kept'.id.symm.trans (same.symm.trans kept.id))
      rw [place] at level'
      cases level'.symm.trans level
      obtain ⟨child, rfl⟩ := outline.isManifest
      obtain ⟨merged, rfl, again⟩ := MergerRegistry.exists_mergeLevels_of_chain joins
      cases ofClass with
      | none =>
          -- The policies of the namespace are merged with what they come to themselves.
          cases joins'
          obtain ⟨reference, target, named⟩ := named_of_nameSpace coherent placed member outline
          exact .twins (ManifestPolicy.twins_of_mergeLevels_self target
            (by rw [named]; decide) again)
      | some parent =>
          obtain ⟨middle, rfl, before⟩ := MergerRegistry.exists_mergeLevels_of_chain joins'
          exact .twins (ManifestPolicy.twins_of_mergeLevels_again before again)

/-- The policies of one identity that two routes have for a gateway, neither of them from a route's
own policies, are one policy or twins. -/
theorem ComesBy.twinned (placed : topology.Placed) (atGateway : gateway.nodeKind = .gateway)
    (manifest : entry.IsManifest)
    (above : ∀ entry, ancestor = some entry → topology.GatewayComesBy kind gateway entry)
    (h : topology.ComesBy kind ancestor route entry)
    (h' : topology.ComesBy kind ancestor next other) (same : entry.id = other.id)
    (notOwn : ∀ first ∈ topology.kindOn kind (some route), entry.id ≠ first.id)
    (notOwn' : ∀ first ∈ topology.kindOn kind (some next), other.id ≠ first.id) :
    entry.Twinned other := by
  cases h with
  | own member own => exact absurd own (notOwn _ member)
  | ofNameSpace level joins =>
      cases h' with
      | own member own => exact absurd own (notOwn' _ member)
      | ofNameSpace level' joins' =>
          obtain ⟨_, _, outline⟩ := exists_outline_of_peersOn coherent manifests level
          obtain ⟨_, _, outline'⟩ := exists_outline_of_peersOn coherent manifests level'
          have kept := MergerRegistry.sameOutline_of_chain outline.isManifest joins
          have kept' := MergerRegistry.sameOutline_of_chain outline'.isManifest joins'
          have place := target_eq_of_peersOn coherent manifests level level'
            (kept.id.symm.trans (same.trans kept'.id))
          rw [place] at level
          cases level.symm.trans level'
          cases joins.symm.trans joins'
          exact .of_eq manifest rfl
      | ancestor found =>
          subst found
          exact twinned_of_nameSpace coherent manifests placed atGateway (above _ rfl) level joins
            same
  | ancestor found =>
      subst found
      cases h' with
      | own member own => exact absurd own (notOwn' _ member)
      | ofNameSpace level' joins' =>
          exact (twinned_of_nameSpace coherent manifests placed atGateway (above _ rfl) level'
            joins' same.symm).symm
      | ancestor found' =>
          cases found'
          exact .of_eq manifest rfl

include once

/-- The policies of one identity that two routes have for a gateway are one policy or twins. -/
theorem twinned_of_routes (placed : topology.Placed)
    (held : RouteHeld MergerRegistry.specifications.toPolicyMerger topology route partitions)
    (held' : RouteHeld MergerRegistry.specifications.toPolicyMerger topology next partitions')
    (stored : partitions.get? gateway = some part)
    (stored' : partitions'.get? gateway = some part') (found : part.get? kind = some entry)
    (found' : part'.get? kind = some other) (same : entry.id = other.id) :
    entry.Twinned other := by
  obtain ⟨_, _, descends⟩ := route_descends coherent manifests once held _ _ stored
  obtain ⟨_, _, descends'⟩ := route_descends coherent manifests once held' _ _ stored'
  have stems := (descends kind).stemsFrom entry found
  have stems' := (descends' kind).stemsFrom other found'
  obtain ⟨policies, reached, above, comes⟩ := route_comesBy coherent manifests once held stored
  obtain ⟨_, reached', _, comes'⟩ := route_comesBy coherent manifests once held' stored'
  cases reached.symm.trans reached'
  have byKind := kindByKind coherent once MergerRegistry.specifications
  have attached := ((byKind.route_part_iff held.result).mp ⟨part, stored⟩).1
  have attached' := ((byKind.route_part_iff held'.result).mp ⟨part', stored'⟩).1
  have atGateway := nodeKind_of_mem_idsOf (coherent.gateway_of_target attached)
  by_cases routes : route = next
  · subst routes
    cases held.held.symm.trans held'.held
    cases stored.symm.trans stored'
    cases found.symm.trans found'
    exact .of_eq stems.isManifest rfl
  · have atRoute := nodeKind_of_mem_idsOf (hasNode_iff.mp (coherent.outgoing_ends attached).1)
    have atNext := nodeKind_of_mem_idsOf (hasNode_iff.mp (coherent.outgoing_ends attached').1)
    refine (comes kind entry found).twinned coherent manifests placed atGateway stems.isManifest
      (above kind) (comes' kind other found') same (fun first member own => ?_)
      fun first member own => ?_
    · exact routes (stems'.eq_of_own coherent atGateway atRoute member (same.symm.trans own))
    · exact routes (stems.eq_of_own coherent atGateway atNext member (same.trans own)).symm

/-- What a route has is specified, whatever its sections are. -/
theorem specified_of_route
    (held : RouteHeld MergerRegistry.specifications.toPolicyMerger topology route partitions)
    (stored : partitions.get? gateway = some part) (found : part.get? kind = some entry) :
    entry.Specified := by
  obtain ⟨_, _, descends⟩ := route_descends coherent manifests once held _ _ stored
  obtain ⟨id, source, attached, _, identity, _, outline⟩ :=
    (descends kind).stemsFrom entry found
  obtain ⟨_, reference, target⟩ := coherent.readable attached
  exact outline.specified target identity

end Coherent

/-- A route that has not failed has been given a part for each of its gateways that has policies. -/
theorem exists_resolved_part {after : Topology} {report : ResolutionReport}
    {mode : ResolutionMode} (reachable : before.Reachable)
    (run : (resolve MergerRegistry.specifications.toPolicyMerger mode).run before =
      (.ok report, after)) (member : route ∈ before.idsOf .httpRoute)
    (sound : route ∉ report.failedIds) (attached : gateway ∈ before.targets .routeGateway route)
    (effective : after.effective.get? gateway = some policies) : ∃ partitions part,
      ResolvesRoute MergerRegistry.specifications.toPolicyMerger mode before route partitions ∧
      RouteHeld MergerRegistry.specifications.toPolicyMerger after route partitions ∧
      partitions.get? gateway = some part := by
  have coherent := reachable.coherent
  have reachable' := reachable.after_resolve run
  have graph := (resolution_of_run coherent run).graph
  obtain ⟨partitions, resolves⟩ := exists_resolvesRoute coherent run member sound
  have held := resolves.routeHeld coherent run
  obtain ⟨part, stored⟩ := ((kindByKind reachable'.coherent reachable'.indexedOnce
    MergerRegistry.specifications).route_part_iff held.result).mpr
      ⟨graph.targets .routeGateway route ▸ attached, policies, effective⟩
  exact ⟨partitions, part, resolves, held, stored⟩

/-- Where no two policies meet, a best-effort resolution comes to an end without failures. -/
theorem resolve_of_lone (reachable : before.Reachable)
    (manifests : before.Admits Policy.IsManifest)
    (lone : ∀ id group, before.GroupOf id group → group.length ≤ 1) : ∃ report after,
      (resolve MergerRegistry.specifications.toPolicyMerger .bestEffort).run before =
        (.ok report, after) ∧
      ∀ kind ∈ [NodeKind.gateway, .httpRoute, .backend], ∀ id ∈ before.idsOf kind,
        id ∉ report.failedIds := by
  have coherent := reachable.coherent
  have specified := coherent.admits_specified manifests
  have alone : ∀ {id group}, before.GroupOf id group → ∀ related : Policy → Policy → Prop,
      group.Pairwise related := by
    intro id group member related
    cases group with
    | nil => exact .nil
    | cons policy rest =>
        have none : rest = [] := by simpa using lone id _ member
        rw [none]
        exact List.pairwise_singleton _ _
  have legible : before.Legible := ⟨specified, fun _ _ member => alone member _⟩
  obtain ⟨report, after, run⟩ := legible.faultless.exists_report coherent
  have contained := (resolution_of_run coherent run).conflictsContained coherent legible
  have sound : ∀ id, ¬ before.Afflicted id := by
    intro id afflicted
    induction afflicted with
    | divided split =>
        refine (dividedAt_iff specified _).mp split fun group member kind => ?_
        exact (alone member _).sublist List.filter_sublist
    | route _ _ ih => exact ih
    | backend _ _ ih => exact ih
  refine ⟨report, after, run, fun kind listed id member => ?_⟩
  rw [contained.failed_iff kind listed id member]
  exact sound id

/-- Two tables of policies can be reconciled in either order. -/
structure EitherOrder (first second : PoliciesByKind) : Prop where
  /-- Policies that no precedence puts in order have the same content. -/
  same : ∀ {kind entry other}, first.get? kind = some entry → second.get? kind = some other →
    entry.id = other.id → entry.Same other
  /-- Both orders come to the same content, or fail with one error. -/
  alike : Except.Alike PoliciesByKind.Same
    (MergerRegistry.specifications.reconcile (some first) second).result
    (MergerRegistry.specifications.reconcile (some second) first).result
  /-- The error is a conflict, unless some policies of one kind are not legible together. -/
  conflict : ∀ {error},
    (MergerRegistry.specifications.reconcile (some first) second).result = .error error →
      (∃ conflict, error = .conflict conflict) ∨
        ∃ kind entry other, first.get? kind = some entry ∧ second.get? kind = some other ∧
          ¬ entry.LegibleTogether other

theorem EitherOrder.of_twinned {first second : PoliciesByKind}
    (specified : ∀ kind entry, first.get? kind = some entry → entry.Specified)
    (specified' : ∀ kind entry, second.get? kind = some entry → entry.Specified)
    (twinned : ∀ kind entry other, first.get? kind = some entry → second.get? kind = some other →
      entry.id = other.id → entry.Twinned other) : EitherOrder first second where
  same found found' same := (twinned _ _ _ found found' same).same
  alike := by
    refine MergerRegistry.reconcile_comm fun kind entry other found found' => ?_
    obtain ⟨id, identity⟩ := (specified kind entry found).exists_id
    obtain ⟨id', identity'⟩ := (specified' kind other found').exists_id
    refine MergerRegistry.exchangeable_of_twinned identity identity' fun same => ?_
    exact twinned kind entry other found found' (identity.trans (same ▸ identity'.symm))
  conflict {error} failed := by
    obtain ⟨kind, entry, other, found, found', failed, _⟩ :=
      MergerRegistry.exists_least_of_reconcile_error failed
    by_cases legible : entry.LegibleTogether other
    · exact .inl (MergerRegistry.conflict_of_mergeInPrecedence (specified kind entry found)
        (specified' kind other found') legible failed)
    · exact .inr ⟨kind, entry, other, found, found', legible⟩

/-- What a resolution that leads from `before` to `after` works out for routes is stored there, and
what two of them have for a gateway can be reconciled in either order. -/
structure RoutesInEitherOrder (mode : ResolutionMode) (before after : Topology) : Prop where
  held : ∀ {route partitions},
    ResolvesRoute MergerRegistry.specifications.toPolicyMerger mode before route partitions →
      after.partitions.get? route = some partitions
  eitherOrder : ∀ {route next gateway partitions partitions' part part'},
    ResolvesRoute MergerRegistry.specifications.toPolicyMerger mode before route partitions →
    ResolvesRoute MergerRegistry.specifications.toPolicyMerger mode before next partitions' →
    partitions.get? gateway = some part → partitions'.get? gateway = some part' →
      EitherOrder part part'

/-- With the registry that merges specifications, and manifests only, what two routes have for a
gateway can be reconciled in either order. -/
theorem resolve_routes_in_either_order (reachable : before.Reachable)
    (manifests : before.Admits Policy.IsManifest) (mode : ResolutionMode) :
    RoutesInEitherOrder mode before
      ((resolve MergerRegistry.specifications.toPolicyMerger mode).run before).2 := by
  have coherent := reachable.coherent
  have graph := sameGraph_resolve MergerRegistry.specifications.toPolicyMerger mode before
  cases run : (resolve MergerRegistry.specifications.toPolicyMerger mode).run before with
  | mk result after =>
  rw [run] at graph
  have reachable' := reachable.after_resolve run
  have coherent' := reachable'.coherent
  have once := reachable'.indexedOnce
  have manifests' : after.Admits Policy.IsManifest := manifests.congr graph
  refine ⟨fun resolves => (resolves.routeHeld coherent run).held, ?_⟩
  intro route next gateway partitions partitions' part part' resolves resolves' stored stored'
  have held := resolves.routeHeld coherent run
  have held' := resolves'.routeHeld coherent run
  refine .of_twinned (fun _ _ => specified_of_route coherent' manifests' once held stored)
    (fun _ _ => specified_of_route coherent' manifests' once held' stored') ?_
  intro kind entry other found found' same
  exact twinned_of_routes coherent' manifests' once reachable'.placed held held' stored stored'
    found found' same

/-- A gateway with a policy on its namespace, and two routes of which one is in this namespace. -/
def neighbouringRoutes : Topology :=
  [Operation.insert (.gatewayClass ⟨"c", ""⟩), .insert (.nameSpace ⟨"n", []⟩),
    .insert (.gateway ⟨"n", "g", "c"⟩), .insert (.httpRoute ⟨"n", "r", [], []⟩),
    .insert (.httpRoute ⟨"m", "r", [], []⟩),
    .connect .gatewayClass (.gateway "n" "g") (.gatewayClass "c"),
    .connect .gatewayNameSpace (.gateway "n" "g") (.ofNamespace "n"),
    .connect .routeNameSpace (.httpRoute "n" "r") (.ofNamespace "n"),
    .connect .routeGateway (.httpRoute "n" "r") (.gateway "n" "g"),
    .connect .routeGateway (.httpRoute "m" "r") (.gateway "n" "g"),
    .attach (quotaOn toNameSpace "p")].foldl Operation.apply .empty

theorem admits_neighbouringRoutes : neighbouringRoutes.Admits (· = quotaOn toNameSpace "p") := by
  intro id attachment stored
  have member := List.mem_map_of_mem (f := fun entry => entry.2.policy)
    (Table.mem_entries_iff.mpr stored)
  change attachment.policy ∈ [quotaOn toNameSpace "p"] at member
  exact List.mem_singleton.mp member

theorem sectioned_quotaOn (reference : Document) (name : String) :
    (quotaOn reference name).Sectioned := by
  refine ⟨_, rfl, fun _ key listed => ⟨[], ?_⟩⟩
  simp only [List.mem_cons, List.not_mem_nil, or_false] at listed
  rcases listed with rfl | rfl <;> rfl

theorem resolve_routes_in_either_order_neighbouringRoutes :
    neighbouringRoutes.Admits Policy.IsManifest ∧ ∃ partitions partitions' part part' entry other,
      ResolvesRoute MergerRegistry.specifications.toPolicyMerger .bestEffort neighbouringRoutes
        (.httpRoute "n" "r") partitions ∧
      ResolvesRoute MergerRegistry.specifications.toPolicyMerger .bestEffort neighbouringRoutes
        (.httpRoute "m" "r") partitions' ∧
      partitions.get? (.gateway "n" "g") = some part ∧
      partitions'.get? (.gateway "n" "g") = some part' ∧
      part.get? ⟨"example.com", "Quota"⟩ = some entry ∧
      part'.get? ⟨"example.com", "Quota"⟩ = some other ∧ entry.id = other.id ∧
      EitherOrder part part' := by
  have reachable : neighbouringRoutes.Reachable := .applyAll .empty _
  have manifests : neighbouringRoutes.Admits Policy.IsManifest :=
    admits_neighbouringRoutes.imp fun _ same => same ▸ ⟨_, rfl⟩
  obtain ⟨report, after, run, sound⟩ := resolve_of_compatible reachable admits_neighbouringRoutes
    (by rintro _ rfl; exact sectioned_quotaOn _ _)
    (by rintro _ _ rfl rfl; exact ⟨rfl, rfl, fun direct => nomatch direct⟩)
  have h := resolution_of_run reachable.coherent run
  have graph := h.graph
  have coherent := h.coherent
  have once := (reachable.after_resolve run).indexedOnce
  have manifests' : after.Admits Policy.IsManifest := manifests.congr graph
  have node : .gateway "n" "g" ∈ after.idsOf .gateway := graph.idsOf _ ▸ by decide
  have atGateway : GatewayHeld _ after (.gateway "n" "g") :=
    h.gateway_of_sound reachable.coherent node (sound _)
  obtain ⟨policies, effective⟩ := atGateway.effective_iff.mpr ⟨_, graph.target? _ _⟩
  have ofGateway := (gateway_descends coherent manifests' once atGateway effective
    ⟨"example.com", "Quota"⟩).takesAfter
  simp only [graph.kindOn, graph.nameSpace?, graph.target?] at ofGateway
  change Policy.TakesAfter [quotaOn toNameSpace "p"] _ at ofGateway
  obtain ⟨above, reached, identity⟩ := ofGateway.exists_of_singleton
  -- What a route has takes after its most specific level, if one policy is all that this has.
  have has : ∀ {nameSpace : String} {policy : Policy},
      .httpRoute nameSpace "r" ∈ neighbouringRoutes.idsOf .httpRoute →
      .gateway "n" "g" ∈ neighbouringRoutes.targets .routeGateway (.httpRoute nameSpace "r") →
      Policy.mostSpecific [
        neighbouringRoutes.kindOn ⟨"example.com", "Quota"⟩ (some (.httpRoute nameSpace "r")),
        neighbouringRoutes.kindOn ⟨"example.com", "Quota"⟩
          (neighbouringRoutes.nameSpace? (.httpRoute nameSpace "r")), [above]] = [policy] →
      ∃ partitions part entry,
        ResolvesRoute MergerRegistry.specifications.toPolicyMerger .bestEffort neighbouringRoutes
          (.httpRoute nameSpace "r") partitions ∧
        partitions.get? (.gateway "n" "g") = some part ∧
        part.get? ⟨"example.com", "Quota"⟩ = some entry ∧ entry.id = policy.id := by
    intro nameSpace policy member attached only
    obtain ⟨partitions, part, resolves, held, stored⟩ :=
      exists_resolved_part reachable run member (sound _) attached effective
    obtain ⟨_, same, descends⟩ := route_descends coherent manifests' once held _ _ stored
    cases effective.symm.trans same
    have takesAfter := (descends ⟨"example.com", "Quota"⟩).takesAfter
    simp only [graph.kindOn, graph.nameSpace?, reached] at takesAfter
    change Policy.TakesAfter (Policy.mostSpecific [
      neighbouringRoutes.kindOn _ _, neighbouringRoutes.kindOn _ _, [above]]) _ at takesAfter
    rw [only] at takesAfter
    obtain ⟨entry, found, same⟩ := takesAfter.exists_of_singleton
    exact ⟨partitions, part, entry, resolves, stored, found, same⟩
  obtain ⟨partitions, part, entry, resolves, stored, found, same⟩ :=
    @has "n" (quotaOn toNameSpace "p") (by decide) (by decide) rfl
  obtain ⟨partitions', part', other, resolves', stored', found', same'⟩ :=
    @has "m" above (by decide) (by decide) rfl
  have symmetric := resolve_routes_in_either_order reachable manifests .bestEffort
  exact ⟨manifests, partitions, partitions', part, part', entry, other, resolves, resolves', stored,
    stored', found, found', same.trans (same'.trans identity).symm,
    symmetric.eitherOrder resolves resolves' stored stored'⟩

/-- A gateway with two routes that each have an inherited policy of their own, of which one has
defaults that are no object. -/
def spoiledRoutes : Topology :=
  [Operation.insert (.gatewayClass ⟨"c", ""⟩), .insert (.gateway ⟨"n", "g", "c"⟩),
    .insert (.httpRoute ⟨"n", "r1", [], []⟩), .insert (.httpRoute ⟨"n", "r2", [], []⟩),
    .connect .gatewayClass (.gateway "n" "g") (.gatewayClass "c"),
    .connect .routeGateway (.httpRoute "n" "r1") (.gateway "n" "g"),
    .connect .routeGateway (.httpRoute "n" "r2") (.gateway "n" "g"),
    .attach (limit "a" "HTTPRoute" "r1" [("default", .int 5)]),
    .attach (limit "b" "HTTPRoute" "r2" [("default", .object [("x", .int 1)])])].foldl
    Operation.apply .empty

def spoiledPolicies : List Policy :=
  [limit "a" "HTTPRoute" "r1" [("default", .int 5)],
    limit "b" "HTTPRoute" "r2" [("default", .object [("x", .int 1)])]]

theorem admits_spoiledRoutes : spoiledRoutes.Admits (· ∈ spoiledPolicies) := by
  intro id attachment stored
  exact List.mem_map_of_mem (f := fun entry => entry.2.policy) (Table.mem_entries_iff.mpr stored)

theorem isManifest_spoiledRoutes : spoiledRoutes.Admits Policy.IsManifest := by
  refine admits_spoiledRoutes.imp fun policy member => ?_
  simp only [spoiledPolicies, List.mem_cons, List.not_mem_nil, or_false] at member
  rcases member with same | same
  · exact ⟨_, same⟩
  · exact ⟨_, same⟩

section SpoiledRoutes

variable {edge : Edge} {source id : ResourceId} {group : List Policy}

theorem targets_spoiledRoutes {target : ResourceId}
    (member : target ∈ spoiledRoutes.targets edge source) :
    edge ∈ [.gatewayClass, .routeGateway] := by
  unfold targets at member
  cases stored : spoiledRoutes.outgoing.get? (edge, source) with
  | none =>
      rw [stored] at member
      cases member
  | some ids =>
      have entered := List.mem_map_of_mem (f := fun entry => entry.1.1)
        (Table.mem_entries_iff.mpr stored)
      change edge ∈ [Edge.gatewayClass, .routeGateway, .routeGateway] at entered
      simpa using entered

theorem sources_spoiledRoutes (backend : ResourceId) :
    spoiledRoutes.sources .routeBackend backend = [] := by
  unfold sources
  cases stored : spoiledRoutes.incoming.get? (.routeBackend, backend) with
  | none => rfl
  | some ids =>
      have entered := List.mem_map_of_mem (f := fun entry => entry.1.1)
        (Table.mem_entries_iff.mpr stored)
      change Edge.routeBackend ∈ [Edge.gatewayClass, .routeGateway] at entered
      exact absurd entered (by decide)

theorem nameSpace?_spoiledRoutes (id : ResourceId) : spoiledRoutes.nameSpace? id = none := by
  unfold nameSpace?
  cases found : Edge.toNameSpace? id.nodeKind with
  | none => rfl
  | some edge =>
      refine List.head?_eq_none_iff.mpr (List.eq_nil_iff_forall_not_mem.mpr fun target member => ?_)
      have listed := targets_spoiledRoutes member
      simp only [List.mem_cons, List.not_mem_nil, or_false] at listed
      unfold Edge.toNameSpace? at found
      rcases listed with rfl | rfl <;> split at found <;> cases found

/-- Each route has one policy, and nothing else has any. -/
theorem policiesOn_spoiledRoutes (id : ResourceId) :
    (spoiledRoutes.policiesOn (some id)).length ≤ 1 ∧
      (id.nodeKind ≠ .httpRoute → spoiledRoutes.policiesOn (some id) = []) := by
  unfold policiesOn policyIdsOn
  dsimp only
  cases stored : spoiledRoutes.attached.get? id with
  | none => exact ⟨Nat.zero_le _, fun _ => rfl⟩
  | some ids =>
      have entered := Table.mem_entries_iff.mpr stored
      change (id, ids) ∈ [(.httpRoute "n" "r1", [_]), (.httpRoute "n" "r2", [_])] at entered
      simp only [List.mem_cons, List.not_mem_nil, or_false, Prod.mk.injEq] at entered
      rcases entered with ⟨rfl, rfl⟩ | ⟨rfl, rfl⟩
      · exact ⟨Nat.le_refl _, fun other => absurd rfl other⟩
      · exact ⟨Nat.le_refl _, fun other => absurd rfl other⟩

theorem groupAtGateway_spoiledRoutes (h : id.nodeKind = .gateway) :
    spoiledRoutes.groupAtGateway id = [] := by
  have own := (policiesOn_spoiledRoutes id).2 (by rw [h]; decide)
  have ofClass : spoiledRoutes.policiesOn (spoiledRoutes.target? .gatewayClass id) = [] := by
    cases classed : spoiledRoutes.target? .gatewayClass id with
    | none => rfl
    | some gatewayClass =>
        have coherent : spoiledRoutes.Coherent := (Reachable.applyAll .empty _).coherent
        have kind := coherent.nodeKind_of_gatewayClass classed
        exact (policiesOn_spoiledRoutes gatewayClass).2 (by rw [kind]; decide)
  rw [groupAtGateway, ofClass, nameSpace?_spoiledRoutes, own]
  rfl

/-- No two policies meet. -/
theorem length_group_spoiledRoutes (h : spoiledRoutes.GroupOf id group) : group.length ≤ 1 := by
  have coherent : spoiledRoutes.Coherent := (Reachable.applyAll .empty _).coherent
  cases h with
  | gateway kind _ =>
      rw [groupAtGateway_spoiledRoutes kind]
      exact Nat.zero_le _
  | ofNameSpace _ =>
      rw [nameSpace?_spoiledRoutes]
      exact Nat.zero_le _
  | own _ => exact (policiesOn_spoiledRoutes id).1
  | route _ reached =>
      rw [groupAtRoute, groupAtGateway_spoiledRoutes
        (nodeKind_of_mem_idsOf (coherent.gateway_of_target reached.1)), nameSpace?_spoiledRoutes]
      exact (policiesOn_spoiledRoutes id).1
  | backend _ reached =>
      obtain ⟨_, source, _⟩ := reached
      rw [sources_spoiledRoutes] at source
      cases source

/-- Whatever the routes have is a limit. -/
theorem kind_of_part_spoiledRoutes {after : Topology} (reachable : after.Reachable)
    (graph : spoiledRoutes.SameGraph after)
    (held : RouteHeld MergerRegistry.specifications.toPolicyMerger after id partitions)
    (stored : partitions.get? gateway = some part) (found : part.get? kind = some entry) :
    kind = ⟨"example.com", "Limit"⟩ := by
  obtain ⟨_, _, descends⟩ := route_descends reachable.coherent
    (isManifest_spoiledRoutes.congr graph) reachable.indexedOnce held _ _ stored
  obtain ⟨_, source, attached, _, _, ofKind, outline⟩ := (descends kind).stemsFrom entry found
  have member := admits_spoiledRoutes.congr graph _ _ attached
  rw [outline.kind] at ofKind
  simp only [spoiledPolicies, List.mem_cons, List.not_mem_nil, or_false] at member
  rcases member with same | same
  · exact Except.ok.inj ((same ▸ ofKind).symm.trans rfl)
  · exact Except.ok.inj ((same ▸ ofKind).symm.trans rfl)

end SpoiledRoutes

theorem mergeInPrecedence_spoiledPolicies :
    MergerRegistry.mergeInPrecedence .specification
        (limit "a" "HTTPRoute" "r1" [("default", .int 5)])
        (limit "b" "HTTPRoute" "r2" [("default", .object [("x", .int 1)])]) =
      .error (.fault (.malformed .notAnObject)) ∧
    MergerRegistry.mergeInPrecedence .specification
        (limit "b" "HTTPRoute" "r2" [("default", .object [("x", .int 1)])])
        (limit "a" "HTTPRoute" "r1" [("default", .int 5)]) =
      .error (.fault (.malformed .notAnObject)) := by
  have first : (limit "a" "HTTPRoute" "r1" [("default", .int 5)]).id =
      .ok (.policy "example.com" "Limit" "n" "a") := rfl
  have second : (limit "b" "HTTPRoute" "r2" [("default", .object [("x", .int 1)])]).id =
      .ok (.policy "example.com" "Limit" "n" "b") := rfl
  constructor
  · rw [MergerRegistry.mergeInPrecedence_of_id first second, if_pos (by decide)]
    rfl
  · rw [MergerRegistry.mergeInPrecedence_of_id second first, if_neg (by decide)]
    rfl

/-- Sections that are no objects are no conflict: whichever route comes first, reconciling the two
ends in a fault. -/
theorem spoiledRoutes_fault :
    spoiledRoutes.Reachable ∧ spoiledRoutes.Admits Policy.IsManifest ∧
      ∃ report after, (resolve MergerRegistry.specifications.toPolicyMerger .bestEffort).run
          spoiledRoutes = (.ok report, after) ∧
        ∃ partitions partitions' first second,
          ResolvesRoute MergerRegistry.specifications.toPolicyMerger .bestEffort spoiledRoutes
            (.httpRoute "n" "r1") partitions ∧
          ResolvesRoute MergerRegistry.specifications.toPolicyMerger .bestEffort spoiledRoutes
            (.httpRoute "n" "r2") partitions' ∧
          partitions.get? (.gateway "n" "g") = some first ∧
          partitions'.get? (.gateway "n" "g") = some second ∧
          (MergerRegistry.specifications.reconcile (some first) second).result =
            .error (.fault (.malformed .notAnObject)) ∧
          (MergerRegistry.specifications.reconcile (some second) first).result =
            .error (.fault (.malformed .notAnObject)) := by
  have reachable : spoiledRoutes.Reachable := .applyAll .empty _
  obtain ⟨report, after, run, sound⟩ := resolve_of_lone reachable isManifest_spoiledRoutes
    fun _ _ => length_group_spoiledRoutes
  have h := resolution_of_run reachable.coherent run
  have graph := h.graph
  have node : .gateway "n" "g" ∈ spoiledRoutes.idsOf .gateway := by decide
  obtain ⟨policies, effective, without⟩ := exists_effective_of_bare h reachable.coherent
    (graph.idsOf _ ▸ node) (sound .gateway (by decide) _ node)
    ((graph.target? _ _).trans rfl) ((graph.policiesOn _).trans rfl)
    ((graph.policiesOn _).trans (graph.nameSpace? _ ▸ rfl)) ((graph.policiesOn _).trans rfl)
  have has : ∀ {name id : String} {policy : Policy},
      .httpRoute "n" name ∈ spoiledRoutes.idsOf .httpRoute →
      .gateway "n" "g" ∈ spoiledRoutes.targets .routeGateway (.httpRoute "n" name) →
      spoiledRoutes.policiesOn (some (.httpRoute "n" name)) = [policy] →
      policy.id = .ok (.policy "example.com" "Limit" "n" id) → ∃ partitions part,
        ResolvesRoute MergerRegistry.specifications.toPolicyMerger .bestEffort spoiledRoutes
          (.httpRoute "n" name) partitions ∧
        partitions.get? (.gateway "n" "g") = some part ∧
        part.get? ⟨"example.com", "Limit"⟩ = some policy ∧
        ∀ kind entry, part.get? kind = some entry → kind = ⟨"example.com", "Limit"⟩ := by
    intro name id policy member attached owns found
    have alive := sound .httpRoute (by decide) _ member
    have lone := exists_part_of_lone h (graph.idsOf _ ▸ member) alive
      (graph.targets .routeGateway _ ▸ attached) effective without
      ((graph.policiesOn _).trans (by rw [graph.nameSpace?, nameSpace?_spoiledRoutes]; rfl))
      ((graph.policiesOn _).trans owns) found
    obtain ⟨partitions, part, resolves, held, stored⟩ :=
      exists_resolved_part reachable run member alive attached effective
    rw [held.held, Option.bind_some, stored] at lone
    exact ⟨partitions, part, resolves, stored, lone, fun _ _ found =>
      kind_of_part_spoiledRoutes (reachable.after_resolve run) graph held stored found⟩
  obtain ⟨partitions, first, resolves, stored, found, only⟩ :=
    @has "r1" _ _ (by decide) (by decide) rfl rfl
  obtain ⟨partitions', second, resolves', stored', found', only'⟩ :=
    @has "r2" _ _ (by decide) (by decide) rfl rfl
  obtain ⟨forth, back⟩ := mergeInPrecedence_spoiledPolicies
  exact ⟨reachable, isManifest_spoiledRoutes, report, after, run, partitions, partitions', first,
    second, resolves, resolves', stored, stored',
    MergerRegistry.result_reconcile_of_error found found' forth only,
    MergerRegistry.result_reconcile_of_error found' found back only'⟩

end Topology

end PolicyTopology
