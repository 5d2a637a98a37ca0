import PolicyTopology.Proofs.Policy.Admitted
import PolicyTopology.Proofs.Topology.Held

/-!
# Resolutions that come to an end

A merger that raises nothing but conflicts never keeps a best-effort resolution from its end: no
node comes to a fault, whatever was stored before. What a merger promises, it promises for the
policies that it admits, and what it makes of admitted policies is admitted again.
-/

namespace PolicyTopology

def Partitions.All (admitted : Policy → Prop) (partitions : Partitions) : Prop :=
  ∀ gateway policies, partitions.get? gateway = some policies → policies.All admitted

/-- The work on a node comes to a conflict or to a result of which `property` holds. -/
def NodeWork.Tame {α : Type} (property : α → Prop) : Except NodeError α → Prop
  | .ok value => property value
  | .error (.failure (.conflict _)) => True
  | .error (.failure (.dependency _)) => False
  | .error (.fault _) => False

namespace NodeWork.Tame

variable {α β : Type} {property : α → Prop} {property' : β → Prop}

theorem atNode {merging : Merging α} (h : Merging.Tame property merging.result) :
    Tame property (Merging.atNode merging).result := by
  obtain ⟨trace, _ | value⟩ := merging
  · rename_i error
    cases error with
    | conflict conflict => exact trivial
    | fault fault => exact h
  · exact h

theorem bind {work : NodeWork α} {next : α → NodeWork β} (h : Tame property work.result)
    (h' : ∀ value, property value → Tame property' (next value).result) :
    Tame property' (work >>= next).result := by
  rw [Traced.result_bindM]
  generalize work.result = result at h
  cases result with
  | ok value => exact h' value h
  | error error =>
      rcases error with (_ | _) | _
      · exact trivial
      · exact h
      · exact h

theorem map {work : NodeWork α} {f : α → β} (h : Tame property work.result)
    (h' : ∀ value, property value → property' (f value)) :
    Tame property' (f <$> work).result := by
  rw [← bind_pure_comp]
  exact h.bind h'

theorem foldlM {step : β → α → NodeWork β} {items : List α}
    (h : ∀ item ∈ items, ∀ state, property' state → Tame property' (step state item).result)
    {start : β} (start_holds : property' start) :
    Tame property' (items.foldlM step start).result := by
  induction items generalizing start with
  | nil => exact start_holds
  | cons item rest ih =>
      rw [List.foldlM_cons]
      refine bind (h item List.mem_cons_self start start_holds) fun state holds => ?_
      exact ih (fun other member => h other (List.mem_cons_of_mem item member)) holds

end NodeWork.Tame

theorem Partitions.all_empty (admitted : Policy → Prop) : Partitions.All admitted .empty :=
  fun _ _ found => nomatch found

theorem Partitions.All.set {admitted : Policy → Prop} {partitions : Partitions}
    (h : partitions.All admitted) (gateway : ResourceId) {policies : PoliciesByKind}
    (h' : policies.All admitted) : Partitions.All admitted (partitions.set gateway policies) := by
  intro other found stored
  rw [Table.get?_set] at stored
  split at stored
  · cases stored
    exact h'
  · exact h other found stored

def Topology.Admits (admitted : Policy → Prop) (topology : Topology) : Prop :=
  ∀ id attachment, topology.policies.get? id = some attachment → admitted attachment.policy

namespace Topology

variable {merger : PolicyMerger} {admitted : Policy → Prop} {topology : Topology}
  {failed : List ResourceId} {id : ResourceId}

theorem Admits.of_mem_policiesOn (h : topology.Admits admitted) {target : Option ResourceId}
    {policy : Policy} (member : policy ∈ topology.policiesOn target) : admitted policy := by
  cases target with
  | none => cases member
  | some target =>
      obtain ⟨id, _, found⟩ := List.mem_filterMap.mp member
      obtain ⟨attachment, stored, rfl⟩ := Option.map_eq_some_iff.mp found
      exact h id attachment stored

theorem Admits.imp {admitted' : Policy → Prop} (h : topology.Admits admitted)
    (h' : ∀ policy, admitted policy → admitted' policy) : topology.Admits admitted' :=
  fun id attachment stored => h' _ (h id attachment stored)

theorem Admits.congr {before after : Topology} (h : before.Admits admitted)
    (graph : before.SameGraph after) : after.Admits admitted := by
  rwa [Admits, graph.policies]

theorem tame_level (law : merger.RaisesOnlyConflicts admitted) (h : topology.Admits admitted)
    (target : Option ResourceId) :
    NodeWork.Tame (PoliciesByKind.All admitted)
      (Merging.atNode (merger.mergeLevel (topology.policiesOn target))).result :=
  .atNode (law.mergeLevel fun _ member => h.of_mem_policiesOn member)

theorem tame_overlayLevels (law : merger.RaisesOnlyConflicts admitted)
    {ancestors ofNameSpace own : PoliciesByKind} (h : ancestors.All admitted)
    (h' : ofNameSpace.All admitted) (h'' : own.All admitted) :
    NodeWork.Tame (PoliciesByKind.All admitted)
      (overlayLevels merger ancestors ofNameSpace own).result :=
  (NodeWork.Tame.atNode (law.overlay h h')).bind fun _ middle => .atNode (law.overlay middle h'')

theorem tame_gatewayPolicies (law : merger.RaisesOnlyConflicts admitted)
    (h : topology.Admits admitted) (gateway : ResourceId) :
    NodeWork.Tame (fun result => ∀ policies, result = some policies → policies.All admitted)
      (topology.gatewayPolicies merger gateway).result := by
  unfold gatewayPolicies
  cases topology.target? .gatewayClass gateway with
  | none => exact fun _ same => nomatch same
  | some gatewayClass =>
      refine (tame_level law h _).bind fun ofClass classes => ?_
      refine (tame_level law h _).bind fun ofNameSpace nameSpaces => ?_
      refine (tame_level law h _).bind fun own owns => ?_
      refine (tame_overlayLevels law classes nameSpaces owns).map fun result all policies same => ?_
      exact Option.some.inj same ▸ all

theorem tame_routePartitions (law : merger.RaisesOnlyConflicts admitted)
    (h : topology.Admits admitted) {route : ResourceId}
    (read : ∀ gateway ∈ topology.targets .routeGateway route, ∀ policies,
      topology.effective.get? gateway = some policies → policies.All admitted) :
    NodeWork.Tame (Partitions.All admitted) (topology.routePartitions merger [] route).result := by
  unfold routePartitions
  dsimp only
  rw [requireSound_of_sound fun _ _ => List.not_mem_nil, pure_bind]
  refine (tame_level law h _).bind fun ofNameSpace nameSpaces => ?_
  refine (tame_level law h _).bind fun own owns => ?_
  refine NodeWork.Tame.foldlM (fun gateway member result all => ?_) (Partitions.all_empty _)
  cases stored : topology.effective.get? gateway with
  | none => exact all
  | some policies =>
      have ancestors := read gateway (mem_sortedIds.mp member) policies stored
      refine (tame_overlayLevels law ancestors nameSpaces owns).bind fun merged every => ?_
      exact all.set gateway every

theorem tame_reconcileRoutes (law : merger.RaisesOnlyConflicts admitted) {routes : List ResourceId}
    (read : ∀ route ∈ routes, ∀ partitions,
      topology.partitions.get? route = some partitions → partitions.All admitted) :
    NodeWork.Tame (Partitions.All admitted) (reconcileRoutes merger topology routes).result := by
  refine NodeWork.Tame.foldlM (fun route member result all => ?_) (Partitions.all_empty _)
  cases stored : topology.partitions.get? route with
  | none => exact all
  | some partitions =>
      refine NodeWork.Tame.foldlM (fun entry member' result all => ?_) all
      have part := read route member partitions stored entry.1 entry.2
        (Table.mem_entries_iff.mp ((Entries.sorted_perm _).mem_iff.mp member'))
      refine NodeWork.Tame.bind (.atNode (law.reconcile (all entry.1) part)) fun merged every => ?_
      exact all.set entry.1 every

theorem tame_backendPartitions (law : merger.RaisesOnlyConflicts admitted)
    (h : topology.Admits admitted) {backend : ResourceId}
    (read : ∀ route ∈ topology.sources .routeBackend backend, ∀ partitions,
      topology.partitions.get? route = some partitions → partitions.All admitted) :
    NodeWork.Tame (Partitions.All admitted)
      (topology.backendPartitions merger [] backend).result := by
  unfold backendPartitions
  dsimp only
  rw [requireSound_of_sound fun _ _ => List.not_mem_nil, pure_bind]
  refine (tame_level law h _).bind fun ofNameSpace nameSpaces => ?_
  refine (tame_level law h _).bind fun own owns => ?_
  have reconciled : NodeWork.Tame (Partitions.All admitted)
      (reconcileRoutes merger topology
        (sortedIds (topology.sources .routeBackend backend))).result :=
    tame_reconcileRoutes law fun route member => read route (mem_sortedIds.mp member)
  refine reconciled.bind fun start all => ?_
  refine NodeWork.Tame.foldlM (fun entry member result every => ?_) all
  have part := all entry.1 entry.2 (Table.mem_entries_iff.mp member)
  exact (tame_overlayLevels law part nameSpaces owns).bind fun merged kept => every.set entry.1 kept

end Topology

namespace Topology

variable {merger : PolicyMerger} {admitted : Policy → Prop} {before after : Topology}
  {failed : List ResourceId} {id : ResourceId}

/-- Work that comes to nothing but conflicts is no end of a best-effort resolution. -/
theorem passes_of_tame {α : Type} {property : α → Prop} {result : Except NodeError α}
    (h : NodeWork.Tame property result) {β : Type} (f : α → Option β) :
    Outcome.Passes .bestEffort (result.map f) := by
  rcases result with (failure | _) | _
  · cases failure with
    | conflict conflict => rfl
    | dependency id => trivial
  · exact h
  · trivial

theorem passes_awaiting {α : Type} {dependencies : List ResourceId} {own : Except NodeError α}
    (passes : (∀ id ∈ dependencies, id ∉ failed) → Outcome.Passes .bestEffort (own.map some)) :
    Outcome.Passes .bestEffort (awaiting failed dependencies own) := by
  unfold awaiting
  split
  · trivial
  · next none => exact passes (by simpa using none)

/-- The work on a node comes to no fault, once everything that is read for it is held. -/
structure Faultless (merger : PolicyMerger) (before : Topology) : Prop where
  gateway : ∀ gateway ∈ before.idsOf .gateway,
    Outcome.Passes .bestEffort (before.gatewayPolicies merger gateway).result
  route : ∀ {topology : Topology}, before.SameGraph topology → topology.Coherent →
    ∀ route ∈ topology.idsOf .httpRoute,
      (∀ gateway ∈ topology.targets .routeGateway route, GatewayHeld merger topology gateway) →
      Outcome.Passes .bestEffort ((topology.routePartitions merger [] route).result.map some)
  backend : ∀ {topology : Topology}, before.SameGraph topology → topology.Coherent →
    ∀ backend ∈ topology.idsOf .backend,
      (∀ route ∈ topology.sources .routeBackend backend, ∃ partitions,
        RouteHeld merger topology route partitions) →
      Outcome.Passes .bestEffort ((topology.backendPartitions merger [] backend).result.map some)

/-- A best-effort resolution comes to an end if no work comes to a fault. -/
theorem Faultless.exists_report (h : Faultless merger before) (coherent : before.Coherent) :
    ∃ report after, (resolve merger .bestEffort).run before = (.ok report, after) := by
  obtain ⟨gateways, first, ran⟩ := Pass.run_of_passes (Pass.gateways_lawful merger) coherent
    [] h.gateway
  have visited := Pass.visited_of_run (Pass.gateways_lawful merger) coherent ran
  have graph : before.SameGraph first := visited.storedAt.toSameGraph
  obtain ⟨routes, second, ran'⟩ := Pass.run_of_passes (Pass.routes_lawful merger)
    visited.coherent gateways.failures fun route member => by
      rw [outcome_routes]
      exact passes_awaiting fun sound => h.route graph visited.coherent route member
        fun gateway target => gatewayHeld_of_run ran coherent
          (visited.coherent.gateway_of_target target) (sound gateway target)
  have visited' := Pass.visited_of_run (Pass.routes_lawful merger) visited.coherent ran'
  have graph' : before.SameGraph second := graph.trans visited'.storedAt.toSameGraph
  obtain ⟨backends, after, ran''⟩ := Pass.run_of_passes (Pass.backends_lawful merger)
    visited'.coherent routes.failures fun backend member => by
      rw [outcome_backends]
      exact passes_awaiting fun sound => h.backend graph' visited'.coherent backend member
        fun route source => exists_routeHeld ran ran' coherent
          (visited'.coherent.route_of_source source) (sound route source)
  exact ⟨_, after,
    run_resolve_iff.mpr ⟨gateways, routes, backends, first, second, ran, ran', ran'', rfl⟩⟩

theorem GatewayHeld.all {topology : Topology} (h : GatewayHeld merger topology id)
    (law : merger.RaisesOnlyConflicts admitted) (admits : topology.Admits admitted)
    {policies : PoliciesByKind} (stored : topology.effective.get? id = some policies) :
    policies.All admitted := by
  have tame := tame_gatewayPolicies law admits id
  rw [h] at tame
  exact tame policies stored

theorem RouteHeld.all {topology : Topology} {partitions : Partitions}
    (h : RouteHeld merger topology id partitions) (law : merger.RaisesOnlyConflicts admitted)
    (admits : topology.Admits admitted) : partitions.All admitted := by
  have tame := tame_routePartitions law admits fun gateway target policies stored =>
    (h.gateways gateway target).all law admits stored
  rw [h.result] at tame
  exact tame

/-- The gateways that have not failed hold admitted policies after their pass. -/
theorem gateways_admitted (law : merger.RaisesOnlyConflicts admitted)
    (coherent : before.Coherent) (admits : before.Admits admitted) {progress : Progress}
    (ran : ((Pass.gateways merger).run .bestEffort []).run before = (.ok progress, after)) :
    ∀ gateway, after.hasNode .gateway gateway → gateway ∉ progress.failedIds →
      ∀ policies, after.effective.get? gateway = some policies → policies.All admitted := by
  have visited := Pass.visited_of_run (Pass.gateways_lawful merger) coherent ran
  intro gateway node sound policies stored
  exact (gatewayHeld_of_run ran coherent (hasNode_iff.mp node) sound).all law
    (admits.congr visited.storedAt.toSameGraph) stored

/-- The routes that have not failed hold admitted parts after their pass, if their gateways did. -/
theorem routes_admitted (law : merger.RaisesOnlyConflicts admitted)
    (coherent : before.Coherent) (admits : before.Admits admitted)
    {failures : List NodeFailure} {progress : Progress}
    (read : ∀ gateway, before.hasNode .gateway gateway → gateway ∉ failures.map (·.node) →
      ∀ policies, before.effective.get? gateway = some policies → policies.All admitted)
    (ran : ((Pass.routes merger).run .bestEffort failures).run before = (.ok progress, after)) :
    ∀ route, after.hasNode .httpRoute route → route ∉ progress.failedIds →
      ∀ partitions, after.partitions.get? route = some partitions → partitions.All admitted := by
  have visited := Pass.visited_of_run (Pass.routes_lawful merger) coherent ran
  have graph : before.SameGraph after := visited.storedAt.toSameGraph
  have settled : Settled .bestEffort (sortedIds (before.idsOf .httpRoute))
      ((Pass.routes merger).outcome before (failures.map (·.node))) before.partitions.get?
      after.partitions.get? progress.tally := visited.settled rfl (fun _ _ => rfl) (fun _ _ => rfl)
  intro route node sound partitions stored
  rw [graph.hasNode, hasNode_iff, ← mem_sortedIds] at node
  obtain ⟨result, found, held, sound'⟩ := settled.awaited_of_sound node
    (outcome_routes ..) fun failure failed => sound (visited.mem_failedIds node failed)
  have tame := tame_routePartitions law admits fun gateway member =>
    read gateway (coherent.outgoing_ends member).2 (sound' gateway member)
  rw [found] at tame
  exact Option.some.inj (held.symm.trans stored) ▸ tame

/-- A merger that raises nothing but conflicts raises no fault. -/
theorem faultless_of_law (law : merger.RaisesOnlyConflicts admitted)
    (admits : before.Admits admitted) : Faultless merger before where
  gateway gateway _ := by
    have passes := passes_of_tame (tame_gatewayPolicies law admits gateway) id
    rwa [Except.map_id] at passes
  route graph _ _ _ held := by
    have admits' := admits.congr graph
    refine passes_of_tame (tame_routePartitions law admits' fun gateway target policies => ?_) some
    exact (held gateway target).all law admits'
  backend graph _ _ _ held := by
    have admits' := admits.congr graph
    refine passes_of_tame (tame_backendPartitions law admits' fun route source partitions stored =>
      ?_) some
    obtain ⟨partitions', routeHeld⟩ := held route source
    rw [← Option.some.inj (routeHeld.held.symm.trans stored)]
    exact routeHeld.all law admits'

/-- With a merger that raises nothing but conflicts a best-effort resolution comes to an end. -/
theorem resolve_bestEffort_total (law : merger.RaisesOnlyConflicts admitted)
    (coherent : before.Coherent) (admits : before.Admits admitted) :
    ∃ report after, (resolve merger .bestEffort).run before = (.ok report, after) :=
  (faultless_of_law law admits).exists_report coherent

end Topology

namespace Resolution

variable {merger : PolicyMerger} {admitted : Policy → Prop} {mode : ResolutionMode}
  {before after : Topology} {report : ResolutionReport} {id : ResourceId}

theorem admits (h : Resolution merger mode before after report) (admits : before.Admits admitted) :
    after.Admits admitted :=
  admits.congr h.graph

theorem gateway_admitted (h : Resolution merger mode before after report)
    (law : merger.RaisesOnlyConflicts admitted) (coherent : before.Coherent)
    (admits : before.Admits admitted) (member : id ∈ after.idsOf .gateway)
    (sound : id ∉ report.failedIds) {policies : PoliciesByKind}
    (held : after.effective.get? id = some policies) : policies.All admitted := by
  have tame := Topology.tame_gatewayPolicies law (h.admits admits) id
  rw [h.gateway_of_sound coherent member sound] at tame
  exact tame policies held

theorem tame_route (h : Resolution merger mode before after report)
    (law : merger.RaisesOnlyConflicts admitted) (coherent : before.Coherent)
    (admits : before.Admits admitted)
    (sound : ∀ gateway ∈ after.targets .routeGateway id, gateway ∉ report.failedIds) :
    NodeWork.Tame (Partitions.All admitted) (after.routePartitions merger [] id).result := by
  refine Topology.tame_routePartitions law (h.admits admits) fun gateway member policies held => ?_
  have node := h.coherent.gateway_of_target member
  exact h.gateway_admitted law coherent admits node (sound gateway member) held

theorem route_admitted (h : Resolution merger mode before after report)
    (law : merger.RaisesOnlyConflicts admitted) (coherent : before.Coherent)
    (admits : before.Admits admitted) (member : id ∈ after.idsOf .httpRoute)
    (sound : id ∉ report.failedIds) {partitions : Partitions}
    (held : after.partitions.get? id = some partitions) : partitions.All admitted := by
  obtain ⟨partitions', routeHeld⟩ := h.exists_routeHeld coherent member sound
  rw [← Option.some.inj (routeHeld.held.symm.trans held)]
  exact routeHeld.all law (h.admits admits)

theorem tame_backend (h : Resolution merger mode before after report)
    (law : merger.RaisesOnlyConflicts admitted) (coherent : before.Coherent)
    (admits : before.Admits admitted)
    (sound : ∀ route ∈ after.sources .routeBackend id, route ∉ report.failedIds) :
    NodeWork.Tame (Partitions.All admitted) (after.backendPartitions merger [] id).result := by
  refine Topology.tame_backendPartitions law (h.admits admits)
    fun route member partitions held => ?_
  have node := h.coherent.route_of_source member
  exact h.route_admitted law coherent admits node (sound route member) held

end Resolution

end PolicyTopology
