import PolicyTopology.Proofs.Topology.Conflict
import PolicyTopology.Proofs.Topology.Interrupted
import PolicyTopology.Proofs.Topology.Offered
import PolicyTopology.Proofs.Topology.Partition

/-!
# Repeated resolutions

A resolution stores what it works out and takes nothing back. So after a repeated resolution every
node that has not failed shows what this resolution has worked out for it, whereas a node that has
failed shows what it showed before: nothing if it was never resolved, otherwise the policies of an
earlier resolution, which need not be those of the topology any more.
-/

namespace PolicyTopology

namespace Topology

variable {merger : PolicyMerger} {mode : ResolutionMode} {before after : Topology}
  {report : ResolutionReport} {id gateway route : ResourceId} {policies : PoliciesByKind}

/-- What is stored as the effective policies of a node: those of a gateway as they are, those of
other nodes apart for each gateway. -/
def effectiveOf (topology : Topology) (id : ResourceId) : Option (PoliciesByKind ⊕ Partitions) :=
  if id.nodeKind = .gateway then (topology.effective.get? id).map .inl
  else (topology.partitions.get? id).map .inr

/-- A resolution works out these effective policies for a node. -/
def WorksOut (merger : PolicyMerger) (mode : ResolutionMode) (before : Topology)
    (id : ResourceId) : PoliciesByKind ⊕ Partitions → Prop
  | .inl policies => ResolvesGateway merger mode before id policies
  | .inr partitions =>
    ResolvesRoute merger mode before id partitions ∨
      ResolvesBackend merger mode before id partitions

/-- Effective policies are worked out for gateways, routes and backends. -/
def IsResolvable (topology : Topology) (id : ResourceId) : Prop :=
  id ∈ topology.idsOf .gateway ∨ id ∈ topology.idsOf .httpRoute ∨ id ∈ topology.idsOf .backend

/-- What the nodes show after a resolution, compared to what they showed before. -/
structure Rerun (merger : PolicyMerger) (mode : ResolutionMode) (before after : Topology)
    (report : ResolutionReport) : Prop where
  /-- A failed node shows what it showed before. -/
  failed : ∀ id ∈ report.failedIds, after.effectiveOf id = before.effectiveOf id
  /-- So the failed nodes show nothing exactly if none of them showed anything before. -/
  failed_none_iff : (∀ id ∈ report.failedIds, after.effectiveOf id = none) ↔
    ∀ id ∈ report.failedIds, before.effectiveOf id = none
  /-- What another node shows has been worked out by this resolution. -/
  sound : ∀ id, after.IsResolvable id → id ∉ report.failedIds →
    ∀ value, after.effectiveOf id = some value → WorksOut merger mode before id value

theorem effectiveOf_gateway {topology : Topology} (ofKind : id.nodeKind = .gateway) :
    topology.effectiveOf id = (topology.effective.get? id).map .inl := if_pos ofKind

theorem effectiveOf_of_ne_gateway {topology : Topology} (other : id.nodeKind ≠ .gateway) :
    topology.effectiveOf id = (topology.partitions.get? id).map .inr := if_neg other

end Topology

namespace Settled

variable {α : Type} {mode : ResolutionMode} {ids : List ResourceId} {id : ResourceId}
  {tally : Tally} {outcome : ResourceId → Outcome α} {before after : ResourceId → Option α}

theorem held_of_failure (h : Settled mode ids outcome before after tally) (member : id ∈ ids)
    {failure : Failure} (failed : outcome id = .error (.failure failure)) :
    after id = before id := by
  rw [h.held id member, failed]
  rfl

end Settled

namespace Resolution

open PolicyTopology.Topology

variable {merger : PolicyMerger} {mode : ResolutionMode} {before after : Topology}
  {report : ResolutionReport} {id : ResourceId}

/-- A failure stores nothing, so the node is left as it was. -/
theorem effectiveOf_of_failed (h : Resolution merger mode before after report)
    (failed : id ∈ report.failedIds) : after.effectiveOf id = before.effectiveOf id := by
  obtain ⟨failure, entered⟩ := mem_failedIds_iff.mp failed
  rcases h.mem_failures_iff.mp entered with ⟨member, found⟩ | ⟨member, found⟩ | ⟨member, found⟩
  · have ofKind := nodeKind_of_mem_idsOf member
    rw [effectiveOf_gateway ofKind, effectiveOf_gateway ofKind,
      h.gateways.held_of_failure (mem_sortedIds.mpr member) found]
  · have other : id.nodeKind ≠ .gateway := by simp [nodeKind_of_mem_idsOf member]
    rw [effectiveOf_of_ne_gateway other, effectiveOf_of_ne_gateway other,
      h.routes.held_of_failure (mem_sortedIds.mpr member) found]
  · have other : id.nodeKind ≠ .gateway := by simp [nodeKind_of_mem_idsOf member]
    rw [effectiveOf_of_ne_gateway other, effectiveOf_of_ne_gateway other,
      h.backends.held_of_failure (mem_sortedIds.mpr member) found]

end Resolution

namespace Topology

variable {merger : PolicyMerger} {mode : ResolutionMode} {before after : Topology}
  {report : ResolutionReport} {id gateway route : ResourceId} {policies : PoliciesByKind}
  {partitions : Partitions}

section Completed

variable (coherent : before.Coherent)
  (run : (resolve merger mode).run before = (.ok report, after))

include coherent run

/-- What is stored for a gateway that has not failed has been worked out for it. -/
theorem resolvesGateway_of_sound (member : gateway ∈ before.idsOf .gateway)
    (sound : gateway ∉ report.failedIds) (stored : after.effective.get? gateway = some policies) :
    ResolvesGateway merger mode before gateway policies := by
  obtain ⟨gateways, routes, backends, first, second, ran, ran', ran'', rfl⟩ :=
    run_resolve_iff.mp run
  have law := Pass.gateways_lawful merger
  have visited := Pass.visited_of_run law coherent ran
  have visited' := Pass.visited_of_run (Pass.routes_lawful merger) visited.coherent ran'
  have visited'' := Pass.visited_of_run (Pass.backends_lawful merger) visited'.coherent ran''
  rcases Pass.worksOut_or_failed law coherent ran member with
    ⟨policies', works⟩ | nothing | failed
  · have held := (show ResolvesGateway merger mode before gateway policies' from
      works).gatewayHeld coherent run
    cases held.1.symm.trans stored
    exact works
  · -- a gateway without a class has never had effective policies
    have graph := sameGraph_resolve merger mode before
    rw [run] at graph
    have classless := classless_of_gatewayPolicies nothing
    rw [← graph.target?] at classless
    exact absurd classless (visited''.coherent.effective_classed (by rw [stored]; nofun))
  · exact absurd (visited''.failedIds_subset (visited'.failedIds_subset failed)) sound

/-- A resolution that comes to an end has worked out every route that has not failed. -/
theorem exists_resolvesRoute (member : route ∈ before.idsOf .httpRoute)
    (sound : route ∉ report.failedIds) :
    ∃ partitions, ResolvesRoute merger mode before route partitions := by
  obtain ⟨gateways, routes, backends, first, second, ran, ran', ran'', rfl⟩ :=
    run_resolve_iff.mp run
  have visited := Pass.visited_of_run (Pass.gateways_lawful merger) coherent ran
  have visited' := Pass.visited_of_run (Pass.routes_lawful merger) visited.coherent ran'
  have visited'' := Pass.visited_of_run (Pass.backends_lawful merger) visited'.coherent ran''
  have node : route ∈ first.idsOf .httpRoute := by
    rwa [visited.storedAt.toSameGraph.idsOf]
  rcases Pass.worksOut_or_failed (Pass.routes_lawful merger) visited.coherent ran' node with
    ⟨partitions, works⟩ | nothing | failed
  · exact ⟨partitions, gateways, first, ran, works⟩
  · exact absurd ((outcome_routes ..).symm.trans nothing) awaiting_ne_none
  · exact absurd (visited''.failedIds_subset failed) sound

/-- What a node shows that has not failed has been worked out for it. -/
theorem worksOut_of_sound (node : before.IsResolvable id) (sound : id ∉ report.failedIds)
    {value : PoliciesByKind ⊕ Partitions} (stored : after.effectiveOf id = some value) :
    WorksOut merger mode before id value := by
  rcases node with member | member | member
  · rw [effectiveOf_gateway (nodeKind_of_mem_idsOf member)] at stored
    obtain ⟨policies, held, rfl⟩ := Option.map_eq_some_iff.mp stored
    exact resolvesGateway_of_sound coherent run member sound held
  · have other : id.nodeKind ≠ .gateway := by simp [nodeKind_of_mem_idsOf member]
    obtain ⟨partitions, works⟩ := exists_resolvesRoute coherent run member sound
    rw [effectiveOf_of_ne_gateway other, (works.routeHeld coherent run).held] at stored
    cases stored
    exact .inl works
  · have other : id.nodeKind ≠ .gateway := by simp [nodeKind_of_mem_idsOf member]
    obtain ⟨partitions, works⟩ := exists_resolvesBackend coherent run member sound
    rw [effectiveOf_of_ne_gateway other, (works.backendHeld coherent run).held] at stored
    cases stored
    exact .inr works

end Completed

/-- After a resolution that comes to an end, nodes that have failed show what they showed before,
and all others what this resolution has worked out. -/
theorem resolve_leaves_failed_nodes (operations : List Operation) (merger : PolicyMerger)
    (mode : ResolutionMode) {after : Topology} {report : ResolutionReport}
    (run : (resolve merger mode).run (operations.foldl Operation.apply .empty) =
      (.ok report, after)) :
    Rerun merger mode (operations.foldl Operation.apply .empty) after report := by
  have coherent := (Reachable.empty.applyAll operations).coherent
  have h := resolution_of_run coherent run
  refine ⟨fun id => h.effectiveOf_of_failed, ?_, fun id node sound value stored => ?_⟩
  · exact forall_congr' fun id => forall_congr' fun failed => by
      rw [h.effectiveOf_of_failed failed]
  · refine worksOut_of_sound coherent run ?_ sound stored
    unfold IsResolvable at node ⊢
    rwa [h.graph.idsOf, h.graph.idsOf, h.graph.idsOf] at node

def quotaNamed (name : String) (limit : Int) : Policy := quotaFor name "Gateway" "g" (.int limit)

/-- To offer a policy to two topologies with the same graph leads to the same graph. -/
theorem SameGraph.attach (graph : before.SameGraph after) (policy : Policy) :
    ((Topology.attach policy).run before).2.SameGraph ((Topology.attach policy).run after).2 := by
  have wiring := SameWiring.attach policy before
  have wiring' := SameWiring.attach policy after
  have holding := (SameHolding.attach policy before after
    ⟨fun id => by rw [graph.nodes], graph.policies, graph.attached⟩).2
  exact ⟨wiring'.nodes.trans (graph.nodes.trans wiring.nodes.symm),
    wiring'.outgoing.trans (graph.outgoing.trans wiring.outgoing.symm),
    wiring'.incoming.trans (graph.incoming.trans wiring.incoming.symm),
    holding.policies, holding.attached⟩

/-- What nodes show stays when a policy is offered. -/
theorem effective_attach (policy : Policy) (topology : Topology) :
    ((attach policy).run topology).2.effective = topology.effective := by
  have survives : SurvivesAttachment fun other => other.effective = topology.effective :=
    ⟨fun _ h => h, fun _ h => h, fun h _ _ => h⟩
  exact survives.attach policy topology rfl

def oneQuota : List Operation :=
  [.insert (.gatewayClass ⟨"c", ""⟩), .insert (.gateway ⟨"n", "g", "c"⟩),
    .connect .gatewayClass (.gateway "n" "g") (.gatewayClass "c"), .attach (quotaNamed "a" 1)]

/-- The gateway is resolved and then gets another quota. -/
def secondQuota : List Operation :=
  oneQuota ++ [.resolve MergerRegistry.specifications.toPolicyMerger .bestEffort,
    .attach (quotaNamed "b" 2)]

/-- The resolution in between makes no difference to the graph. -/
theorem sameGraph_secondQuota :
    ((oneQuota ++ [Operation.attach (quotaNamed "b" 2)]).foldl Operation.apply .empty).SameGraph
      (secondQuota.foldl Operation.apply .empty) := by
  rw [secondQuota, List.foldl_append, List.foldl_append]
  exact (sameGraph_resolve _ _ _).attach (quotaNamed "b" 2)

theorem target_secondQuota : (secondQuota.foldl Operation.apply .empty).target? .gatewayClass
    (.gateway "n" "g") = some (.gatewayClass "c") :=
  sameGraph_secondQuota.target? _ _

theorem groupAtGateway_secondQuota :
    (secondQuota.foldl Operation.apply .empty).groupAtGateway (.gateway "n" "g") =
      [quotaNamed "a" 1, quotaNamed "b" 2] :=
  sameGraph_secondQuota.groupAtGateway _

theorem gateway_mem_secondQuota :
    .gateway "n" "g" ∈ (secondQuota.foldl Operation.apply .empty).idsOf .gateway := by
  rw [sameGraph_secondQuota.idsOf]
  decide

theorem admits_oneQuota :
    (oneQuota.foldl Operation.apply .empty).Admits (· = quotaNamed "a" 1) := by
  intro id attachment stored
  have member := List.mem_map_of_mem (f := fun entry => entry.2.policy)
    (Table.mem_entries_iff.mpr stored)
  change attachment.policy ∈ [quotaNamed "a" 1] at member
  exact List.mem_singleton.mp member

theorem admits_secondQuota : (secondQuota.foldl Operation.apply .empty).Admits
    (· ∈ [quotaNamed "a" 1, quotaNamed "b" 2]) := by
  refine Admits.congr (fun id attachment stored => ?_) sameGraph_secondQuota
  exact List.mem_map_of_mem (f := fun entry => entry.2.policy) (Table.mem_entries_iff.mpr stored)

theorem sectioned_quotaNamed (name : String) (limit : Int) :
    (quotaNamed name limit).Sectioned :=
  ⟨_, rfl, fun inherited => nomatch inherited⟩

theorem shaped_secondQuota : (secondQuota.foldl Operation.apply .empty).Admits Policy.Shaped := by
  refine (Reachable.empty.applyAll secondQuota).coherent.admits_shaped ?_
  refine admits_secondQuota.imp fun policy listed => ?_
  simp only [List.mem_cons, List.not_mem_nil, or_false] at listed
  rcases listed with rfl | rfl <;> exact sectioned_quotaNamed _ _

/-- The gateway shows what the first resolution has worked out. -/
theorem effective_secondQuota : ∃ policies,
    (secondQuota.foldl Operation.apply .empty).effective.get? (.gateway "n" "g") =
      some policies := by
  have reachable := Reachable.empty.applyAll oneQuota
  obtain ⟨report, after, run, sound⟩ := resolve_of_compatible reachable admits_oneQuota
    (by rintro _ rfl; exact sectioned_quotaNamed _ _)
    (by rintro _ _ rfl rfl; exact ⟨rfl, rfl, fun _ => by decide⟩)
  have h := resolution_of_run reachable.coherent run
  have member : .gateway "n" "g" ∈ after.idsOf .gateway := by
    rw [h.graph.idsOf]
    decide
  have classed : after.target? .gatewayClass (.gateway "n" "g") = some (.gatewayClass "c") :=
    h.graph.target? _ _
  rw [secondQuota, List.foldl_append]
  change ∃ policies, ((Topology.attach (quotaNamed "b" 2)).run ((resolve _ _).run
    _).2).2.effective.get? _ = some policies
  rw [effective_attach, run]
  exact (h.gatewayHeld reachable.coherent member (sound _)).effective_iff.mpr ⟨_, classed⟩

theorem irreconcilable_quotaNamed :
    (quotaNamed "a" 1).Irreconcilable (quotaNamed "b" 2) where
  kind := rfl
  differ := .inr ⟨rfl, rfl, ["limit"], .int 1, .int 2, rfl, rfl, by decide, by decide⟩

/-- The gateway fails in the repeated resolution. -/
theorem secondQuota_fails : ∃ report after,
    (resolve MergerRegistry.specifications.toPolicyMerger .bestEffort).run
        (secondQuota.foldl Operation.apply .empty) = (.ok report, after) ∧
      .gateway "n" "g" ∈ report.failedIds := by
  have coherent := (Reachable.empty.applyAll secondQuota).coherent
  obtain ⟨report, after, run⟩ := resolve_bestEffort_total
    MergerRegistry.specifications_raisesOnlyConflicts coherent shaped_secondQuota
  have h := resolution_of_run coherent run
  have node : .gateway "n" "g" ∈ after.idsOf .gateway := by
    rw [h.graph.idsOf]
    exact gateway_mem_secondQuota
  have classed : (secondQuota.foldl Operation.apply .empty).Classed (.gateway "n" "g") := by
    unfold Classed
    rw [target_secondQuota]
    exact Option.some_ne_none _
  refine ⟨report, after, run, ?_⟩
  rw [(h.judges_gateway shaped_secondQuota node).failed_iff, h.graph.agreesAt,
    not_agreesAt_iff shaped_secondQuota]
  refine ⟨_, .gateway rfl classed, _, _, ?_, irreconcilable_quotaNamed⟩
  rw [groupAtGateway_secondQuota]

theorem resolve_leaves_failed_nodes_secondQuota : ∃ report after,
    (resolve MergerRegistry.specifications.toPolicyMerger .bestEffort).run
        (secondQuota.foldl Operation.apply .empty) = (.ok report, after) ∧
      Rerun MergerRegistry.specifications.toPolicyMerger .bestEffort
        (secondQuota.foldl Operation.apply .empty) after report := by
  obtain ⟨report, after, run, -⟩ := secondQuota_fails
  exact ⟨report, after, run, resolve_leaves_failed_nodes secondQuota _ _ run⟩

/-- After the repeated resolution the gateway has failed and still shows what the first resolution
has worked out. -/
theorem secondQuota_stale : ∃ report after policies,
    (resolve MergerRegistry.specifications.toPolicyMerger .bestEffort).run
        (secondQuota.foldl Operation.apply .empty) = (.ok report, after) ∧
      .gateway "n" "g" ∈ report.failedIds ∧
      after.effective.get? (.gateway "n" "g") = some policies := by
  obtain ⟨report, after, run, failed⟩ := secondQuota_fails
  obtain ⟨policies, shown⟩ := effective_secondQuota
  have coherent := (Reachable.empty.applyAll secondQuota).coherent
  have same := (resolution_of_run coherent run).effectiveOf_of_failed failed
  rw [effectiveOf_gateway rfl, effectiveOf_gateway rfl] at same
  refine ⟨report, after, policies, run, failed, ?_⟩
  rw [Option.map_injective (fun _ _ => Sum.inl.inj) same, shown]

end Topology

end PolicyTopology
