import PolicyTopology.Proofs.Topology.FailureClosure

/-!
# Resolving again

One resolution is enough. The passes go from gateways over routes to backends, and each stores what
later ones read, so at the end the work on every node, repeated with all failures known, comes to
what is stored for the node or to its failure in the report. A second resolution therefore writes
only what is held already: apart from its events it leaves the topology as it is, and its report is
the same.
-/

namespace PolicyTopology

namespace Pass

variable {α : Type} {pass : Pass α} {reads : NodeKind} {held : Topology → ResourceId → Option α}
  {mode : ResolutionMode} {base topology : Topology} {progress : Progress} {id : ResourceId}
  {failed : List ResourceId} {start : ResourceId → Option α} {tally : Tally}

/-- Storing what is held already changes nothing. -/
def KeepsHeld (pass : Pass α) (held : Topology → ResourceId → Option α) : Prop :=
  ∀ {topology id policies}, held topology id = some policies →
    pass.store topology id policies = topology

theorem gateways_keepsHeld (merger : PolicyMerger) : (gateways merger).KeepsHeld heldEffective := by
  intro topology id policies stored
  change { topology with effective := topology.effective.set id policies } = topology
  rw [Table.set_of_get? stored]

theorem storePartitions_of_held {partitions : Partitions}
    (stored : heldPartitions topology id = some partitions) :
    storePartitions topology id partitions = topology := by
  rw [storePartitions, Table.set_of_get? stored]

theorem routes_keepsHeld (merger : PolicyMerger) : (routes merger).KeepsHeld heldPartitions :=
  storePartitions_of_held

theorem backends_keepsHeld (merger : PolicyMerger) : (backends merger).KeepsHeld heldPartitions :=
  storePartitions_of_held

/-- A visit that comes to what is held already only enters events. -/
theorem run_visit_again (law : pass.Lawful reads held) (idle : pass.KeepsHeld held)
    (passes : (pass.outcome topology progress.failedIds id).Passes mode)
    (stored : ∀ policies, pass.outcome topology progress.failedIds id = .ok (some policies) →
      held topology id = some policies) :
    ∃ events, (pass.visit mode progress id).run topology =
      (.ok (progress.enter id (pass.outcome topology progress.failedIds id)),
        topology.record events) := by
  obtain ⟨result, after, run, ends⟩ := visit_ends pass mode progress id topology
  rw [run]
  generalize pass.outcome topology progress.failedIds id = outcome at passes stored ends ⊢
  cases ends with
  | skipped => exact ⟨_, rfl⟩
  | resolved policies =>
      refine ⟨_, congrArg (Prod.mk _) (idle ?_)⟩
      rw [law.held_record]
      exact stored policies rfl
  | awaits failed => exact ⟨_, congrArg (Prod.mk _) (Topology.record_record ..)⟩
  | conflicted conflict goesOn => exact ⟨_, congrArg (Prod.mk _) (Topology.record_record ..)⟩
  | stopped conflict stops =>
      cases stops
      cases passes
  | faulted fault => cases passes

/-- Visits that come to what is held already only enter events. -/
theorem run_visits_again (law : pass.Lawful reads held) (idle : pass.KeepsHeld held)
    (coherent : base.Coherent) {ids : List ResourceId}
    (ofKind : ∀ id ∈ ids, id.nodeKind = pass.kind)
    (settled : Settled mode ids (pass.outcome base failed) start (held base) tally)
    (agree : base.AgreeOn reads failed topology progress.failedIds)
    (same : held topology = held base) :
    ∃ events, (ids.foldlM (pass.visit mode) progress).run topology =
      (.ok (ids.foldl (fun progress id => progress.enter id (pass.outcome base failed id))
        progress), topology.record events) := by
  -- Only what each visit needs is kept of the hypothesis on all of them.
  have passes := settled.passes
  have stored : ∀ id ∈ ids, ∀ policies, pass.outcome base failed id = .ok (some policies) →
      held base id = some policies := by
    intro id member policies found
    rw [settled.held id member, found]
    rfl
  clear settled
  induction ids generalizing topology progress with
  | nil => exact ⟨[], by rw [Topology.record, List.append_nil]; rfl⟩
  | cons id rest ih =>
      have outcome : pass.outcome topology progress.failedIds id = pass.outcome base failed id :=
        law.compute_congr coherent agree
      have passes' : (pass.outcome topology progress.failedIds id).Passes mode :=
        outcome ▸ passes id List.mem_cons_self
      obtain ⟨events, visit⟩ := run_visit_again law idle passes'
        (outcome ▸ same ▸ stored id List.mem_cons_self)
      rw [outcome] at visit
      have agree' : base.AgreeOn reads failed (topology.record events)
          (progress.enter id (pass.outcome base failed id)).failedIds := by
        rw [Progress.failedIds_enter]
        refine agree.trans (.of_storedAt (.record ..) law.reads_ne fun other member => ?_)
        rw [Option.mem_toList, Option.map_eq_some_iff] at member
        obtain ⟨_, _, rfl⟩ := member
        exact ofKind _ List.mem_cons_self
      obtain ⟨more, run⟩ := ih (fun other member => ofKind other (List.mem_cons_of_mem _ member))
        agree' ((law.held_record ..).trans same)
        (fun other member => passes other (List.mem_cons_of_mem _ member))
        (fun other member => stored other (List.mem_cons_of_mem _ member))
      refine ⟨events ++ more, ?_⟩
      rw [List.foldlM_cons, Assembly.run_bind, visit, ← Topology.record_record]
      exact run

/-- A pass over nodes that hold what the work on them comes to only enters events. -/
theorem run_again (law : pass.Lawful reads held) (idle : pass.KeepsHeld held)
    (coherent : base.Coherent)
    (settled : Settled mode (sortedIds (base.idsOf pass.kind)) (pass.outcome base failed) start
      (held base) tally)
    {failures : List NodeFailure}
    (agree : base.AgreeOn reads failed topology (failures.map (·.node)))
    (same : held topology = held base) :
    ∃ events, (pass.run mode failures).run topology =
      (.ok ⟨tally, failures ++
          failuresAmong (sortedIds (base.idsOf pass.kind)) (pass.outcome base failed)⟩,
        topology.record events) := by
  have agree' : base.AgreeOn reads failed topology (Progress.failedIds ⟨⟨0, 0⟩, failures⟩) := agree
  obtain ⟨events, visits⟩ := run_visits_again law idle coherent
    (fun _ => nodeKind_of_mem_visited) settled agree' same
  rw [Progress.foldl_enter settled.passes, ← settled.resolved, ← settled.skipped, Nat.zero_add,
    Nat.zero_add] at visits
  refine ⟨events ++ [.passCompleted pass.kind tally.resolved tally.skipped], ?_⟩
  unfold run
  rw [Assembly.run_bind, Assembly.run_get]
  dsimp only
  rw [Assembly.run_bind, agree.toSameGraph.idsOf, visits, ← Topology.record_record]
  rfl

end Pass

namespace Resolution

variable {merger : PolicyMerger} {mode : ResolutionMode} {before after : Topology}
  {report : ResolutionReport} {id : ResourceId} {kind : NodeKind}

/-- Of the nodes of a kind those have failed that did before the passes over other kinds. -/
theorem mem_failed_iff {first rest : List NodeFailure} (split : report.failures = first ++ rest)
    (other : ∀ failure ∈ rest, failure.node.nodeKind ≠ kind) (ofKind : id.nodeKind = kind) :
    id ∈ first.map (·.node) ↔ id ∈ report.failedIds := by
  rw [ResolutionReport.failedIds, split, List.map_append, List.mem_append]
  refine (or_iff_left fun member => ?_).symm
  obtain ⟨failure, later, rfl⟩ := List.mem_map.mp member
  exact other failure later ofKind

/-- To nodes of a kind the failures of later passes over other kinds make no difference. -/
theorem agreeOn_of_split (kind : NodeKind) (topology : Topology) {first rest : List NodeFailure}
    (split : report.failures = first ++ rest)
    (other : ∀ failure ∈ rest, failure.node.nodeKind ≠ kind) :
    topology.AgreeOn kind report.failedIds topology (first.map (·.node)) where
  toSameGraph := .refl topology
  effective _ := rfl
  partitions _ := rfl
  failed ofKind := mem_failed_iff split other ofKind

theorem nodeKind_of_mem_failuresAmong {α : Type} {topology : Topology}
    {outcome : ResourceId → Outcome α} {failure : NodeFailure}
    (member : failure ∈ failuresAmong (sortedIds (topology.idsOf kind)) outcome) :
    failure.node.nodeKind = kind :=
  Topology.nodeKind_of_mem_idsOf (mem_sortedIds.mp (mem_failuresAmong.mp member).1)

/-- A resolution of a topology that has just been resolved only enters events. -/
theorem run_again (h : Resolution merger mode before after report) :
    ∃ events, (Topology.resolve merger mode).run after = (.ok report, after.record events) := by
  have split := h.failures
  have read : after.AgreeOn .gatewayClass report.failedIds after
      (([] : List NodeFailure).map (·.node)) := by
    refine agreeOn_of_split _ after (split.trans (List.nil_append _).symm)
      fun failure member => ?_
    rw [List.mem_append, List.mem_append] at member
    rcases member with (member | member) | member <;>
      rw [nodeKind_of_mem_failuresAmong member] <;> decide
  obtain ⟨events, ran⟩ := Pass.run_again (Pass.gateways_lawful merger)
    (Pass.gateways_keepsHeld merger) h.coherent h.gateways read rfl
  have read' := agreeOn_of_split .gateway after (split.trans (List.append_assoc ..)) (by
    intro failure member
    rw [List.mem_append] at member
    rcases member with member | member <;>
      rw [nodeKind_of_mem_failuresAmong member] <;> decide)
  obtain ⟨events', ran'⟩ := Pass.run_again (Pass.routes_lawful merger)
    (Pass.routes_keepsHeld merger) h.coherent h.routes (read'.trans (.record _ _ events)) rfl
  have read'' := agreeOn_of_split .httpRoute after split (by
    intro failure member
    rw [nodeKind_of_mem_failuresAmong member]
    decide)
  obtain ⟨events'', ran''⟩ := Pass.run_again (Pass.backends_lawful merger)
    (Pass.backends_keepsHeld merger) h.coherent h.backends
    (read''.trans (.record _ _ (events ++ events'))) rfl
  rw [← Topology.record_record] at ran''
  refine ⟨events ++ events' ++ events'', ?_⟩
  rw [← Topology.record_record, ← Topology.record_record]
  exact Topology.run_resolve_iff.mpr ⟨_, _, _, _, _, ran, ran', ran'',
    congrArg (ResolutionReport.mk report.gateways report.routes report.backends) split⟩

end Resolution

namespace Topology

variable {merger : PolicyMerger} {admitted : Policy → Prop} {before after : Topology}

/-- Two topologies that differ at most in what is resolved. -/
structure SameButResolved (before after : Topology) : Prop extends SameGraph before after where
  inherited : after.inherited = before.inherited
  diagnostics : after.diagnostics = before.diagnostics

/-- No resolution touches anything but what is resolved, whether or not it comes to an end. -/
theorem resolve_sameButResolved (merger : PolicyMerger) (mode : ResolutionMode)
    (topology : Topology) :
    SameButResolved topology ((resolve merger mode).run topology).2 := by
  have survives : SurvivesResolution (SameButResolved topology) :=
    { record := fun _ same => ⟨same.toSameGraph.trans ⟨rfl, rfl, rfl, rfl, rfl⟩, same.inherited,
        same.diagnostics⟩
      effective := fun _ same => ⟨same.toSameGraph.trans ⟨rfl, rfl, rfl, rfl, rfl⟩, same.inherited,
        same.diagnostics⟩
      partitions := fun _ same => ⟨same.toSameGraph.trans ⟨rfl, rfl, rfl, rfl, rfl⟩,
        same.inherited, same.diagnostics⟩ }
  exact survives.resolve merger mode topology ⟨.refl topology, rfl, rfl⟩

end Topology

/-- How a topology stands after a best-effort resolution: the work on any one node, repeated there,
comes to what the resolution has left for the node. -/
structure Fixpoint (merger : PolicyMerger) (before after : Topology) (report : ResolutionReport) :
    Prop where
  gateway_stored : ∀ id ∈ after.idsOf .gateway, id ∉ report.failedIds →
    (after.gatewayPolicies merger id).result = .ok (after.effective.get? id)
  gateway_skipped : ∀ id ∈ after.idsOf .gateway, after.target? .gatewayClass id = none →
    (after.gatewayPolicies merger id).result = .ok none ∧ after.effective.get? id = none
  gateway_failed : ∀ id ∈ after.idsOf .gateway, ∀ failure, ⟨id, failure⟩ ∈ report.failures ↔
    (after.gatewayPolicies merger id).result = .error (.failure failure)
  route_stored : ∀ id ∈ after.idsOf .httpRoute, id ∉ report.failedIds → ∃ partitions,
    (after.routePartitions merger report.failedIds id).result = .ok partitions ∧
      after.partitions.get? id = some partitions
  route_failed : ∀ id ∈ after.idsOf .httpRoute, ∀ failure, ⟨id, failure⟩ ∈ report.failures ↔
    (after.routePartitions merger report.failedIds id).result = .error (.failure failure)
  backend_stored : ∀ id ∈ after.idsOf .backend, id ∉ report.failedIds → ∃ partitions,
    (after.backendPartitions merger report.failedIds id).result = .ok partitions ∧
      after.partitions.get? id = some partitions
  backend_failed : ∀ id ∈ after.idsOf .backend, ∀ failure, ⟨id, failure⟩ ∈ report.failures ↔
    (after.backendPartitions merger report.failedIds id).result = .error (.failure failure)
  failed_once : report.failedIds.Nodup
  /-- A second resolution comes to the same report and only enters events. -/
  again : ∃ events, (Topology.resolve merger .bestEffort).run after =
    (.ok report, after.record events)
  /-- In either mode the resolution has changed nothing but what is resolved. -/
  unchanged : ∀ mode, before.SameButResolved ((Topology.resolve merger mode).run before).2

namespace Topology

variable {merger : PolicyMerger} {admitted : Policy → Prop} {before : Topology}

/-- The outcome of a pass whose nodes never come to nothing. -/
theorem map_some_error_iff {α : Type} {work : NodeWork α} {error : NodeError} :
    (some <$> work).result = .error error ↔ work.result = .error error := by
  rw [Traced.result_map, Except.map_error_iff]

/-- With a merger that raises nothing but conflicts a best-effort resolution comes to an end, and
another one finds nothing to change. -/
theorem resolve_fixpoint (reachable : before.Reachable)
    (law : merger.RaisesOnlyConflicts admitted) (admits : before.Admits admitted) :
    ∃ report after, (resolve merger .bestEffort).run before = (.ok report, after) ∧
      Fixpoint merger before after report := by
  have coherent := reachable.coherent
  obtain ⟨report, after, run⟩ := resolve_bestEffort_total law coherent admits
  have h := resolution_of_run coherent run
  refine ⟨report, after, run, ?_⟩
  exact {
    gateway_stored := fun id member sound => h.gateway_of_sound coherent member sound
    gateway_skipped := fun id member classless =>
      ⟨gatewayPolicies_of_classless classless, Option.not_isSome_iff_eq_none.mp fun stored =>
        h.coherent.effective_classed (Option.isSome_iff_ne_none.mp stored) classless⟩
    gateway_failed := fun id member failure => h.gateway_failure_iff member
    route_stored := fun id member sound => by
      obtain ⟨result, found, held⟩ := h.routes.ok_of_sound (mem_sortedIds.mpr member)
        fun failure failed => sound
          (Resolution.mem_failedIds_iff.mpr ⟨failure, (h.route_failure_iff member).mpr failed⟩)
      obtain ⟨partitions, came, rfl⟩ :=
        Except.map_ok_iff.mp ((Traced.result_map ..).symm.trans found)
      exact ⟨partitions, came, held⟩
    route_failed := fun id member failure =>
      (h.route_failure_iff member).trans map_some_error_iff
    backend_stored := fun id member sound => by
      obtain ⟨result, found, held⟩ := h.backends.ok_of_sound (mem_sortedIds.mpr member)
        fun failure failed => sound
          (Resolution.mem_failedIds_iff.mpr ⟨failure, (h.backend_failure_iff member).mpr failed⟩)
      obtain ⟨partitions, came, rfl⟩ :=
        Except.map_ok_iff.mp ((Traced.result_map ..).symm.trans found)
      exact ⟨partitions, came, held⟩
    backend_failed := fun id member failure =>
      (h.backend_failure_iff member).trans map_some_error_iff
    failed_once := h.failed_nodup
    again := h.run_again
    unchanged := fun mode => resolve_sameButResolved merger mode before }

/-- The sound gateway and its route come to what they hold once more, and the one that contradicts
its class fails for the same conflict. -/
theorem resolve_fixpoint_sharedRoute : ∃ report after,
    (resolve MergerRegistry.specifications.toPolicyMerger .bestEffort).run sharedRoute =
      (.ok report, after) ∧
    Fixpoint MergerRegistry.specifications.toPolicyMerger sharedRoute after report ∧
    ((after.gatewayPolicies MergerRegistry.specifications.toPolicyMerger
        (.gateway "n" "g")).result = .ok (some (onlyQuota classQuota)) ∧
      after.effective.get? (.gateway "n" "g") = some (onlyQuota classQuota)) ∧
    ((after.routePartitions MergerRegistry.specifications.toPolicyMerger report.failedIds
        (.httpRoute "n" "r")).result =
          .ok (Table.empty.set (.gateway "n" "g") (onlyQuota classQuota)) ∧
      after.partitions.get? (.httpRoute "n" "r") =
        some (Table.empty.set (.gateway "n" "g") (onlyQuota classQuota))) ∧
    ⟨.gateway "n" "k", .conflict quotaClash⟩ ∈ report.failures ∧
    (after.gatewayPolicies MergerRegistry.specifications.toPolicyMerger
      (.gateway "n" "k")).result = .error (.failure (.conflict quotaClash)) := by
  have reachable : sharedRoute.Reachable := .applyAll .empty _
  obtain ⟨report, after, run, fixpoint⟩ := resolve_fixpoint reachable
    MergerRegistry.specifications_raisesOnlyConflicts shaped_sharedRoute
  have h := resolution_of_run reachable.coherent run
  have node : ∀ id ∈ sharedRoute.idsOf id.nodeKind, id ∈ after.idsOf id.nodeKind :=
    fun id member => (h.graph.idsOf _).symm ▸ member
  obtain ⟨⟨sound, resolved⟩, _⟩ := gateways_sharedRoute h
  obtain ⟨alive, partitions⟩ := partitions_sharedRoute h
  obtain ⟨rest, failures⟩ := failures_sharedRoute h
  have failed : ⟨.gateway "n" "k", .conflict quotaClash⟩ ∈ report.failures :=
    failures ▸ List.mem_cons_self
  have gateway := fixpoint.gateway_stored _ (node (.gateway "n" "g") (by decide))
    sound
  have again := (fixpoint.gateway_failed _ (node (.gateway "n" "k") (by decide)) _).mp failed
  rw [resolved] at gateway
  obtain ⟨_, route, held⟩ :=
    fixpoint.route_stored _ (node (.httpRoute "n" "r") (by decide)) alive
  cases partitions.symm.trans held
  exact ⟨report, after, run, fixpoint, ⟨gateway, resolved⟩, ⟨route, partitions⟩, failed, again⟩

end Topology

end PolicyTopology
