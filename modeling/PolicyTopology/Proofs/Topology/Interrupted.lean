import PolicyTopology.Proofs.Topology.FailureClosure

/-!
# Resolutions that may be interrupted

A resolution that ends early has nevertheless worked out the nodes that it came to before. What it
worked out for a node stays to the end, however it ends, and is what the work on the node comes to
in the topology at the end. The same holds of everything that was read for it.
-/

namespace PolicyTopology

/-- Where some work ends up, if it is known what it keeps. -/
theorem Assembly.Keeps.of_run {ε α : Type} {work : Assembly ε α} {property : Topology → Prop}
    {before after : Topology} {result : Except ε α} (h : Assembly.Keeps property work)
    (run : work.run before = (result, after)) (holds : property before) : property after := by
  have kept := h before holds
  rwa [run] at kept

/-- However a sequence ends, its first part has ended somewhere, and where the whole ends is related
to that by what the second part keeps. -/
theorem Assembly.exists_run_of_bind {ε α β : Type} {first : Assembly ε α} {next : α → Assembly ε β}
    {before after : Topology} {result : Except ε β} {related : Topology → Topology → Prop}
    (run : (first >>= next).run before = (result, after))
    (refl : ∀ topology, related topology topology)
    (keeps : ∀ middle value, Assembly.Keeps (related middle) (next value)) :
    ∃ outcome middle, first.run before = (outcome, middle) ∧ related middle after := by
  rw [Assembly.run_bind] at run
  cases found : first.run before with
  | mk outcome middle =>
      rw [found] at run
      refine ⟨outcome, middle, rfl, ?_⟩
      cases outcome with
      | error error =>
          cases run
          exact refl after
      | ok value => exact (keeps middle value).of_run run (refl middle)

namespace Pass

variable {α : Type} {pass : Pass α} {reads : NodeKind} {held : Topology → ResourceId → Option α}
  {mode : ResolutionMode} {before middle after : Topology} {start progress final : Progress}
  {failures : List NodeFailure} {earlier later ids : List ResourceId} {id : ResourceId}
  {policies : α} {result : Except ResolutionError Progress}

/-- The part of a pass that is left when these nodes are still to be visited. -/
def visitAll (pass : Pass α) (mode : ResolutionMode) (ids : List ResourceId)
    (progress : Progress) : Assembly ResolutionError Progress := do
  let progress ← ids.foldlM (pass.visit mode) progress
  modify (·.record [.passCompleted pass.kind progress.tally.resolved progress.tally.skipped])
  return progress

theorem run_eq_visitAll (pass : Pass α) (mode : ResolutionMode) (failures : List NodeFailure)
    (before : Topology) : (pass.run mode failures).run before =
      (pass.visitAll mode (sortedIds (before.idsOf pass.kind)) ⟨⟨0, 0⟩, failures⟩).run before := rfl

/-- After some visits the rest of the pass is left. -/
theorem run_visitAll_append
    (visits : (earlier.foldlM (pass.visit mode) start).run before = (.ok progress, middle)) :
    (pass.visitAll mode (earlier ++ later) start).run before =
      (pass.visitAll mode later progress).run middle := by
  unfold visitAll
  rw [Assembly.run_bind, Assembly.run_bind, List.foldlM_append, Assembly.run_bind, visits]

theorem run_visitAll_cons
    (visit : (pass.visit mode start id).run before = (.ok progress, middle)) :
    (pass.visitAll mode (id :: later) start).run before =
      (pass.visitAll mode later progress).run middle := by
  unfold visitAll
  rw [Assembly.run_bind, Assembly.run_bind, List.foldlM_cons, Assembly.run_bind, visit]

/-- A visit that does not go on ends the rest of the pass. -/
theorem run_visitAll_of_error {error : ResolutionError}
    (visit : (pass.visit mode start id).run before = (.error error, middle)) :
    (pass.visitAll mode (id :: later) start).run before = (.error error, middle) := by
  unfold visitAll
  rw [Assembly.run_bind, List.foldlM_cons, Assembly.run_bind, visit]

theorem run_visits_concat {next : Progress}
    (visits : (earlier.foldlM (pass.visit mode) start).run before = (.ok progress, middle))
    (visit : (pass.visit mode progress id).run middle = (.ok next, after)) :
    ((earlier ++ [id]).foldlM (pass.visit mode) start).run before = (.ok next, after) := by
  rw [List.foldlM_append, Assembly.run_bind, visits]
  dsimp only
  rw [List.foldlM_cons, Assembly.run_bind, visit]
  rfl

/-- The rest of a pass keeps what its visits and events keep. -/
theorem keeps_visitAll {property : Topology → Prop}
    (record : ∀ {topology} events, property topology → property (topology.record events))
    (store : ∀ id ∈ ids, ∀ {topology} policies, property topology →
      property (pass.store topology id policies)) :
    Assembly.Keeps property (pass.visitAll mode ids progress) := by
  refine Assembly.Keeps.bind (.foldlM (fun id member _ => ?_) _) fun _ => ?_
  · exact keeps_visit_of record (store id member) mode _
  · exact (Assembly.Keeps.modify fun _ kept => record _ kept).bind fun _ => .pure _

/-- At most the nodes of a pass have changed, however the pass ends. -/
theorem storedAt_run (law : pass.Lawful reads held) (mode : ResolutionMode)
    (failures : List NodeFailure) (before : Topology) :
    before.StoredAt pass.kind ((pass.run mode failures).run before).2 := by
  rw [run_eq_visitAll]
  have kept : Assembly.Keeps (before.StoredAt pass.kind)
      (pass.visitAll mode (sortedIds (before.idsOf pass.kind)) ⟨⟨0, 0⟩, failures⟩) :=
    keeps_visitAll (fun events stored => stored.trans (.record ..))
      fun id member _ policies stored =>
        stored.trans (law.storedAt _ policies (nodeKind_of_mem_visited member))
  exact kept before (.refl before)

/-- To nodes of another kind a pass makes no difference, however it ends. -/
theorem keeps_agreeOn (law : pass.Lawful reads held) {kind : NodeKind} (other : kind ≠ pass.kind)
    (start : Topology) (mode : ResolutionMode) (failures : List NodeFailure) :
    Assembly.Keeps (fun topology => start.AgreeOn kind [] topology []) (pass.run mode failures) :=
  fun topology agree => agree.trans
    (.of_storedAt (storedAt_run law mode failures topology) other fun _ => nofun)

/-- A pass works out policies for a node: it comes to the node, and the work there comes to them. -/
def WorksOut (pass : Pass α) (mode : ResolutionMode) (failures : List NodeFailure)
    (before : Topology) (id : ResourceId) (policies : α) : Prop :=
  ∃ earlier later progress middle, sortedIds (before.idsOf pass.kind) = earlier ++ id :: later ∧
    (earlier.foldlM (pass.visit mode) ⟨⟨0, 0⟩, failures⟩).run before = (.ok progress, middle) ∧
    pass.outcome middle progress.failedIds id = .ok (some policies)

/-- A pass that comes to an end has worked out the nodes for which the work comes to policies. -/
theorem worksOut_of_run (law : pass.Lawful reads held) (coherent : before.Coherent)
    (run : (pass.run mode failures).run before = (.ok final, after))
    (member : id ∈ before.idsOf pass.kind)
    (found : pass.outcome before (failures.map (·.node)) id = .ok (some policies)) :
    pass.WorksOut mode failures before id policies := by
  have visited := visited_of_run law coherent run
  obtain ⟨earlier, later, split⟩ := List.append_of_mem (mem_sortedIds.mpr member)
  have listed : ∀ other ∈ earlier, other ∈ sortedIds (before.idsOf pass.kind) :=
    fun other among => split ▸ List.mem_append_left _ among
  have ofKind : ∀ other ∈ earlier, other.nodeKind = pass.kind :=
    fun other among => nodeKind_of_mem_visited (listed other among)
  obtain ⟨progress, middle, visits, reached⟩ := run_visits law ⟨⟨0, 0⟩, failures⟩ ofKind coherent
    fun other among => visited.passes other (listed other among)
  refine ⟨earlier, later, progress, middle, split, visits, ?_⟩
  rw [← found]
  exact law.compute_congr coherent (reached.agreeOn ofKind law.reads_ne)

/-- In a pass that comes to an end a node is worked out, has nothing to work out, or fails. -/
theorem worksOut_or_failed (law : pass.Lawful reads held) (coherent : before.Coherent)
    (run : (pass.run mode failures).run before = (.ok final, after))
    (member : id ∈ before.idsOf pass.kind) :
    (∃ policies, pass.WorksOut mode failures before id policies) ∨
      pass.outcome before (failures.map (·.node)) id = .ok none ∨ id ∈ final.failedIds := by
  have visited := visited_of_run law coherent run
  have passes := visited.passes id (mem_sortedIds.mpr member)
  change Outcome.Passes mode (pass.outcome before (failures.map (·.node)) id) at passes
  cases found : pass.outcome before (failures.map (·.node)) id with
  | ok result =>
      cases result with
      | none => exact .inr (.inl rfl)
      | some policies => exact .inl ⟨policies, worksOut_of_run law coherent run member found⟩
  | error error =>
      cases error with
      | failure failure =>
          exact .inr (.inr (visited.mem_failedIds (mem_sortedIds.mpr member) found))
      | fault fault =>
          rw [found] at passes
          exact passes.elim

/-- What a node has after a visit was worked out by the visit or was there before. -/
theorem worksOut_or_held_of_visit {here : Topology} {next : ResourceId}
    (split : sortedIds (before.idsOf pass.kind) = earlier ++ next :: later)
    (visits : (earlier.foldlM (pass.visit mode) ⟨⟨0, 0⟩, failures⟩).run before =
      (.ok progress, middle))
    (stored : held here id = if next = id
      then (pass.outcome middle progress.failedIds next).stored?.or (held middle next)
      else held middle id)
    (found : held here id = some policies) :
    pass.WorksOut mode failures before id policies ∨ held middle id = some policies := by
  rw [stored] at found
  split at found
  · next same =>
    subst same
    cases work : pass.outcome middle progress.failedIds next with
    | error error =>
        rw [work] at found
        exact .inr found
    | ok result =>
        rw [work] at found
        cases result with
        | none => exact .inr found
        | some value =>
            cases found
            exact .inl ⟨earlier, later, progress, middle, split, visits, work⟩
  · exact .inr found

/-- What a node has once the rest of a pass is done, however that ends, was worked out by the pass
or was there when the rest began. -/
theorem worksOut_or_held_before (law : pass.Lawful reads held) (coherent : middle.Coherent)
    (split : sortedIds (before.idsOf pass.kind) = earlier ++ later)
    (visits : (earlier.foldlM (pass.visit mode) ⟨⟨0, 0⟩, failures⟩).run before =
      (.ok progress, middle))
    (run : (pass.visitAll mode later progress).run middle = (result, after))
    (found : held after id = some policies) :
    pass.WorksOut mode failures before id policies ∨ held middle id = some policies := by
  induction later generalizing earlier progress middle with
  | nil =>
      cases run
      rw [law.held_record] at found
      exact .inr found
  | cons next rest ih =>
      have listed : next ∈ sortedIds (before.idsOf pass.kind) :=
        split ▸ List.mem_append_right _ List.mem_cons_self
      by_cases passes : (pass.outcome middle progress.failedIds next).Passes mode
      · obtain ⟨here, visit, coherent', _, stored⟩ :=
          run_visit law coherent (nodeKind_of_mem_visited listed) passes
        rw [run_visitAll_cons visit] at run
        have split' : sortedIds (before.idsOf pass.kind) = earlier ++ [next] ++ rest := by
          rw [split, List.append_assoc]
          rfl
        rcases ih coherent' split' (run_visits_concat visits visit) run with works | kept
        · exact .inl works
        · exact worksOut_or_held_of_visit split visits (stored id) kept
      · obtain ⟨error, events, visit⟩ := run_visit_of_not_passes passes
        rw [run_visitAll_of_error visit] at run
        cases run
        rw [law.held_record] at found
        exact .inr found

/-- What a node has after a pass, however that ends, was worked out by the pass or was there
before. -/
theorem worksOut_or_held (law : pass.Lawful reads held) (coherent : before.Coherent)
    (run : (pass.run mode failures).run before = (result, after))
    (found : held after id = some policies) :
    pass.WorksOut mode failures before id policies ∨ held before id = some policies :=
  worksOut_or_held_before law coherent (List.nil_append _).symm rfl
    ((run_eq_visitAll ..).symm.trans run) found

namespace WorksOut

variable (h : pass.WorksOut mode failures before id policies)

include h

theorem member : id ∈ before.idsOf pass.kind := by
  obtain ⟨earlier, later, _, _, split, _⟩ := h
  rw [← mem_sortedIds, split]
  exact List.mem_append_right _ List.mem_cons_self

variable (law : pass.Lawful reads held) (coherent : before.Coherent)

include law coherent

/-- The visits before a node make no difference to it. -/
theorem outcome : pass.outcome before (failures.map (·.node)) id = .ok (some policies) := by
  obtain ⟨earlier, later, progress, middle, split, visits, found⟩ := h
  have ofKind : ∀ other ∈ earlier, other.nodeKind = pass.kind := fun other member =>
    nodeKind_of_mem_visited (split ▸ List.mem_append_left _ member)
  obtain ⟨_, _, visits', visited⟩ := run_visits law ⟨⟨0, 0⟩, failures⟩ ofKind coherent
    (passes_of_run_visits law ofKind coherent visits)
  cases visits.symm.trans visits'
  rw [← found]
  exact (law.compute_congr coherent (visited.agreeOn ofKind law.reads_ne)).symm

/-- What was worked out for a node is held at the end, however the pass ends. -/
theorem held_eq (run : (pass.run mode failures).run before = (result, after)) :
    held after id = some policies := by
  have nodup := (sortedIds_perm _).nodup_iff.mpr (before.nodup_idsOf pass.kind)
  have ofKind : id.nodeKind = pass.kind := Topology.nodeKind_of_mem_idsOf h.member
  obtain ⟨earlier, later, progress, middle, split, visits, found⟩ := h
  have kept : Assembly.Keeps Topology.Coherent
      (earlier.foldlM (pass.visit mode) ⟨⟨0, 0⟩, failures⟩) :=
    .foldlM (fun other member _ =>
      keeps_visit law (nodeKind_of_mem_visited (split ▸ List.mem_append_left _ member))) _
  have coherent' : middle.Coherent := by
    have coherent' := kept before coherent
    rwa [visits] at coherent'
  obtain ⟨here, visit, _, _, stored⟩ := run_visit law coherent' ofKind (by rw [found]; trivial)
  have stored := stored id
  rw [if_pos rfl, found] at stored
  rw [run_eq_visitAll, split, run_visitAll_append visits, run_visitAll_cons visit] at run
  -- None of the visits that are left is to this node.
  have absent : id ∉ later := by
    rw [split, List.nodup_append] at nodup
    exact (List.nodup_cons.mp nodup.2.1).1
  have record : ∀ {topology : Topology} events, held topology id = some policies →
      held (topology.record events) id = some policies := by
    intro topology events kept
    rwa [law.held_record]
  have store : ∀ other ∈ later, ∀ {topology : Topology} policies',
      held topology id = some policies →
        held (pass.store topology other policies') id = some policies := by
    intro other member topology policies' kept
    rwa [law.held_store, if_neg fun same : other = id => absent (same ▸ member)]
  have rest : ∀ progress, Assembly.Keeps (fun topology => held topology id = some policies)
      (pass.visitAll mode later progress) := fun _ => keeps_visitAll record store
  have stays := rest (progress.enter id (pass.outcome middle progress.failedIds id)) here stored
  rwa [run] at stays

end WorksOut

end Pass

namespace Topology

variable {merger : PolicyMerger} {mode : ResolutionMode} {before first second after : Topology}
  {gateways routes : Progress} {id gateway route backend : ResourceId} {policies : PoliciesByKind}
  {partitions : Partitions} {result : Except ResolutionError ResolutionReport}

/-- A resolution works out effective policies for a gateway, however it ends. -/
def ResolvesGateway (merger : PolicyMerger) (mode : ResolutionMode) (before : Topology)
    (gateway : ResourceId) (policies : PoliciesByKind) : Prop :=
  (Pass.gateways merger).WorksOut mode [] before gateway policies

/-- A resolution works out parts for a route, however it ends. -/
def ResolvesRoute (merger : PolicyMerger) (mode : ResolutionMode) (before : Topology)
    (route : ResourceId) (partitions : Partitions) : Prop :=
  ∃ gateways first, ((Pass.gateways merger).run mode []).run before = (.ok gateways, first) ∧
    (Pass.routes merger).WorksOut mode gateways.failures first route partitions

/-- A resolution works out parts for a backend, however it ends. -/
def ResolvesBackend (merger : PolicyMerger) (mode : ResolutionMode) (before : Topology)
    (backend : ResourceId) (partitions : Partitions) : Prop :=
  ∃ gateways first routes second,
    ((Pass.gateways merger).run mode []).run before = (.ok gateways, first) ∧
    ((Pass.routes merger).run mode gateways.failures).run first = (.ok routes, second) ∧
    (Pass.backends merger).WorksOut mode routes.failures second backend partitions

/-- Where the policies come from that nodes hold after a resolution. -/
structure HeldFrom (merger : PolicyMerger) (mode : ResolutionMode) (before after : Topology) :
    Prop where
  effective_origin : ∀ {gateway policies}, after.effective.get? gateway = some policies →
    ResolvesGateway merger mode before gateway policies ∨
      before.effective.get? gateway = some policies
  partitions_origin : ∀ {node partitions}, after.partitions.get? node = some partitions →
    ResolvesRoute merger mode before node partitions ∨
      ResolvesBackend merger mode before node partitions ∨
      before.partitions.get? node = some partitions

/-- No node holds policies. -/
structure HoldsNothing (topology : Topology) : Prop where
  effective : ∀ gateway, topology.effective.get? gateway = none
  partitions : ∀ node, topology.partitions.get? node = none

/-- What is left of a resolution after the gateways. -/
def resolveRoutes (merger : PolicyMerger) (mode : ResolutionMode) (gateways : Progress) :
    Assembly ResolutionError ResolutionReport := do
  let routes ← (Pass.routes merger).run mode gateways.failures
  let backends ← (Pass.backends merger).run mode routes.failures
  return ⟨gateways.tally, routes.tally, backends.tally, backends.failures⟩

theorem resolve_eq (merger : PolicyMerger) (mode : ResolutionMode) :
    resolve merger mode = (Pass.gateways merger).run mode [] >>= resolveRoutes merger mode := rfl

theorem keeps_backends {kind : NodeKind} (other : kind ≠ .backend) (start : Topology)
    (gateways routes : Progress) :
    Assembly.Keeps (fun topology => start.AgreeOn kind [] topology []) (do
      let backends ← (Pass.backends merger).run mode routes.failures
      return (⟨gateways.tally, routes.tally, backends.tally, backends.failures⟩ :
        ResolutionReport) : Assembly ResolutionError ResolutionReport) :=
  (Pass.keeps_agreeOn (Pass.backends_lawful merger) other start mode _).bind fun _ => .pure _

theorem keeps_resolveRoutes {kind : NodeKind} (other : kind ≠ .httpRoute) (other' : kind ≠ .backend)
    (start : Topology) (gateways : Progress) :
    Assembly.Keeps (fun topology => start.AgreeOn kind [] topology [])
      (resolveRoutes merger mode gateways) :=
  (Pass.keeps_agreeOn (Pass.routes_lawful merger) other start mode _).bind fun routes =>
    keeps_backends other' start gateways routes

/-- A resolution leaves the graph and the policies as they are, however it ends. -/
theorem sameGraph_resolve (merger : PolicyMerger) (mode : ResolutionMode) (before : Topology) :
    before.SameGraph ((resolve merger mode).run before).2 := by
  have survives : SurvivesResolution before.SameGraph := {
    record := fun events same => same.trans ⟨rfl, rfl, rfl, rfl, rfl⟩
    effective := fun effective same => same.trans ⟨rfl, rfl, rfl, rfl, rfl⟩
    partitions := fun partitions same => same.trans ⟨rfl, rfl, rfl, rfl, rfl⟩ }
  exact survives.resolve merger mode before (.refl before)

/-- The pass over the gateways stores no parts. -/
theorem partitions_of_run_gateways {outcome : Except ResolutionError Progress}
    (ran : ((Pass.gateways merger).run mode []).run before = (outcome, first)) :
    first.partitions = before.partitions := by
  have keeps : Assembly.Keeps (fun topology => topology.partitions = before.partitions)
      ((Pass.gateways merger).run mode []) :=
    Pass.keeps_run_of (fun _ same => same) (fun _ _ same => same) mode []
  exact keeps.of_run ran rfl

/-- What a node has after the pass over the routes was worked out there or was there before. -/
theorem resolvesRoute_or_held {outcome : Except ResolutionError Progress}
    (coherent : before.Coherent)
    (ran : ((Pass.gateways merger).run mode []).run before = (.ok gateways, first))
    (ran' : ((Pass.routes merger).run mode gateways.failures).run first = (outcome, second))
    (stored : second.partitions.get? id = some partitions) :
    ResolvesRoute merger mode before id partitions ∨
      before.partitions.get? id = some partitions := by
  have coherent' : first.Coherent :=
    (Pass.keeps_run (Pass.gateways_lawful merger) _).of_run ran coherent
  rw [← partitions_of_run_gateways ran]
  refine (Pass.worksOut_or_held (Pass.routes_lawful merger) coherent' ran' stored).imp_left ?_
  exact fun works => ⟨gateways, first, ran, works⟩

section Ended

variable (coherent : before.Coherent) (run : (resolve merger mode).run before = (result, after))

include coherent run

/-- What was worked out for a gateway is held at the end of the resolution. -/
theorem ResolvesGateway.gatewayHeld (h : ResolvesGateway merger mode before gateway policies) :
    after.effective.get? gateway = some policies ∧ GatewayHeld merger after gateway := by
  rw [resolve_eq] at run
  obtain ⟨_, first, ran, agree⟩ := Assembly.exists_run_of_bind run (AgreeOn.refl .gateway)
    fun first => keeps_resolveRoutes (by decide) (by decide) first
  have law := Pass.gateways_lawful merger
  have ofKind : gateway.nodeKind = .gateway := nodeKind_of_mem_idsOf h.member
  have held : first.effective.get? gateway = some policies := h.held_eq law coherent ran
  have graph : before.SameGraph first := by
    have stored := (Pass.storedAt_run law mode [] before).toSameGraph
    rwa [ran] at stored
  have found : (before.gatewayPolicies merger gateway).result = .ok (some policies) :=
    h.outcome law coherent
  have atFirst : GatewayHeld merger first gateway := by
    unfold GatewayHeld
    rw [gatewayPolicies_congr merger graph, held]
    exact found
  exact ⟨(agree.effective ofKind).trans held, atFirst.congr agree ofKind⟩

/-- What was worked out for a route is held at the end of the resolution. -/
theorem ResolvesRoute.routeHeld (h : ResolvesRoute merger mode before route partitions) :
    RouteHeld merger after route partitions := by
  obtain ⟨gateways, first, ran, works⟩ := h
  have law := Pass.routes_lawful merger
  have coherent' := (Pass.visited_of_run (Pass.gateways_lawful merger) coherent ran).coherent
  rw [resolve_eq, Assembly.run_bind, ran] at run
  obtain ⟨_, middle, ran', agree⟩ := Assembly.exists_run_of_bind run (AgreeOn.refl .httpRoute)
    fun middle routes => keeps_backends (by decide) middle gateways routes
  have agree' : first.AgreeOn .gateway [] after [] :=
    (keeps_resolveRoutes (by decide) (by decide) first gateways).of_run run (.refl _ first)
  have ofKind : route.nodeKind = .httpRoute := nodeKind_of_mem_idsOf works.member
  have found := works.outcome law coherent'
  rw [outcome_routes] at found
  obtain ⟨sound, _, found, same⟩ := awaiting_ok_iff.mp found
  cases same
  refine ⟨?_, (agree.partitions ofKind).trans (works.held_eq law coherent' ran'), ?_⟩
  · rwa [routePartitions_congr merger coherent' agree']
  · intro gateway member
    rw [agree'.targets] at member
    have node := coherent'.gateway_of_target member
    exact (gatewayHeld_of_run ran coherent node (sound gateway member)).congr agree'
      (nodeKind_of_mem_idsOf node)

/-- What was worked out for a backend is held at the end of the resolution. -/
theorem ResolvesBackend.backendHeld (h : ResolvesBackend merger mode before backend partitions) :
    BackendHeld merger after backend partitions := by
  obtain ⟨gateways, first, routes, second, ran, ran', works⟩ := h
  have law := Pass.backends_lawful merger
  have coherent' := (Pass.visited_of_run (Pass.gateways_lawful merger) coherent ran).coherent
  have coherent'' := (Pass.visited_of_run (Pass.routes_lawful merger) coherent' ran').coherent
  rw [resolve_eq, Assembly.run_bind, ran] at run
  dsimp only [resolveRoutes] at run
  rw [Assembly.run_bind, ran'] at run
  obtain ⟨_, third, ran'', rfl⟩ := Assembly.exists_run_of_bind run Eq.refl fun _ _ => .pure _
  have agree : ∀ kind, kind ≠ .backend → second.AgreeOn kind [] third [] := fun kind other =>
    (Pass.keeps_agreeOn law other second mode _).of_run ran'' (.refl _ second)
  have found := works.outcome law coherent''
  rw [outcome_backends] at found
  obtain ⟨sound, _, found, same⟩ := awaiting_ok_iff.mp found
  cases same
  have routesAgree := agree .httpRoute (by decide)
  refine ⟨?_, works.held_eq law coherent'' ran'', ?_⟩
  · rwa [backendPartitions_congr merger coherent'' routesAgree]
  · intro route member
    rw [routesAgree.sources] at member
    have node := coherent''.route_of_source member
    obtain ⟨partitions, held⟩ := exists_routeHeld ran ran' coherent node (sound route member)
    exact ⟨partitions, held.congr coherent'' (agree .gateway (by decide))
      (routesAgree.partitions (nodeKind_of_mem_idsOf node))⟩

/-- What a gateway has at the end of a resolution was worked out by it or was there before. -/
theorem resolvesGateway_or_held (stored : after.effective.get? gateway = some policies) :
    ResolvesGateway merger mode before gateway policies ∨
      before.effective.get? gateway = some policies := by
  rw [resolve_eq, Assembly.run_bind] at run
  cases ran : ((Pass.gateways merger).run mode []).run before with
  | mk outcome first =>
  rw [ran] at run
  have same : after.effective = first.effective := by
    cases outcome with
    | error error =>
        cases run
        rfl
    | ok gateways =>
        have keeps : Assembly.Keeps (fun topology => topology.effective = first.effective)
            (resolveRoutes merger mode gateways) :=
          (Pass.keeps_run_of (fun _ same => same) (fun _ _ same => same) mode _).bind fun _ =>
            (Pass.keeps_run_of (fun _ same => same) (fun _ _ same => same) mode _).bind fun _ =>
              .pure _
        exact keeps.of_run run rfl
  rw [same] at stored
  exact Pass.worksOut_or_held (Pass.gateways_lawful merger) coherent ran stored

/-- What a route or backend has at the end of a resolution was worked out by it or was there
before. -/
theorem resolvesPartitions_or_held (stored : after.partitions.get? id = some partitions) :
    ResolvesRoute merger mode before id partitions ∨
      ResolvesBackend merger mode before id partitions ∨
      before.partitions.get? id = some partitions := by
  rw [resolve_eq, Assembly.run_bind] at run
  cases ran : ((Pass.gateways merger).run mode []).run before with
  | mk outcome first =>
  rw [ran] at run
  cases outcome with
  | error error =>
      cases run
      rw [partitions_of_run_gateways ran] at stored
      exact .inr (.inr stored)
  | ok gateways =>
  dsimp only [resolveRoutes] at run
  rw [Assembly.run_bind] at run
  cases ran' : ((Pass.routes merger).run mode gateways.failures).run first with
  | mk outcome second =>
  rw [ran'] at run
  cases outcome with
  | error error =>
      cases run
      exact (resolvesRoute_or_held coherent ran ran' stored).imp_right .inr
  | ok routes =>
  have coherent' : first.Coherent :=
    (Pass.keeps_run (Pass.gateways_lawful merger) _).of_run ran coherent
  have coherent'' : second.Coherent :=
    (Pass.keeps_run (Pass.routes_lawful merger) _).of_run ran' coherent'
  obtain ⟨_, third, ran'', rfl⟩ := Assembly.exists_run_of_bind run Eq.refl fun _ _ => .pure _
  rcases Pass.worksOut_or_held (Pass.backends_lawful merger) coherent'' ran'' stored with
    works | held
  · exact .inr (.inl ⟨gateways, first, routes, second, ran, ran', works⟩)
  · exact (resolvesRoute_or_held coherent ran ran' held).imp_right .inr

/-- Everything that nodes hold at the end of a resolution was worked out by it or was there
before. -/
theorem heldFrom_of_run : HeldFrom merger mode before after :=
  ⟨resolvesGateway_or_held coherent run, resolvesPartitions_or_held coherent run⟩

end Ended

namespace HeldFrom

variable (h : HeldFrom merger mode before after) (nothing : before.HoldsNothing)

include h nothing

theorem resolvesGateway (stored : after.effective.get? gateway = some policies) :
    ResolvesGateway merger mode before gateway policies :=
  (h.effective_origin stored).resolve_right fun held =>
    nomatch held.symm.trans (nothing.effective gateway)

theorem resolvesRoute (ofKind : route.nodeKind = .httpRoute)
    (stored : after.partitions.get? route = some partitions) :
    ResolvesRoute merger mode before route partitions := by
  rcases h.partitions_origin stored with resolves | ⟨_, _, _, _, _, _, works⟩ | held
  · exact resolves
  · exact nomatch ofKind.symm.trans (nodeKind_of_mem_idsOf works.member)
  · exact nomatch held.symm.trans (nothing.partitions route)

theorem resolvesBackend (ofKind : backend.nodeKind = .backend)
    (stored : after.partitions.get? backend = some partitions) :
    ResolvesBackend merger mode before backend partitions := by
  rcases h.partitions_origin stored with ⟨_, _, _, works⟩ | resolves | held
  · exact nomatch ofKind.symm.trans (nodeKind_of_mem_idsOf works.member)
  · exact resolves
  · exact nomatch held.symm.trans (nothing.partitions backend)

end HeldFrom

section Completed

variable {report : ResolutionReport} (coherent : before.Coherent)
  (run : (resolve merger mode).run before = (.ok report, after))

include coherent run

/-- A resolution that comes to an end has worked out every backend that has not failed. -/
theorem exists_resolvesBackend (member : backend ∈ before.idsOf .backend)
    (sound : backend ∉ report.failedIds) :
    ∃ partitions, ResolvesBackend merger mode before backend partitions := by
  obtain ⟨gateways, routes, backends, first, second, ran, ran', ran'', rfl⟩ :=
    run_resolve_iff.mp run
  have visited := Pass.visited_of_run (Pass.gateways_lawful merger) coherent ran
  have visited' := Pass.visited_of_run (Pass.routes_lawful merger) visited.coherent ran'
  have node : backend ∈ second.idsOf .backend := by
    rwa [visited'.storedAt.toSameGraph.idsOf, visited.storedAt.toSameGraph.idsOf]
  rcases Pass.worksOut_or_failed (Pass.backends_lawful merger) visited'.coherent ran'' node with
    ⟨partitions, works⟩ | nothing | failed
  · exact ⟨partitions, gateways, first, routes, second, ran, ran', works⟩
  · exact absurd ((outcome_backends ..).symm.trans nothing) awaiting_ne_none
  · exact absurd failed sound

end Completed

end Topology

end PolicyTopology
