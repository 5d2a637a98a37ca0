import PolicyTopology.Proofs.Topology.FailureClosure

/-!
# The two modes of resolution

Until a resolution meets its first conflict, the mode makes no difference. A resolution that stops
at conflicts therefore comes to an end exactly if a best-effort resolution reports no failure, and
both then leave the same topology behind. Otherwise it stops at the node that the best-effort
resolution reports first: what was resolved before that node is the same in both, and nothing has
changed for that node and those after it.
-/

namespace PolicyTopology

namespace Topology

def SameResolved (id : ResourceId) (first second : Topology) : Prop :=
  first.effective.get? id = second.effective.get? id ∧
    first.partitions.get? id = second.partitions.get? id

/-- At most what is resolved for the given nodes has changed. -/
def ResolvedOnly (ids : List ResourceId) (before after : Topology) : Prop :=
  ∀ id ∉ ids, SameResolved id after before

namespace ResolvedOnly

variable {first second third : Topology} {ids more : List ResourceId}

theorem refl (ids : List ResourceId) (topology : Topology) : ResolvedOnly ids topology topology :=
  fun _ _ => ⟨rfl, rfl⟩

theorem trans (h : ResolvedOnly ids first second) (h' : ResolvedOnly more second third) :
    ResolvedOnly (ids ++ more) first third := by
  intro id absent
  have kept := h id fun member => absent (List.mem_append_left _ member)
  have kept' := h' id fun member => absent (List.mem_append_right _ member)
  exact ⟨kept'.1.trans kept.1, kept'.2.trans kept.2⟩

theorem record (h : ResolvedOnly ids first second) (events : List Event) :
    ResolvedOnly ids first (second.record events) := h

end ResolvedOnly

/-- The nodes in the order in which a resolution visits them. -/
def visitOrder (topology : Topology) : List ResourceId :=
  sortedIds (topology.idsOf .gateway) ++ sortedIds (topology.idsOf .httpRoute) ++
    sortedIds (topology.idsOf .backend)

theorem nodup_visitOrder (topology : Topology) : topology.visitOrder.Nodup := by
  have each : ∀ kind, (sortedIds (topology.idsOf kind)).Nodup := fun kind =>
    (sortedIds_perm _).nodup_iff.mpr (topology.nodup_idsOf kind)
  have ofKind : ∀ {kind id}, id ∈ sortedIds (topology.idsOf kind) → id.nodeKind = kind :=
    fun member => nodeKind_of_mem_idsOf (mem_sortedIds.mp member)
  unfold visitOrder
  rw [List.nodup_append, List.nodup_append]
  refine ⟨⟨each _, each _, ?_⟩, each _, ?_⟩
  · rintro id member other member' rfl
    exact absurd ((ofKind member).symm.trans (ofKind member')) (by decide)
  · rintro id member other member' rfl
    rcases List.mem_append.mp member with member | member
    · exact absurd ((ofKind member).symm.trans (ofKind member')) (by decide)
    · exact absurd ((ofKind member).symm.trans (ofKind member')) (by decide)

end Topology

namespace Pass

open PolicyTopology.Topology (ResolvedOnly)

variable {α : Type} {pass : Pass α} {reads : NodeKind} {held : Topology → ResourceId → Option α}
  {mode : ResolutionMode} {before after : Topology} {progress final : Progress} {id : ResourceId}

/-- What a pass stores for a node concerns that node alone. -/
def StoresLocally (pass : Pass α) : Prop :=
  ∀ topology id policies, ResolvedOnly [id] topology (pass.store topology id policies)

theorem gateways_storesLocally (merger : PolicyMerger) : (gateways merger).StoresLocally :=
  fun _ _ _ _ absent =>
    ⟨Table.get?_set_ne _ _ fun same => absent (List.mem_singleton.mpr same.symm), rfl⟩

theorem storePartitions_resolvedOnly (topology : Topology) (id : ResourceId)
    (partitions : Partitions) :
    ResolvedOnly [id] topology (storePartitions topology id partitions) :=
  fun _ absent =>
    ⟨rfl, Table.get?_set_ne _ _ fun same => absent (List.mem_singleton.mpr same.symm)⟩

theorem routes_storesLocally (merger : PolicyMerger) : (routes merger).StoresLocally :=
  storePartitions_resolvedOnly

theorem backends_storesLocally (merger : PolicyMerger) : (backends merger).StoresLocally :=
  storePartitions_resolvedOnly

/-- A visit concerns the visited node alone, however it ends. -/
theorem visit_resolvedOnly (law : pass.StoresLocally) (mode : ResolutionMode) (progress : Progress)
    (id : ResourceId) (topology : Topology) :
    ResolvedOnly [id] topology ((pass.visit mode progress id).run topology).2 := by
  refine keeps_visit_of (fun events kept => kept.record events) (fun {state} policies kept => ?_)
    mode progress topology (.refl [id] topology)
  exact fun other absent =>
    have stored := law state id policies other absent
    ⟨stored.1.trans (kept other absent).1, stored.2.trans (kept other absent).2⟩

theorem visits_resolvedOnly (law : pass.StoresLocally) (mode : ResolutionMode)
    (ids : List ResourceId) (progress : Progress) (topology : Topology) :
    ResolvedOnly ids topology ((ids.foldlM (pass.visit mode) progress).run topology).2 := by
  induction ids generalizing progress topology with
  | nil => exact .refl [] topology
  | cons id rest ih =>
      have first := visit_resolvedOnly law mode progress id topology
      rw [List.foldlM_cons, Assembly.run_bind]
      generalize (pass.visit mode progress id).run topology = run at first
      rcases run with ⟨_ | next, middle⟩
      · exact first.trans (.refl rest middle)
      · exact first.trans (ih next middle)

theorem run_resolvedOnly (law : pass.StoresLocally) {failures : List NodeFailure}
    (run : (pass.run mode failures).run before = (.ok final, after)) :
    ResolvedOnly (sortedIds (before.idsOf pass.kind)) before after := by
  obtain ⟨_, _, start, run⟩ := Assembly.run_bind_ok_iff.mp run
  cases start
  obtain ⟨progress, middle, visits, last⟩ := Assembly.run_bind_ok_iff.mp run
  have kept := visits_resolvedOnly law mode (sortedIds (before.idsOf pass.kind)) ⟨⟨0, 0⟩, failures⟩
    before
  rw [visits] at kept
  cases last
  exact kept.record _

/-- Without a conflict the mode makes no difference to a visit. -/
theorem visit_of_passes (passes : (pass.outcome before progress.failedIds id).Passes .failFast) :
    (pass.visit .failFast progress id).run before =
      (pass.visit .bestEffort progress id).run before := by
  obtain ⟨result, after, run, ends⟩ := visit_ends pass .failFast progress id before
  obtain ⟨result', after', run', ends'⟩ := visit_ends pass .bestEffort progress id before
  rw [run, run']
  generalize pass.outcome before progress.failedIds id = outcome at passes ends ends'
  cases ends with
  | conflicted conflict goesOn => cases goesOn
  | stopped conflict _ => cases passes
  | faulted fault => cases passes
  | _ =>
      cases ends'
      rfl

/-- A conflict stops a resolution that stops at conflicts, and nothing is stored. -/
theorem run_visit_of_conflict {conflict : MergeConflict}
    (found : pass.outcome before progress.failedIds id = .error (.failure (.conflict conflict))) :
    ∃ events, (pass.visit .failFast progress id).run before =
      (.error (.unresolved id conflict), before.record events) := by
  obtain ⟨result, after, run, ends⟩ := visit_ends pass .failFast progress id before
  rw [found] at ends
  rw [run]
  cases ends with
  | conflicted _ goesOn => cases goesOn
  | stopped => exact ⟨_, congrArg (Prod.mk _) (Topology.record_record ..)⟩

/-- Without a conflict the mode makes no difference to the visits of some nodes. -/
theorem visits_of_passes (law : pass.Lawful reads held) (progress : Progress)
    {ids : List ResourceId} (ofKind : ∀ id ∈ ids, id.nodeKind = pass.kind)
    (coherent : before.Coherent)
    (passes : ∀ id ∈ ids, (pass.outcome before progress.failedIds id).Passes .failFast) :
    (ids.foldlM (pass.visit .failFast) progress).run before =
      (ids.foldlM (pass.visit .bestEffort) progress).run before := by
  induction ids generalizing before progress with
  | nil => rfl
  | cons id rest ih =>
      have here := passes id List.mem_cons_self
      obtain ⟨middle, first, coherent', stored, _⟩ :=
        run_visit law coherent (ofKind id List.mem_cons_self) here
      rw [List.foldlM_cons, List.foldlM_cons, Assembly.run_bind, Assembly.run_bind,
        ← visit_of_passes here, first]
      refine ih _ (fun other member => ofKind other (List.mem_cons_of_mem _ member)) coherent' ?_
      intro other member
      rw [outcome_of_visit law coherent progress stored (ofKind id List.mem_cons_self)]
      exact passes other (List.mem_cons_of_mem _ member)

theorem passes_failFast_of_sound {result : Outcome α} (passes : result.Passes .bestEffort)
    (sound : result.failure? = none) : result.Passes .failFast := by
  rcases result with (failure | fault) | _
  · cases sound
  · exact passes
  · trivial

/-- Without a conflict the mode makes no difference to a pass. -/
theorem run_of_sound (law : pass.Lawful reads held) (coherent : before.Coherent)
    (sound : ∀ id ∈ sortedIds (before.idsOf pass.kind),
      (pass.outcome before [] id).Passes .failFast) :
    (pass.run .failFast []).run before = (pass.run .bestEffort []).run before := by
  have ofKind : ∀ id ∈ sortedIds (before.idsOf pass.kind), id.nodeKind = pass.kind :=
    fun id member => Topology.nodeKind_of_mem_idsOf (mem_sortedIds.mp member)
  unfold run
  simp only [Assembly.run_bind, Assembly.run_get,
    visits_of_passes law ⟨⟨0, 0⟩, []⟩ ofKind coherent sound]

/-- The first failure of a pass is at the first node that comes to one. -/
theorem exists_first_failure {ids : List ResourceId} {outcome : ResourceId → Outcome α}
    {first : NodeFailure} {rest : List NodeFailure}
    (failures : failuresAmong ids outcome = first :: rest) :
    ∃ earlier later, ids = earlier ++ first.node :: later ∧
      (∀ id ∈ earlier, (outcome id).failure? = none) ∧
      outcome first.node = .error (.failure first.failure) := by
  obtain ⟨earlier, id, later, split, sound, found, _⟩ := List.filterMap_eq_cons_iff.mp failures
  obtain ⟨failure, failing, rfl⟩ := Option.map_eq_some_iff.mp found
  refine ⟨earlier, later, split, fun other member => ?_, ?_⟩
  · simpa using sound other member
  · have member : ⟨id, failure⟩ ∈ failuresAmong ids outcome := by
      rw [failures]
      exact List.mem_cons_self
    exact (mem_failuresAmong.mp member).2

/-- A resolution that stops at conflicts stops at the first one, with what the visits before have
left. -/
theorem run_of_conflict (law : pass.Lawful reads held) (coherent : before.Coherent)
    {earlier later : List ResourceId} {conflict : MergeConflict}
    (split : sortedIds (before.idsOf pass.kind) = earlier ++ id :: later)
    (sound : ∀ other ∈ earlier, (pass.outcome before [] other).Passes .failFast)
    (found : pass.outcome before [] id = .error (.failure (.conflict conflict))) :
    ∃ progress middle events,
      (earlier.foldlM (pass.visit .failFast) ⟨⟨0, 0⟩, []⟩).run before = (.ok progress, middle) ∧
      (pass.run .failFast []).run before =
        (.error (.unresolved id conflict), middle.record events) := by
  have ofKind : ∀ other ∈ earlier, other.nodeKind = pass.kind := fun other member =>
    Topology.nodeKind_of_mem_idsOf
      (mem_sortedIds.mp (split ▸ List.mem_append_left _ member))
  obtain ⟨progress, middle, visits, reached⟩ :=
    run_visits law ⟨⟨0, 0⟩, []⟩ ofKind coherent sound
  have same : pass.outcome middle progress.failedIds id = pass.outcome before [] id :=
    law.compute_congr coherent (reached.agreeOn ofKind law.reads_ne)
  obtain ⟨events, stop⟩ := run_visit_of_conflict (same.trans found)
  refine ⟨progress, middle, events, visits, ?_⟩
  unfold run
  simp only [Assembly.run_bind, Assembly.run_get, split, List.foldlM_append, List.foldlM_cons,
    visits, stop]

/-- After its first visits a pass concerns only the nodes that are left. -/
theorem rest_resolvedOnly (law : pass.StoresLocally) {failures : List NodeFailure}
    {earlier later : List ResourceId} {middle : Topology}
    (split : sortedIds (before.idsOf pass.kind) = earlier ++ later)
    (visits : (earlier.foldlM (pass.visit mode) ⟨⟨0, 0⟩, failures⟩).run before =
      (.ok progress, middle))
    (run : (pass.run mode failures).run before = (.ok final, after)) :
    ResolvedOnly later middle after := by
  obtain ⟨_, _, start, run⟩ := Assembly.run_bind_ok_iff.mp run
  cases start
  obtain ⟨progress', middle', run, last⟩ := Assembly.run_bind_ok_iff.mp run
  rw [split, List.foldlM_append] at run
  obtain ⟨_, _, first, others⟩ := Assembly.run_bind_ok_iff.mp run
  cases visits.symm.trans first
  have kept := visits_resolvedOnly law mode later progress middle
  rw [others] at kept
  cases last
  exact kept.record _

/-- What a pass has changed when it stops at the first conflict, and what one that goes on changes
from there. -/
theorem resolvedOnly_of_conflict (law : pass.Lawful reads held) (locally : pass.StoresLocally)
    (coherent : before.Coherent) {earlier later : List ResourceId} {conflict : MergeConflict}
    (split : sortedIds (before.idsOf pass.kind) = earlier ++ id :: later)
    (sound : ∀ other ∈ earlier, (pass.outcome before [] other).Passes .failFast)
    (found : pass.outcome before [] id = .error (.failure (.conflict conflict)))
    (best : (pass.run .bestEffort []).run before = (.ok final, after)) :
    ∃ middle, (pass.run .failFast []).run before = (.error (.unresolved id conflict), middle) ∧
      ResolvedOnly earlier before middle ∧ ResolvedOnly (id :: later) middle after := by
  have ofKind : ∀ other ∈ earlier, other.nodeKind = pass.kind := fun other member =>
    Topology.nodeKind_of_mem_idsOf (mem_sortedIds.mp (split ▸ List.mem_append_left _ member))
  obtain ⟨progress, middle, events, visits, run⟩ := run_of_conflict law coherent split sound found
  have same := visits_of_passes law ⟨⟨0, 0⟩, []⟩ ofKind coherent sound
  have start := visits_resolvedOnly locally .failFast earlier ⟨⟨0, 0⟩, []⟩ before
  have finish := rest_resolvedOnly locally split (same.symm.trans visits) best
  rw [visits] at start
  exact ⟨_, run, start.record events, finish⟩

/-- How a pass that stops at conflicts compares to one that goes on and leads to `after`: it is the
same if no node fails, and otherwise it stops at the first node that does, before which the two are
the same. -/
inductive Compares (pass : Pass α) (before after : Topology) (final : Progress) : Prop where
  | clean (sound : final.failures = [])
      (run : (pass.run .failFast []).run before = (.ok final, after))
  | stopped {id : ResourceId} {conflict : MergeConflict} {rest : List NodeFailure}
      {earlier later : List ResourceId} {middle : Topology}
      (failures : final.failures = ⟨id, .conflict conflict⟩ :: rest)
      (split : sortedIds (before.idsOf pass.kind) = earlier ++ id :: later)
      (run : (pass.run .failFast []).run before = (.error (.unresolved id conflict), middle))
      (start : ResolvedOnly earlier before middle)
      (finish : ResolvedOnly (id :: later) middle after)

/-- While no node has failed, none fails on account of another, so the first failure of a pass is a
conflict. -/
theorem compares (law : pass.Lawful reads held) (locally : pass.StoresLocally)
    (coherent : before.Coherent)
    (own : ∀ id ∈ before.idsOf pass.kind, ∀ other,
      pass.outcome before [] id ≠ .error (.failure (.dependency other)))
    (best : (pass.run .bestEffort []).run before = (.ok final, after)) :
    pass.Compares before after final := by
  have visited := visited_of_run law coherent best
  have failures := visited.failures_eq
  rw [List.nil_append] at failures
  cases among : failuresAmong (sortedIds (before.idsOf pass.kind)) (pass.outcome before []) with
  | nil =>
      have sound : ∀ id ∈ sortedIds (before.idsOf pass.kind),
          (pass.outcome before [] id).Passes .failFast := fun id member =>
        passes_failFast_of_sound (visited.passes id member)
          (by simpa using List.filterMap_eq_nil_iff.mp among id member)
      exact .clean (failures.trans among) ((run_of_sound law coherent sound).trans best)
  | cons first rest =>
      obtain ⟨earlier, later, split, sound, found⟩ := exists_first_failure among
      have listed : ∀ {other}, other ∈ earlier ++ first.node :: later →
          other ∈ sortedIds (before.idsOf pass.kind) := fun member => split ▸ member
      have here : first.node ∈ before.idsOf pass.kind :=
        mem_sortedIds.mp (listed (List.mem_append_right _ List.mem_cons_self))
      obtain ⟨id, failure⟩ := first
      cases failure with
      | dependency other => exact absurd found (own id here other)
      | conflict conflict =>
          have sound' : ∀ other ∈ earlier, (pass.outcome before [] other).Passes .failFast :=
            fun other member => passes_failFast_of_sound
              (visited.passes other (listed (List.mem_append_left _ member))) (sound other member)
          obtain ⟨middle, run, start, finish⟩ :=
            resolvedOnly_of_conflict law locally coherent split sound' found best
          exact .stopped (failures.trans among) split run start finish

end Pass

/-- How a resolution that stops at conflicts, given by its result and the topology that it leaves
behind, compares to a best-effort resolution of the same topology. -/
structure ModesAgree (before best : Topology) (report : ResolutionReport)
    (fast : Except ResolutionError ResolutionReport × Topology) : Prop where
  returns_iff : (∃ other, fast.1 = .ok other) ↔ report.failures = []
  clean : report.failures = [] → fast = (.ok report, best)
  /-- The first failure is a conflict. What was resolved before it is the same, and nothing has
  changed for any other node. -/
  stopped : ∀ first rest, report.failures = first :: rest → ∃ conflict earlier later,
    first.failure = .conflict conflict ∧ fast.1 = .error (.unresolved first.node conflict) ∧
    before.visitOrder = earlier ++ first.node :: later ∧
    (∀ id ∈ earlier, Topology.SameResolved id fast.2 best) ∧
    ∀ id ∉ earlier, Topology.SameResolved id fast.2 before

namespace Topology

variable {merger : PolicyMerger} {admitted : Policy → Prop} {before best stopped : Topology}
  {report : ResolutionReport}

theorem modesAgree_of_clean (sound : report.failures = []) :
    ModesAgree before best report (.ok report, best) where
  returns_iff := ⟨fun _ => sound, fun _ => ⟨report, rfl⟩⟩
  clean _ := rfl
  stopped _ _ failures := nomatch failures.symm.trans sound

theorem modesAgree_of_stopped {id : ResourceId} {conflict : MergeConflict}
    {earlier later : List ResourceId}
    (failures : [⟨id, .conflict conflict⟩] <+: report.failures)
    (order : before.visitOrder = earlier ++ id :: later)
    (start : ResolvedOnly earlier before stopped)
    (finish : ResolvedOnly (id :: later) stopped best) :
    ModesAgree before best report (.error (.unresolved id conflict), stopped) where
  returns_iff := by
    obtain ⟨rest, failures⟩ := failures
    rw [← failures]
    constructor
    · rintro ⟨_, impossible⟩
      cases impossible
    · exact fun impossible => nomatch impossible
  clean sound := by
    rw [sound, List.prefix_nil] at failures
    cases failures
  stopped first rest failures' := by
    obtain ⟨rest', failures⟩ := failures
    cases failures.trans failures'
    have distinct := before.nodup_visitOrder
    rw [order, List.nodup_append] at distinct
    refine ⟨conflict, earlier, later, rfl, rfl, order, fun other member => ?_, start⟩
    have kept := finish other fun member' => distinct.2.2 other member other member' rfl
    exact ⟨kept.1.symm, kept.2.symm⟩

/-- Work that comes to nothing but conflicts does not fail on account of another node. -/
theorem not_dependency_of_tame {α β : Type} {property : α → Prop} {result : Except NodeError α}
    (h : NodeWork.Tame property result) (f : α → β) (other : ResourceId) :
    result.map f ≠ .error (.failure (.dependency other)) := by
  intro failed
  rw [Except.map_error_iff.mp failed] at h
  exact h

theorem gateway_fails_alone (law : merger.RaisesOnlyConflicts admitted)
    (admits : before.Admits admitted) (gateway other : ResourceId) :
    (Pass.gateways merger).outcome before [] gateway ≠ .error (.failure (.dependency other)) := by
  have alone := not_dependency_of_tame (tame_gatewayPolicies law admits gateway) id other
  rwa [Except.map_id] at alone

theorem route_fails_alone (law : merger.RaisesOnlyConflicts admitted)
    (admits : before.Admits admitted)
    (read : ∀ gateway, before.hasNode .gateway gateway → ∀ policies,
      before.effective.get? gateway = some policies → policies.All admitted)
    (coherent : before.Coherent) (route other : ResourceId) :
    (Pass.routes merger).outcome before [] route ≠ .error (.failure (.dependency other)) := by
  have tame : NodeWork.Tame (Partitions.All admitted)
      (before.routePartitions merger [] route).result := tame_routePartitions law admits
    fun gateway member => read gateway (coherent.outgoing_ends member).2
  rw [outcome_routes, awaiting_of_sound fun _ _ => List.not_mem_nil]
  exact not_dependency_of_tame tame some other

theorem backend_fails_alone (law : merger.RaisesOnlyConflicts admitted)
    (admits : before.Admits admitted)
    (read : ∀ route, before.hasNode .httpRoute route → ∀ partitions,
      before.partitions.get? route = some partitions → partitions.All admitted)
    (coherent : before.Coherent) (backend other : ResourceId) :
    (Pass.backends merger).outcome before [] backend ≠ .error (.failure (.dependency other)) := by
  have tame : NodeWork.Tame (Partitions.All admitted)
      (before.backendPartitions merger [] backend).result := tame_backendPartitions law admits
    fun route member => read route (coherent.incoming_ends member).1
  rw [outcome_backends, awaiting_of_sound fun _ _ => List.not_mem_nil]
  exact not_dependency_of_tame tame some other

section Stops

variable {mode : ResolutionMode} {first second : Topology} {gateways routes : Progress}
  {error : ResolutionError}

theorem run_resolve_of_gateways
    (stop : ((Pass.gateways merger).run mode []).run before = (.error error, stopped)) :
    (resolve merger mode).run before = (.error error, stopped) := by
  unfold resolve
  rw [Assembly.run_bind, stop]

theorem run_resolve_of_routes
    (ran : ((Pass.gateways merger).run mode []).run before = (.ok gateways, first))
    (stop : ((Pass.routes merger).run mode gateways.failures).run first = (.error error, stopped)) :
    (resolve merger mode).run before = (.error error, stopped) := by
  unfold resolve
  rw [Assembly.run_bind, ran]
  dsimp only
  rw [Assembly.run_bind, stop]

theorem run_resolve_of_backends
    (ran : ((Pass.gateways merger).run mode []).run before = (.ok gateways, first))
    (ran' : ((Pass.routes merger).run mode gateways.failures).run first = (.ok routes, second))
    (stop : ((Pass.backends merger).run mode routes.failures).run second =
      (.error error, stopped)) :
    (resolve merger mode).run before = (.error error, stopped) := by
  unfold resolve
  rw [Assembly.run_bind, ran]
  dsimp only
  rw [Assembly.run_bind, ran']
  dsimp only
  rw [Assembly.run_bind, stop]

end Stops

/-- The modes agree if a pass that is reached without a conflict stops at one, or if they do once it
has not stopped either. -/
theorem modesAgree_of_compares {α : Type} {pass : Pass α} {middle after : Topology}
    {final : Progress} {ids more : List ResourceId} (compared : pass.Compares middle after final)
    (start : ResolvedOnly ids before middle) (finish : ResolvedOnly more after best)
    (order : before.visitOrder = ids ++ sortedIds (middle.idsOf pass.kind) ++ more)
    (failures : final.failures <+: report.failures)
    (stops : ∀ {error stopped}, (pass.run .failFast []).run middle = (.error error, stopped) →
      (resolve merger .failFast).run before = (.error error, stopped))
    (clean : final.failures = [] → (pass.run .failFast []).run middle = (.ok final, after) →
      ModesAgree before best report ((resolve merger .failFast).run before)) :
    ModesAgree before best report ((resolve merger .failFast).run before) := by
  cases compared with
  | clean sound run => exact clean sound run
  | stopped first split run start' finish' =>
      rw [stops run]
      refine modesAgree_of_stopped (.trans ?_ failures) ?_ (start.trans start')
        (finish'.trans finish)
      · exact first ▸ List.prefix_append [_] _
      · rw [order, split]
        simp only [List.append_assoc]
        rfl

/-- With a merger that raises nothing but conflicts a best-effort resolution comes to an end, and
one that stops at conflicts agrees with it up to the first failure. -/
theorem resolve_modes_agree (reachable : before.Reachable)
    (law : merger.RaisesOnlyConflicts admitted) (admits : before.Admits admitted) :
    ∃ report best, (resolve merger .bestEffort).run before = (.ok report, best) ∧
      ModesAgree before best report ((resolve merger .failFast).run before) := by
  have coherent := reachable.coherent
  obtain ⟨report, best, run⟩ := resolve_bestEffort_total law coherent admits
  refine ⟨report, best, run, ?_⟩
  obtain ⟨gateways, routes, backends, first, second, ran, ran', ran'', rfl⟩ :=
    run_resolve_iff.mp run
  have visited := Pass.visited_of_run (Pass.gateways_lawful merger) coherent ran
  have visited' := Pass.visited_of_run (Pass.routes_lawful merger) visited.coherent ran'
  have visited'' := Pass.visited_of_run (Pass.backends_lawful merger) visited'.coherent ran''
  have admits' : first.Admits admitted := admits.congr visited.storedAt.toSameGraph
  have admits'' : second.Admits admitted := admits'.congr visited'.storedAt.toSameGraph
  have order : before.visitOrder = sortedIds (before.idsOf .gateway) ++
      sortedIds (first.idsOf .httpRoute) ++ sortedIds (second.idsOf .backend) := by
    rw [visited'.storedAt.toSameGraph.idsOf, visited.storedAt.toSameGraph.idsOf,
      visited.storedAt.toSameGraph.idsOf]
    rfl
  have grow : gateways.failures <+: routes.failures :=
    visited'.failures_eq ▸ List.prefix_append ..
  have grow' : routes.failures <+: backends.failures :=
    visited''.failures_eq ▸ List.prefix_append ..
  have kept := Pass.run_resolvedOnly (Pass.gateways_storesLocally merger) ran
  have kept' := Pass.run_resolvedOnly (Pass.routes_storesLocally merger) ran'
  have kept'' := Pass.run_resolvedOnly (Pass.backends_storesLocally merger) ran''
  have read := gateways_admitted law coherent admits ran
  have read' := routes_admitted law visited.coherent admits' read ran'
  have compared := Pass.compares (Pass.gateways_lawful merger) (Pass.gateways_storesLocally merger)
    coherent (fun id _ => gateway_fails_alone law admits id) ran
  refine modesAgree_of_compares compared (.refl [] before) (kept'.trans kept'')
    (order.trans (List.append_assoc ..)) (grow.trans grow') run_resolve_of_gateways
    fun sound fast => ?_
  -- Once the gateways are sound, the routes start without failures, as in the other mode.
  have none : ∀ id, id ∉ gateways.failedIds := by simp [Progress.failedIds, sound]
  rw [sound] at ran'
  have compared' := Pass.compares (Pass.routes_lawful merger) (Pass.routes_storesLocally merger)
    visited.coherent (fun id _ => route_fails_alone law admits'
      (fun gateway node => read gateway node (none gateway)) visited.coherent id) ran'
  refine modesAgree_of_compares compared' kept kept'' order grow'
    (fun stop => run_resolve_of_routes fast (sound ▸ stop)) fun sound' fast' => ?_
  have none' : ∀ id, id ∉ routes.failedIds := by simp [Progress.failedIds, sound']
  rw [sound'] at ran''
  have compared'' := Pass.compares (Pass.backends_lawful merger)
    (Pass.backends_storesLocally merger) visited'.coherent (fun id _ => backend_fails_alone law
      admits'' (fun route node => read' route node (none' route)) visited'.coherent id) ran''
  refine modesAgree_of_compares compared'' (kept.trans kept') (.refl [] _)
    (order.trans (List.append_nil _).symm) List.prefix_rfl
    (fun stop => run_resolve_of_backends fast (sound ▸ fast') (sound' ▸ stop))
    fun sound'' fast'' => ?_
  have same := run_resolve_iff.mpr ⟨gateways, routes, backends, first, second, fast,
    sound ▸ fast', sound' ▸ fast'', rfl⟩
  rw [same]
  exact modesAgree_of_clean sound''

theorem visitOrder_sharedRoute : sharedRoute.visitOrder =
    [.gateway "n" "g", .gateway "n" "h"] ++ .gateway "n" "k" ::
      [.httpRoute "n" "r", .httpRoute "n" "s", .backend "" "Service" "n" "b"] := by
  have order : (sharedRoute.idsOf .gateway).insertionSort (· ≤ ·) ++
      (sharedRoute.idsOf .httpRoute).insertionSort (· ≤ ·) ++
        (sharedRoute.idsOf .backend).insertionSort (· ≤ ·) =
      [.gateway "n" "g", .gateway "n" "h", .gateway "n" "k", .httpRoute "n" "r",
        .httpRoute "n" "s", .backend "" "Service" "n" "b"] := by
    decide
  rw [visitOrder, sortedIds_eq, sortedIds_eq, sortedIds_eq, order]
  rfl

/-- A resolution that stops at conflicts stops at the last gateway. The gateway before it holds the
quota of its class as in the other mode, and the route, which it does not come to, holds nothing. -/
theorem resolve_modes_agree_sharedRoute : ∃ report best,
    (resolve MergerRegistry.specifications.toPolicyMerger .bestEffort).run sharedRoute =
      (.ok report, best) ∧
    ModesAgree sharedRoute best report
      ((resolve MergerRegistry.specifications.toPolicyMerger .failFast).run sharedRoute) ∧
    report.failures.head? = some ⟨.gateway "n" "k", .conflict quotaClash⟩ ∧
    ((resolve MergerRegistry.specifications.toPolicyMerger .failFast).run sharedRoute).1 =
      .error (.unresolved (.gateway "n" "k") quotaClash) ∧
    ((resolve MergerRegistry.specifications.toPolicyMerger .failFast).run
      sharedRoute).2.effective.get? (.gateway "n" "g") = some (onlyQuota classQuota) ∧
    ((resolve MergerRegistry.specifications.toPolicyMerger .failFast).run
      sharedRoute).2.partitions.get? (.httpRoute "n" "r") = none ∧
    best.partitions.get? (.httpRoute "n" "r") =
      some (Table.empty.set (.gateway "n" "g") (onlyQuota classQuota)) := by
  have reachable : sharedRoute.Reachable := .applyAll .empty _
  obtain ⟨report, best, run, agree⟩ := resolve_modes_agree reachable
    MergerRegistry.specifications_raisesOnlyConflicts shaped_sharedRoute
  have h := resolution_of_run reachable.coherent run
  obtain ⟨rest, failures⟩ := failures_sharedRoute h
  obtain ⟨⟨_, resolved⟩, _⟩ := gateways_sharedRoute h
  obtain ⟨_, earlier, later, same, stop, order, kept, others⟩ :=
    agree.stopped _ rest failures
  cases same
  rw [visitOrder_sharedRoute] at order
  have notBefore : ResourceId.gateway "n" "k" ∉ [.gateway "n" "g", .gateway "n" "h"] := by decide
  have notAfter : ResourceId.gateway "n" "k" ∉ [.httpRoute "n" "r", .httpRoute "n" "s",
      .backend "" "Service" "n" "b"] := by decide
  obtain ⟨rfl, _⟩ := (List.append_cons_inj_of_notMem notBefore notAfter).mp order
  refine ⟨report, best, run, agree, ?_, stop, ?_, ?_, (partitions_sharedRoute h).2⟩
  · rw [failures]
    rfl
  · exact (kept _ (by decide)).1.trans resolved
  · exact (others _ (by decide)).2

end Topology

end PolicyTopology
