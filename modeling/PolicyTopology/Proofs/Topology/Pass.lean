import PolicyTopology.Proofs.Precedence
import PolicyTopology.Proofs.Topology.Coherent
import PolicyTopology.Proofs.Traced

/-!
# Passes

A pass visits the nodes of one kind and reads what the pass before it has stored for another kind.
So what the work on a node comes to does not depend on the visits before it, and a whole pass is
described by one function from nodes to outcomes: `Pass.Lawful` collects what a pass owes to this,
and `Pass.Completed` is what follows for the pass.
-/

namespace PolicyTopology

/-- Two topologies with the same nodes, edges and policies. -/
structure Topology.SameGraph (before after : Topology) : Prop where
  nodes : after.nodes = before.nodes
  outgoing : after.outgoing = before.outgoing
  incoming : after.incoming = before.incoming
  policies : after.policies = before.policies
  attached : after.attached = before.attached

namespace Topology.SameGraph

variable {first second third : Topology}

theorem refl (topology : Topology) : SameGraph topology topology := ⟨rfl, rfl, rfl, rfl, rfl⟩

theorem trans (h : SameGraph first second) (h' : SameGraph second third) :
    SameGraph first third :=
  ⟨h'.nodes.trans h.nodes, h'.outgoing.trans h.outgoing, h'.incoming.trans h.incoming,
    h'.policies.trans h.policies, h'.attached.trans h.attached⟩

theorem symm (h : SameGraph first second) : SameGraph second first :=
  ⟨h.nodes.symm, h.outgoing.symm, h.incoming.symm, h.policies.symm, h.attached.symm⟩

theorem idsOf (h : SameGraph first second) (kind : NodeKind) :
    second.idsOf kind = first.idsOf kind := by
  simp only [Topology.idsOf, h.nodes]

theorem hasNode (h : SameGraph first second) (kind : NodeKind) (id : ResourceId) :
    second.hasNode kind id = first.hasNode kind id := by
  simp only [Topology.hasNode, h.nodes]

theorem targets (h : SameGraph first second) (edge : Edge) (source : ResourceId) :
    second.targets edge source = first.targets edge source := by
  simp only [Topology.targets, h.outgoing]

theorem sources (h : SameGraph first second) (edge : Edge) (target : ResourceId) :
    second.sources edge target = first.sources edge target := by
  simp only [Topology.sources, h.incoming]

theorem target? (h : SameGraph first second) (edge : Edge) (source : ResourceId) :
    second.target? edge source = first.target? edge source := by
  simp only [Topology.target?, h.targets]

theorem nameSpace? (h : SameGraph first second) (id : ResourceId) :
    second.nameSpace? id = first.nameSpace? id := by
  simp only [Topology.nameSpace?, h.target?]

theorem policyIdsOn (h : SameGraph first second) (target : ResourceId) :
    second.policyIdsOn target = first.policyIdsOn target := by
  simp only [Topology.policyIdsOn, h.attached]

theorem policiesOn (h : SameGraph first second) (target : Option ResourceId) :
    second.policiesOn target = first.policiesOn target := by
  cases target with
  | none => rfl
  | some target => simp only [Topology.policiesOn, h.policyIdsOn, h.policies]

end Topology.SameGraph

/-- At most what is resolved for nodes of `kind` has changed. -/
structure Topology.StoredAt (kind : NodeKind) (before after : Topology) : Prop
    extends SameGraph before after where
  effective : ∀ {id : ResourceId}, id.nodeKind ≠ kind →
    after.effective.get? id = before.effective.get? id
  partitions : ∀ {id : ResourceId}, id.nodeKind ≠ kind →
    after.partitions.get? id = before.partitions.get? id

namespace Topology.StoredAt

variable {first second third : Topology} {kind : NodeKind}

theorem record (topology : Topology) (events : List Event) :
    StoredAt kind topology (topology.record events) :=
  ⟨⟨rfl, rfl, rfl, rfl, rfl⟩, fun _ => rfl, fun _ => rfl⟩

theorem refl (topology : Topology) : StoredAt kind topology topology :=
  ⟨.refl _, fun _ => rfl, fun _ => rfl⟩

theorem trans (h : StoredAt kind first second) (h' : StoredAt kind second third) :
    StoredAt kind first third where
  toSameGraph := h.toSameGraph.trans h'.toSameGraph
  effective other := (h'.effective other).trans (h.effective other)
  partitions other := (h'.partitions other).trans (h.partitions other)

end Topology.StoredAt

/-- Two moments at which nodes of `kind` look the same: in the graph, in what is resolved for them
and in whether they have failed. -/
structure Topology.AgreeOn (kind : NodeKind) (before : Topology) (failed : List ResourceId)
    (after : Topology) (failedAfter : List ResourceId) : Prop extends SameGraph before after where
  effective : ∀ {id : ResourceId}, id.nodeKind = kind →
    after.effective.get? id = before.effective.get? id
  partitions : ∀ {id : ResourceId}, id.nodeKind = kind →
    after.partitions.get? id = before.partitions.get? id
  failed : ∀ {id : ResourceId}, id.nodeKind = kind → (id ∈ failedAfter ↔ id ∈ failed)

namespace Topology.AgreeOn

variable {first second third : Topology} {failed failed' failed'' : List ResourceId}
  {kind stored : NodeKind}

theorem trans (h : AgreeOn kind first failed second failed')
    (h' : AgreeOn kind second failed' third failed'') :
    AgreeOn kind first failed third failed'' where
  toSameGraph := h.toSameGraph.trans h'.toSameGraph
  effective same := (h'.effective same).trans (h.effective same)
  partitions same := (h'.partitions same).trans (h.partitions same)
  failed same := (h'.failed same).trans (h.failed same)

theorem record (topology : Topology) (failed : List ResourceId) (events : List Event) :
    AgreeOn kind topology failed (topology.record events) failed :=
  ⟨⟨rfl, rfl, rfl, rfl, rfl⟩, fun _ => rfl, fun _ => rfl, fun _ => .rfl⟩

/-- What happens to nodes of one kind leaves those of another as they are. -/
theorem of_storedAt (h : StoredAt stored first second) (other : kind ≠ stored)
    {more : List ResourceId} (ofKind : ∀ id ∈ more, id.nodeKind = stored) :
    AgreeOn kind first failed second (failed ++ more) where
  toSameGraph := h.toSameGraph
  effective same := h.effective (same ▸ other)
  partitions same := h.partitions (same ▸ other)
  failed same := by
    refine ⟨fun member => ?_, List.mem_append_left _⟩
    refine (List.mem_append.mp member).resolve_right fun found => other ?_
    rw [← same, ofKind _ found]

end Topology.AgreeOn

/-- What the work on a node comes to: its policies, nothing, or a reason why there are none. -/
abbrev Outcome (α : Type) := Except NodeError (Option α)

namespace Outcome

variable {α : Type}

def stored? : Outcome α → Option α
  | .ok policies => policies
  | .error _ => none

def failure? : Outcome α → Option Failure
  | .error (.failure failure) => some failure
  | _ => none

/-- Whether a resolution goes on after an outcome. -/
def Passes (mode : ResolutionMode) : Outcome α → Prop
  | .error (.failure (.conflict _)) => mode = .bestEffort
  | .error (.fault _) => False
  | _ => True

@[simp] theorem stored?_ok (policies : Option α) :
    stored? (Except.ok policies : Outcome α) = policies := rfl

@[simp] theorem stored?_error (error : NodeError) :
    stored? (Except.error error : Outcome α) = none := rfl

@[simp] theorem failure?_ok (policies : Option α) :
    failure? (Except.ok policies : Outcome α) = none := rfl

@[simp] theorem failure?_failure (failure : Failure) :
    failure? (Except.error (.failure failure) : Outcome α) = some failure := rfl

end Outcome

namespace Progress

variable {α : Type}

def failedIds (progress : Progress) : List ResourceId := progress.failures.map (·.node)

/-- Enter what the work on a node came to. -/
def enter (progress : Progress) (id : ResourceId) : Outcome α → Progress
  | .ok none => { progress with tally.skipped := progress.tally.skipped + 1 }
  | .ok (some _) => { progress with tally.resolved := progress.tally.resolved + 1 }
  | .error (.failure failure) => { progress with failures := progress.failures ++ [⟨id, failure⟩] }
  | .error (.fault _) => progress

theorem failedIds_enter (progress : Progress) (id : ResourceId) (outcome : Outcome α) :
    (progress.enter id outcome).failedIds =
      progress.failedIds ++ (outcome.failure?.map fun _ => id).toList := by
  unfold enter Outcome.failure? failedIds
  split <;> simp

end Progress

namespace Pass

variable {α : Type}

/-- What a pass owes to the description of its runs. It keeps results where `held` finds them, and
what it works out depends only on nodes of the kind `reads`. -/
structure Lawful (pass : Pass α) (reads : NodeKind)
    (held : Topology → ResourceId → Option α) : Prop where
  reads_ne : reads ≠ pass.kind
  held_record : ∀ topology events, held (topology.record events) = held topology
  held_store : ∀ topology id policies other,
    held (pass.store topology id policies) other =
      if id = other then some policies else held topology other
  storedAt : ∀ (topology : Topology) {id : ResourceId} policies, id.nodeKind = pass.kind →
    topology.StoredAt pass.kind (pass.store topology id policies)
  coherent : ∀ {topology : Topology} {failed id policies}, topology.Coherent →
    (pass.compute topology failed id).result = .ok (some policies) →
    (pass.store topology id policies).Coherent
  compute_congr : ∀ {before after : Topology} {failed failed' id}, before.Coherent →
    before.AgreeOn reads failed after failed' →
    (pass.compute after failed' id).result = (pass.compute before failed id).result

variable {pass : Pass α} {reads : NodeKind} {held : Topology → ResourceId → Option α}
  {mode : ResolutionMode} {before after : Topology} {progress final : Progress} {id : ResourceId}

/-- What the work on a node comes to after some failures. -/
def outcome (pass : Pass α) (topology : Topology) (failed : List ResourceId) (id : ResourceId) :
    Outcome α := (pass.compute topology failed id).result

theorem nodeKind_of_mem_visited (member : id ∈ sortedIds (before.idsOf pass.kind)) :
    id.nodeKind = pass.kind :=
  Topology.nodeKind_of_mem_idsOf (mem_sortedIds.mp member)

/-- How a visit of a node ends, by what the work on the node came to: how far the pass has come or
why the resolution stops, and what is left of a topology in which the work has been noted. -/
inductive VisitEnds (pass : Pass α) (mode : ResolutionMode) (progress : Progress) (id : ResourceId)
    (noted : Topology) : Outcome α → Except ResolutionError Progress → Topology → Prop
  | skipped : VisitEnds pass mode progress id noted (.ok none)
      (.ok (progress.enter id (.ok none : Outcome α))) noted
  | resolved (policies : α) : VisitEnds pass mode progress id noted (.ok (some policies))
      (.ok (progress.enter id (.ok (some policies)))) (pass.store noted id policies)
  | awaits (failed : ResourceId) : VisitEnds pass mode progress id noted
      (.error (.failure (.dependency failed)))
      (.ok (progress.enter id (.error (.failure (.dependency failed)) : Outcome α)))
      (noted.record [.dependencyFailed id failed])
  | conflicted (conflict : MergeConflict) (goesOn : mode = .bestEffort) :
      VisitEnds pass mode progress id noted (.error (.failure (.conflict conflict)))
        (.ok (progress.enter id (.error (.failure (.conflict conflict)) : Outcome α)))
        (noted.record [.conflicted id conflict])
  | stopped (conflict : MergeConflict) (stops : mode = .failFast) :
      VisitEnds pass mode progress id noted (.error (.failure (.conflict conflict)))
        (.error (.unresolved id conflict)) (noted.record [.conflicted id conflict])
  | faulted (fault : MergeFault) : VisitEnds pass mode progress id noted (.error (.fault fault))
      (.error (.fault fault)) noted

/-- Whatever is said of a visit follows from the ways in which it can end. -/
theorem visit_ends (pass : Pass α) (mode : ResolutionMode) (progress : Progress) (id : ResourceId)
    (before : Topology) :
    ∃ result after, (pass.visit mode progress id).run before = (result, after) ∧
      pass.VisitEnds mode progress id
        (before.record (pass.compute before progress.failedIds id).trace)
        (pass.outcome before progress.failedIds id) result after := by
  unfold visit outcome
  rw [Assembly.run_bind, Assembly.run_get]
  dsimp only
  rw [show progress.failures.map (·.node) = progress.failedIds from rfl]
  obtain ⟨trace, result⟩ := pass.compute before progress.failedIds id
  rcases result with (⟨conflict | failed⟩ | fault) | _ | policies
  · cases mode with
    | failFast => exact ⟨_, _, rfl, .stopped conflict rfl⟩
    | bestEffort => exact ⟨_, _, rfl, .conflicted conflict rfl⟩
  · exact ⟨_, _, rfl, .awaits failed⟩
  · exact ⟨_, _, rfl, .faulted fault⟩
  · exact ⟨_, _, rfl, .skipped⟩
  · exact ⟨_, _, rfl, .resolved policies⟩

/-- A visit enters the outcome of a node and keeps what it stores. -/
theorem run_visit (law : pass.Lawful reads held) (coherent : before.Coherent)
    (ofKind : id.nodeKind = pass.kind)
    (passes : (pass.outcome before progress.failedIds id).Passes mode) :
    ∃ after, (pass.visit mode progress id).run before =
        (.ok (progress.enter id (pass.outcome before progress.failedIds id)), after) ∧
      after.Coherent ∧ before.StoredAt pass.kind after ∧
      ∀ other, held after other = if id = other
        then (pass.outcome before progress.failedIds id).stored?.or (held before id)
        else held before other := by
  have unchanged : ∀ (topology : Topology) other, held topology = held before →
      held topology other = if id = other then held before id else held before other := by
    intro topology other same
    rw [same]
    split
    · next h => rw [h]
    · rfl
  obtain ⟨result, after, run, ends⟩ := visit_ends pass mode progress id before
  rw [run]
  generalize found : pass.outcome before progress.failedIds id = outcome at passes ends ⊢
  cases ends with
  | skipped =>
      refine ⟨_, rfl, coherent.record _, .record .., fun other => ?_⟩
      exact unchanged _ other (by rw [law.held_record])
  | resolved policies =>
      refine ⟨_, rfl, ?_, (Topology.StoredAt.record ..).trans (law.storedAt _ _ ofKind),
        fun other => ?_⟩
      · refine @law.coherent _ progress.failedIds id policies (coherent.record _) ?_
        rw [law.compute_congr coherent (.record ..)]
        exact found
      · rw [law.held_store, law.held_record]
        rfl
  | awaits failed =>
      refine ⟨_, rfl, (coherent.record _).record _,
        (Topology.StoredAt.record ..).trans (.record ..), fun other => ?_⟩
      exact unchanged _ other (by rw [law.held_record, law.held_record])
  | conflicted conflict goesOn =>
      refine ⟨_, rfl, (coherent.record _).record _,
        (Topology.StoredAt.record ..).trans (.record ..), fun other => ?_⟩
      exact unchanged _ other (by rw [law.held_record, law.held_record])
  | stopped conflict stops =>
      cases stops
      cases passes
  | faulted fault => cases passes

/-- A visit that the resolution does not go on after ends it, and only enters events. -/
theorem run_visit_of_not_passes
    (stops : ¬ (pass.outcome before progress.failedIds id).Passes mode) :
    ∃ error events,
      (pass.visit mode progress id).run before = (.error error, before.record events) := by
  obtain ⟨result, after, run, ends⟩ := visit_ends pass mode progress id before
  rw [run]
  generalize pass.outcome before progress.failedIds id = outcome at stops ends
  cases ends with
  | skipped => exact absurd trivial stops
  | resolved policies => exact absurd trivial stops
  | awaits failed => exact absurd trivial stops
  | conflicted conflict goesOn => exact absurd goesOn stops
  | stopped conflict _ => exact ⟨_, _, congrArg (Prod.mk _) (Topology.record_record ..)⟩
  | faulted fault => exact ⟨_, _, rfl⟩

theorem keeps_visit (law : pass.Lawful reads held) (ofKind : id.nodeKind = pass.kind) :
    Assembly.Keeps Topology.Coherent (pass.visit mode progress id) := by
  intro topology coherent
  by_cases passes : (pass.outcome topology progress.failedIds id).Passes mode
  · obtain ⟨after, run, kept, _⟩ := run_visit law coherent ofKind passes
    rwa [run]
  · obtain ⟨error, events, run⟩ := run_visit_of_not_passes passes
    rw [run]
    exact coherent.record events

theorem keeps_run (law : pass.Lawful reads held) (failures : List NodeFailure) :
    Assembly.Keeps Topology.Coherent (pass.run mode failures) := by
  apply Assembly.Keeps.get_bind
  intro topology
  refine Assembly.Keeps.bind (.foldlM (fun id member _ => keeps_visit law ?_) _)
    (fun _ => ?_) topology
  · exact Topology.nodeKind_of_mem_idsOf (mem_sortedIds.mp member)
  · exact (Assembly.Keeps.modify fun _ coherent => coherent.record _).bind fun _ => .pure _

/-- What the visits of some nodes come to: the outcome of each is what it would have been at the
start, and its result is held afterwards. -/
structure Visited (pass : Pass α) (held : Topology → ResourceId → Option α) (mode : ResolutionMode)
    (ids : List ResourceId) (before : Topology) (progress : Progress) (after : Topology)
    (final : Progress) : Prop where
  coherent : after.Coherent
  storedAt : before.StoredAt pass.kind after
  passes : ∀ id ∈ ids, (pass.outcome before progress.failedIds id).Passes mode
  final_eq : final = ids.foldl
    (fun progress' id => progress'.enter id (pass.outcome before progress.failedIds id)) progress
  held_eq : ∀ id, held after id =
    if id ∈ ids then (pass.outcome before progress.failedIds id).stored?.or (held before id)
    else held before id

/-- The outcome of a node is the same before and after the visit of another. -/
theorem outcome_of_visit (law : pass.Lawful reads held) (coherent : before.Coherent)
    (progress : Progress) (stored : before.StoredAt pass.kind after)
    (ofKind : id.nodeKind = pass.kind) (outcome : Outcome α) (other : ResourceId) :
    pass.outcome after (progress.enter id outcome).failedIds other =
      pass.outcome before progress.failedIds other := by
  rw [Progress.failedIds_enter]
  refine law.compute_congr coherent (.of_storedAt stored law.reads_ne ?_)
  intro failed member
  rw [Option.mem_toList, Option.map_eq_some_iff] at member
  obtain ⟨_, _, rfl⟩ := member
  exact ofKind

theorem run_visits (law : pass.Lawful reads held) (progress : Progress) {ids : List ResourceId}
    (ofKind : ∀ id ∈ ids, id.nodeKind = pass.kind) (coherent : before.Coherent)
    (passes : ∀ id ∈ ids, (pass.outcome before progress.failedIds id).Passes mode) :
    ∃ final after, (ids.foldlM (pass.visit mode) progress).run before = (.ok final, after) ∧
      pass.Visited held mode ids before progress after final := by
  induction ids generalizing before progress with
  | nil =>
      refine ⟨progress, before, rfl, coherent, .refl _, passes, rfl, fun id => ?_⟩
      rw [if_neg List.not_mem_nil]
  | cons id rest ih =>
      obtain ⟨middle, first, coherent', stored, held_middle⟩ :=
        run_visit law coherent (ofKind id List.mem_cons_self) (passes id List.mem_cons_self)
      have same := outcome_of_visit law coherent progress stored
        (ofKind id List.mem_cons_self) (pass.outcome before progress.failedIds id)
      obtain ⟨final, after, run, visited⟩ := ih _ (fun other member =>
        ofKind other (List.mem_cons_of_mem _ member)) coherent' (fun other member => by
          rw [same]
          exact passes other (List.mem_cons_of_mem _ member))
      refine ⟨final, after, ?_, visited.coherent, stored.trans visited.storedAt, passes, ?_, ?_⟩
      · rw [List.foldlM_cons, Assembly.run_bind, first]
        exact run
      · rw [visited.final_eq]
        simp only [same, List.foldl_cons]
      · intro other
        rw [visited.held_eq, same, held_middle]
        by_cases here : id = other
        · subst here
          rw [if_pos rfl, if_pos List.mem_cons_self]
          split
          · rw [← Option.or_assoc, Option.or_self]
          · rfl
        · rw [if_neg here]
          simp only [List.mem_cons, Ne.symm here, false_or]

/-- Only if every visit passes do the visits come to an end. -/
theorem passes_of_run_visits (law : pass.Lawful reads held) {ids : List ResourceId}
    (ofKind : ∀ id ∈ ids, id.nodeKind = pass.kind) (coherent : before.Coherent)
    (run : (ids.foldlM (pass.visit mode) progress).run before = (.ok final, after)) :
    ∀ id ∈ ids, (pass.outcome before progress.failedIds id).Passes mode := by
  induction ids generalizing before progress with
  | nil => exact fun _ member => nomatch member
  | cons id rest ih =>
      rw [List.foldlM_cons, Assembly.run_bind_ok_iff] at run
      obtain ⟨progress', middle, first, run⟩ := run
      by_cases passes : (pass.outcome before progress.failedIds id).Passes mode
      · obtain ⟨_, visit, coherent', stored, _⟩ :=
          run_visit law coherent (ofKind id List.mem_cons_self) passes
        rw [visit] at first
        cases first
        have others := ih (fun other member => ofKind other (List.mem_cons_of_mem _ member))
          coherent' run
        intro other member
        rcases List.mem_cons.mp member with rfl | member
        · exact passes
        · rw [← outcome_of_visit law coherent progress stored (ofKind id List.mem_cons_self)]
          exact others other member
      · obtain ⟨error, _, visit⟩ := run_visit_of_not_passes passes
        rw [visit] at first
        exact nomatch congrArg Prod.fst first

/-- A whole run visits all nodes of the kind in order of identity. -/
theorem visited_of_run (law : pass.Lawful reads held) (coherent : before.Coherent)
    {failures : List NodeFailure}
    (run : (pass.run mode failures).run before = (.ok final, after)) :
    pass.Visited held mode (sortedIds (before.idsOf pass.kind)) before ⟨⟨0, 0⟩, failures⟩ after
      final := by
  have ofKind : ∀ id ∈ sortedIds (before.idsOf pass.kind), id.nodeKind = pass.kind :=
    fun _ => nodeKind_of_mem_visited
  obtain ⟨_, _, start, run⟩ := Assembly.run_bind_ok_iff.mp run
  cases start
  obtain ⟨progress, middle, visits, last⟩ := Assembly.run_bind_ok_iff.mp run
  obtain ⟨_, _, visits', visited⟩ := run_visits law _ ofKind coherent
    (passes_of_run_visits law ofKind coherent visits)
  rw [visits] at visits'
  cases visits'
  cases last
  exact {
    coherent := visited.coherent.record _
    storedAt := visited.storedAt.trans (.record ..)
    passes := visited.passes
    final_eq := visited.final_eq
    held_eq := fun id => by rw [law.held_record, visited.held_eq] }

theorem run_of_passes (law : pass.Lawful reads held) (coherent : before.Coherent)
    (failures : List NodeFailure)
    (passes : ∀ id ∈ before.idsOf pass.kind,
      (pass.outcome before (failures.map (·.node)) id).Passes mode) :
    ∃ final after, (pass.run mode failures).run before = (.ok final, after) := by
  obtain ⟨final, middle, visits, _⟩ := run_visits law ⟨⟨0, 0⟩, failures⟩
    (fun _ => nodeKind_of_mem_visited) coherent
    (fun id member => passes id (mem_sortedIds.mp member))
  refine ⟨final,
    middle.record [.passCompleted pass.kind final.tally.resolved final.tally.skipped], ?_⟩
  unfold run
  rw [Assembly.run_bind, Assembly.run_get]
  dsimp only
  rw [Assembly.run_bind, visits]
  rfl

end Pass

end PolicyTopology
