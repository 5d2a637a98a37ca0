import PolicyTopology.Proofs.Topology.Attached
import PolicyTopology.Proofs.Topology.FailureClosure
import PolicyTopology.Proofs.Topology.Journal

/-!
# Counters, diagnostics and state

The counters of a topology say what its state says. There is one increase for each attached policy,
under the kind of its target, one for each omission, under what was missing or the edge, and one for
each computation that ended in a conflict, under the kind of the node. The entry of a batch says how
many of its policies were attached, were attached before and were left out.
-/

namespace PolicyTopology

theorem NodeKind.name_inj {first second : NodeKind} : first.name = second.name ↔ first = second :=
  ⟨name_injective, congrArg name⟩

theorem NodeKind.name_ne_unsupported (kind : NodeKind) : kind.name ≠ "unsupported" := by
  cases kind <;> decide

theorem Edge.name_inj {first second : Edge} : first.name = second.name ↔ first = second := by
  cases first <;> cases second <;> decide

namespace Diagnostic

def edge? : Diagnostic → Option Edge
  | .missingEndpoint edge _ _ => some edge
  | _ => none

/-- A policy was left out because there is no node of this kind for it. -/
def LacksTarget (kind : NodeKind) (diagnostic : Diagnostic) : Prop :=
  diagnostic.reason = "policy_target_missing" ∧
    diagnostic.missing?.map (·.nodeKind) = some kind

instance (kind : NodeKind) : DecidablePred (LacksTarget kind) :=
  fun _ => inferInstanceAs (Decidable (_ ∧ _))

end Diagnostic

/-! ### What is counted -/

namespace Event

variable (event : Event) (kind : NodeKind)

theorem counts_attached_iff : event.counter? = some (.policiesAttached, kind.name) ↔
    ∃ told ∈ event.attachment?, told.2.nodeKind = kind := by
  cases event with
  | attached policy target => simp [counter?, attachment?, NodeKind.name_inj]
  | omitted diagnostic => cases diagnostic <;> simp [counter?, attachment?]
  | _ => simp [counter?, attachment?]

theorem counts_dropped_iff : event.counter? = some (.policiesDropped, kind.name) ↔
    ∃ told ∈ event.omission?, told.LacksTarget kind := by
  cases event with
  | omitted diagnostic =>
      cases diagnostic <;>
        simp [counter?, omission?, Diagnostic.LacksTarget, Diagnostic.reason, Diagnostic.missing?,
          NodeKind.name_inj, kind.name_ne_unsupported.symm]
  | _ => simp [counter?, omission?]

theorem counts_unsupported_iff : event.counter? = some (.policiesDropped, "unsupported") ↔
    ∃ told ∈ event.omission?, told.reason = "policy_target_unsupported" := by
  cases event with
  | omitted diagnostic =>
      cases diagnostic <;>
        simp [counter?, omission?, Diagnostic.reason, NodeKind.name_ne_unsupported]
  | _ => simp [counter?, omission?]

theorem counts_skipped_iff (edge : Edge) :
    event.counter? = some (.connectionsSkipped, edge.name) ↔
      ∃ told ∈ event.omission?, told.edge? = some edge := by
  cases event with
  | omitted diagnostic =>
      cases diagnostic <;> simp [counter?, omission?, Diagnostic.edge?, Edge.name_inj]
  | _ => simp [counter?, omission?]

theorem counts_conflict_iff : event.counter? = some (.mergeConflicts, kind.name) ↔
    ∃ told ∈ event.conflict?, told.1.nodeKind = kind := by
  cases event with
  | conflicted node conflict => simp [counter?, conflict?, NodeKind.name_inj]
  | omitted diagnostic => cases diagnostic <;> simp [counter?, conflict?]
  | _ => simp [counter?, conflict?]

end Event

/-- A counter counts what its events tell of. -/
theorem Counter.total_eq_countP {β : Type} {counter : Counter} {label : String}
    {read : Event → Option β} {holds : β → Prop} [DecidablePred holds]
    (h : ∀ event : Event, event.counter? = some (counter, label) ↔ ∃ told ∈ read event, holds told)
    (journal : List Event) :
    counter.total label journal = (journal.filterMap read).countP (decide <| holds ·) := by
  rw [total, List.countP_filterMap]
  refine List.countP_congr fun event _ => ?_
  rw [decide_eq_true_iff, h]
  cases read event <;> simp

/-- The conflicts of computations are those of the ones that ended in a conflict. -/
theorem countP_conflict? (computations : List Computation) (kind : NodeKind) :
    (computations.filterMap Computation.conflict?).countP (·.1.nodeKind = kind) =
      computations.countP fun computation =>
        computation.node.nodeKind = kind ∧ computation.conflict?.isSome = true := by
  rw [List.countP_filterMap]
  refine List.countP_congr fun computation _ => ?_
  obtain ⟨node, _ | ⟨conflict⟩ | dependency⟩ := computation <;> simp [Computation.conflict?]

namespace Topology

variable {topology before middle after : Topology} {computations : List Computation}
  {policy : Policy} {policies : List Policy} {outcome : AttachOutcome}
  {outcomes : List AttachOutcome}

/-- The counters of a topology say what its policies, its diagnostics and the computations of its
resolutions say. -/
structure CountersTold (topology : Topology) (computations : List Computation) : Prop where
  /-- Attached policies are counted under the kind of their target. -/
  attached : ∀ kind : NodeKind, Counter.policiesAttached.total kind.name topology.journal =
    topology.policies.values.countP (·.target.nodeKind = kind)
  /-- Policies whose target is missing are counted under the kind of the target. -/
  dropped : ∀ kind : NodeKind, Counter.policiesDropped.total kind.name topology.journal =
    topology.diagnostics.countP (·.LacksTarget kind)
  /-- Policies whose target can carry none have a label of their own. -/
  unsupported : Counter.policiesDropped.total "unsupported" topology.journal =
    topology.diagnostics.countP (·.reason = "policy_target_unsupported")
  /-- Connections that were left out are counted under their edge. -/
  skipped : ∀ edge : Edge, Counter.connectionsSkipped.total edge.name topology.journal =
    topology.diagnostics.countP (·.edge? = some edge)
  /-- Computations that ended in a conflict are counted under the kind of their node, and others,
  such as those that failed with a dependency, are not. -/
  conflicts : ∀ kind : NodeKind, Counter.mergeConflicts.total kind.name topology.journal =
    computations.countP fun computation =>
      computation.node.nodeKind = kind ∧ computation.conflict?.isSome = true

theorem Tells.countersTold (tells : topology.Tells computations) :
    topology.CountersTold computations where
  attached kind := by
    rw [Counter.total_eq_countP (Event.counts_attached_iff · kind), tells.attached, placements,
      Table.values, List.countP_map, List.countP_map]
    rfl
  dropped kind := by
    rw [Counter.total_eq_countP (Event.counts_dropped_iff · kind), tells.omitted]
  unsupported := by
    rw [Counter.total_eq_countP Event.counts_unsupported_iff, tells.omitted]
  skipped edge := by
    rw [Counter.total_eq_countP (Event.counts_skipped_iff · edge), tells.omitted]
  conflicts kind := by
    rw [Counter.total_eq_countP (Event.counts_conflict_iff · kind), tells.conflicted,
      countP_conflict?]

end Topology

/-! ### Batches -/

namespace AttachOutcome

def attached? : AttachOutcome → Option ResourceId
  | .attached id => some id
  | _ => none

def alreadyAttached? : AttachOutcome → Option ResourceId
  | .alreadyAttached id => some id
  | _ => none

theorem length_eq_sum (outcomes : List AttachOutcome) :
    (outcomes.filterMap attached?).length + (outcomes.filterMap alreadyAttached?).length +
      outcomes.count .dropped = outcomes.length := by
  induction outcomes with
  | nil => rfl
  | cons outcome rest ih =>
      cases outcome <;>
        simp only [List.filterMap_cons, attached?, alreadyAttached?, List.length_cons,
          List.count_cons, beq_iff_eq, reduceCtorEq, if_true, if_false] <;>
        omega

end AttachOutcome

namespace Topology

variable {before middle after : Topology} {policy : Policy} {policies : List Policy}
  {outcome : AttachOutcome} {outcomes : List AttachOutcome}

/-- What becomes of an offered policy that can be read. -/
inductive OfferEnds (before : Topology) (policy : Policy) : AttachOutcome → Topology → Prop
  /-- It has no place and is left out. -/
  | dropped {id diagnostic} (placed : before.placement policy = .ok (id, .error diagnostic)) :
    OfferEnds before policy .dropped (before.leaveOut diagnostic)
  /-- A policy of its identity is attached, and stays. -/
  | alreadyAttached {id attachment} (placed : before.placement policy = .ok (id, .ok attachment))
    (present : before.policies.contains id = true) :
    OfferEnds before policy (.alreadyAttached id) (before.record [.alreadyAttached id])
  /-- None of its identity is attached, and it is held at its place. -/
  | attached {id attachment} (placed : before.placement policy = .ok (id, .ok attachment))
    (absent : before.policies.contains id = false) :
    OfferEnds before policy (.attached id) (before.hold id attachment)

/-- What becomes of policies that are offered one after the other. -/
inductive OffersEnd : Topology → List Policy → List AttachOutcome → Topology → Prop
  | nil (topology : Topology) : OffersEnd topology [] [] topology
  | cons {topology middle after : Topology} {policy : Policy} {policies : List Policy}
    {outcome : AttachOutcome} {outcomes : List AttachOutcome} :
    OfferEnds topology policy outcome middle → OffersEnd middle policies outcomes after →
    OffersEnd topology (policy :: policies) (outcome :: outcomes) after

theorem offerEnds_of_run (run : (attach policy).run before = (.ok outcome, after)) :
    OfferEnds before policy outcome after := by
  rw [run_attach] at run
  split at run
  · cases run
  · next placed =>
    cases run
    exact .dropped placed
  · next placed =>
    split at run
    · next present =>
      cases run
      exact .alreadyAttached placed present
    · next absent =>
      cases run
      exact .attached placed (by simpa using absent)

theorem offersEnd_of_run (run : (policies.mapM attach).run before = (.ok outcomes, after)) :
    OffersEnd before policies outcomes after := by
  induction policies generalizing before outcomes with
  | nil =>
      cases run
      exact .nil _
  | cons policy rest ih =>
      rw [List.mapM_cons] at run
      obtain ⟨outcome, middle, first, run⟩ := Assembly.run_bind_ok_iff.mp run
      obtain ⟨others, last, run, done⟩ := Assembly.run_bind_ok_iff.mp run
      cases done
      exact .cons (offerEnds_of_run first) (ih run)

namespace OfferEnds

variable (h : OfferEnds before policy outcome after)

include h

theorem keys_eq : after.policies.keys = before.policies.keys ++ outcome.attached?.toList := by
  cases h with
  | dropped placed => exact (List.append_nil _).symm
  | alreadyAttached placed present => exact (List.append_nil _).symm
  | attached placed absent => exact Entries.keys_set_of_not_contains _ absent

theorem length_diagnostics :
    after.diagnostics.length = before.diagnostics.length + [outcome].count .dropped := by
  cases h with
  | dropped placed => exact List.length_append
  | alreadyAttached placed present => rfl
  | attached placed absent => rfl

end OfferEnds

namespace OffersEnd

variable (h : OffersEnd before policies outcomes after)

include h

/-- Every policy has one outcome. -/
theorem length_eq : outcomes.length = policies.length := by
  induction h with
  | nil topology => rfl
  | cons offer rest ih => rw [List.length_cons, List.length_cons, ih]

/-- The new policies are those that came to be attached. -/
theorem keys_eq :
    after.policies.keys = before.policies.keys ++ outcomes.filterMap AttachOutcome.attached? := by
  induction h with
  | nil topology => exact (List.append_nil _).symm
  | @cons before middle after policy policies outcome outcomes offer rest ih =>
      have first := offer.keys_eq
      rw [ih, first, List.append_assoc, List.filterMap_cons]
      cases outcome.attached? <;> rfl

/-- There is a new diagnostic for each policy that was left out. -/
theorem length_diagnostics :
    after.diagnostics.length = before.diagnostics.length + outcomes.count .dropped := by
  induction h with
  | nil topology => rfl
  | @cons before middle after policy policies outcome outcomes offer rest ih =>
      rw [ih, offer.length_diagnostics, Nat.add_assoc, ← List.count_append]
      rfl

end OffersEnd

/-- What the entry of a completed batch says is so: three numbers, of the policies that were
attached, of those of which one was attached already, and of those that were left out. -/
structure BatchTold (before : Topology) (policies : List Policy) (outcomes : List AttachOutcome)
    (after : Topology) : Prop where
  /-- The batch offers its policies one after the other and then enters the numbers of their
  outcomes. -/
  logged : ∃ middle, OffersEnd before policies outcomes middle ∧
    after = middle.record [.batchAttached (outcomes.filterMap AttachOutcome.attached?).length
      (outcomes.filterMap AttachOutcome.alreadyAttached?).length (outcomes.count .dropped)
      after.policies.size]
  /-- The numbers make up the size of the batch. -/
  sum : (outcomes.filterMap AttachOutcome.attached?).length +
    (outcomes.filterMap AttachOutcome.alreadyAttached?).length + outcomes.count .dropped =
      policies.length
  /-- The attached policies are the ones that are new. -/
  attached : after.policies.keys =
    before.policies.keys ++ outcomes.filterMap AttachOutcome.attached?
  /-- The policies that were left out are the ones with a new diagnostic. -/
  dropped : after.diagnostics.length = before.diagnostics.length + outcomes.count .dropped

theorem batchTold_of_run (run : (attachAll policies).run before = (.ok (), after)) :
    ∃ outcomes, BatchTold before policies outcomes after := by
  rw [run_attachAll_eq] at run
  cases offered : (policies.mapM attach).run before with
  | mk result middle =>
      rw [offered] at run
      cases result with
      | error error => cases run
      | ok outcomes =>
          have offers := offersEnd_of_run offered
          have sum := (AttachOutcome.length_eq_sum outcomes).trans offers.length_eq
          have size : middle.policies.size - before.policies.size =
              (outcomes.filterMap AttachOutcome.attached?).length := by
            rw [← Table.length_keys, ← Table.length_keys, offers.keys_eq, List.length_append]
            omega
          have rest : policies.length - (outcomes.filterMap AttachOutcome.attached?).length -
              outcomes.count .dropped =
                (outcomes.filterMap AttachOutcome.alreadyAttached?).length := by
            omega
          simp only [size, rest] at run
          cases run
          exact ⟨outcomes, ⟨middle, offers, rfl⟩, sum, offers.keys_eq, offers.length_diagnostics⟩

/-- After any operations the counters say what the state says, and every batch that was completed
says what became of its policies. Nothing that is counted may have been noted by hand. -/
theorem counters_tell_state (operations : List Operation)
    (uncounted : ∀ event, .note event ∈ operations → event.Uncounted) :
    CountersTold (operations.foldl Operation.apply .empty)
        (Operation.allComputations .empty operations) ∧
      ∀ former policies rest after, operations = former ++ .attachAll policies :: rest →
        (attachAll policies).run (former.foldl Operation.apply .empty) = (.ok (), after) →
        ∃ outcomes, BatchTold (former.foldl Operation.apply .empty) policies outcomes after :=
  ⟨(Tells.empty.applyAll operations uncounted).countersTold,
    fun _ _ _ _ _ run => batchTold_of_run run⟩

def unsettled : List Operation :=
  [.insert (.gatewayClass ⟨"c", ""⟩), .insert (.gateway ⟨"n", "g", "c"⟩),
    .insert (.httpRoute ⟨"n", "r", [], []⟩), .note (.parentIgnored (.httpRoute "n" "r") "Service"),
    .connect .gatewayClass (.gateway "n" "g") (.gatewayClass "c"),
    .connect .gatewayNameSpace (.gateway "n" "g") (.ofNamespace "n"),
    .connect .routeGateway (.httpRoute "n" "r") (.gateway "n" "g")]

/-- A quota for the missing namespace, and one for the class that is offered twice. -/
def quotas : List Policy := [quotaOn toNameSpace "p", quotaOn toClass "q", quotaOn toClass "q"]

def refusing : PolicyMerger where
  mergeLevel _ := Traced.fail (.conflict ⟨⟨"", ""⟩, .refused "refused"⟩)
  overlay _ _ := Traced.fail (.conflict ⟨⟨"", ""⟩, .refused "refused"⟩)
  reconcile _ _ := Traced.fail (.conflict ⟨⟨"", ""⟩, .refused "refused"⟩)

/-- The quotas are attached, and a merger that refuses everything resolves twice. -/
def refusedTwice : List Operation :=
  unsettled ++
    [.attachAll quotas, .resolve refusing .bestEffort, .resolve refusing .failFast]

theorem counters_tell_state_refusedTwice :
    (∀ event, .note event ∈ refusedTwice → event.Uncounted) ∧
      CountersTold (refusedTwice.foldl Operation.apply .empty)
        (Operation.allComputations .empty refusedTwice) ∧
      (∃ outcomes after, BatchTold (unsettled.foldl Operation.apply .empty) quotas outcomes after) ∧
      Counter.mergeConflicts.total "Gateway"
        (refusedTwice.foldl Operation.apply .empty).journal = 2 ∧
      Counter.mergeConflicts.total "HTTPRoute"
        (refusedTwice.foldl Operation.apply .empty).journal = 0 := by
  have uncounted : ∀ event, .note event ∈ refusedTwice → event.Uncounted := by
    intro event noted
    simp only [refusedTwice, unsettled, List.cons_append, List.nil_append, List.mem_cons,
      reduceCtorEq, Operation.note.injEq, List.not_mem_nil, false_or, or_false] at noted
    rw [noted]
    rfl
  obtain ⟨told, batches⟩ := counters_tell_state refusedTwice uncounted
  have readable : ((attachAll quotas).run (unsettled.foldl Operation.apply .empty)).1 = .ok () := by
    rfl
  obtain ⟨outcomes, batch⟩ := batches unsettled quotas
    [.resolve refusing .bestEffort, .resolve refusing .failFast] _ rfl (Prod.ext readable rfl)
  exact ⟨uncounted, told, ⟨outcomes, _, batch⟩, by decide +kernel, by decide +kernel⟩

end Topology

end PolicyTopology
