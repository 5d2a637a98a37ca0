import PolicyTopology.Proofs.Topology.Counters

/-!
# Attachment is atomic

A policy may be malformed in any of its parts, and a part is read only when it is asked for. All of
them are read before anything is written: an offer that fails leaves the topology as it was, log
included, and any other offer makes exactly one change. Either the policy is entered at its one
target and among all policies, or one of its identity is there and nothing happens, or one
diagnostic says why it was left out. A batch that fails has offered the policies before the
malformed one and nothing else.
-/

namespace PolicyTopology

theorem Counter.total_concat (counter : Counter) (label : String) (journal : List Event)
    (event : Event) : counter.total label (journal ++ [event]) =
      counter.total label journal + if event.counter? = some (counter, label) then 1 else 0 := by
  simp [total, List.countP_append, List.countP_cons]

/-- One of three statements holds, and no other one. -/
def ExactlyOne (first second third : Prop) : Prop :=
  (first ∧ ¬ second ∧ ¬ third) ∨ (¬ first ∧ second ∧ ¬ third) ∨ (¬ first ∧ ¬ second ∧ third)

namespace Topology

variable {before after : Topology} {policy : Policy} {policies : List Policy}
  {id target : ResourceId} {outcome : AttachOutcome} {diagnostic : Diagnostic}

/-- Nothing has changed but the log, in which no counter has moved. -/
structure Unchanged (before after : Topology) : Prop where
  rest : after = { before with journal := after.journal }
  counters : ∀ (counter : Counter) (label : String),
    counter.total label after.journal = counter.total label before.journal

/-- A policy whose identity was not known has been entered, at one node and among all policies, and
counted once. -/
structure GainsPolicy (before : Topology) (id : ResourceId) (policy : Policy)
    (target : ResourceId) (after : Topology) : Prop where
  identity : policy.id = .ok id
  absent : before.policies.get? id = none
  unattached : ∀ other, id ∉ before.policyIdsOn other
  place : before.PlacedAt policy target
  policies : ∃ kind, after.policies = before.policies.set id (.single policy kind target)
  keys : after.policies.keys = before.policies.keys ++ [id]
  policyIdsOn : ∀ other, after.policyIdsOn other =
    if other = target then before.policyIdsOn target ++ [id] else before.policyIdsOn other
  rest : after = { before with
    policies := after.policies
    attached := after.attached
    journal := after.journal }
  counters : ∀ (counter : Counter) (label : String), counter.total label after.journal =
    counter.total label before.journal +
      if (counter, label) = (.policiesAttached, target.nodeKind.name) then 1 else 0

/-- One diagnostic has been added, and counted once. -/
structure GainsDiagnostic (before : Topology) (diagnostic : Diagnostic) (after : Topology) :
    Prop where
  diagnostics : after.diagnostics = before.diagnostics ++ [diagnostic]
  rest : after = { before with diagnostics := after.diagnostics, journal := after.journal }
  counters : ∀ (counter : Counter) (label : String), counter.total label after.journal =
    counter.total label before.journal +
      if (Event.omitted diagnostic).counter? = some (counter, label) then 1 else 0

theorem GainsPolicy.not_unchanged (h : before.GainsPolicy id policy target after) :
    ¬ before.Unchanged after := by
  intro unchanged
  have absent := h.absent
  obtain ⟨kind, policies⟩ := h.policies
  rw [unchanged.rest] at policies
  rw [show before.policies = before.policies.set id (.single policy kind target) from policies,
    Table.get?_set_self] at absent
  cases absent

theorem GainsDiagnostic.ne_diagnostics (h : before.GainsDiagnostic diagnostic after) :
    after.diagnostics ≠ before.diagnostics := by
  rw [h.diagnostics]
  simp

theorem GainsDiagnostic.not_unchanged (h : before.GainsDiagnostic diagnostic after) :
    ¬ before.Unchanged after :=
  fun unchanged => h.ne_diagnostics (by rw [unchanged.rest])

theorem GainsDiagnostic.not_gainsPolicy (h : before.GainsDiagnostic diagnostic after) :
    ¬ before.GainsPolicy id policy target after :=
  fun gains => h.ne_diagnostics (by rw [gains.rest])

theorem unchanged_record (topology : Topology) (event : Event) (uncounted : event.Uncounted) :
    topology.Unchanged (topology.record [event]) where
  rest := rfl
  counters counter label := by
    rw [record, Counter.total_concat, uncounted]
    rfl

theorem gainsDiagnostic_leaveOut (topology : Topology) (diagnostic : Diagnostic) :
    topology.GainsDiagnostic diagnostic (topology.leaveOut diagnostic) where
  diagnostics := rfl
  rest := rfl
  counters _ _ := Counter.total_concat ..

theorem gainsPolicy_hold {attachment : Attachment} (coherent : before.Coherent)
    (placed : before.placement policy = .ok (id, .ok attachment))
    (absent : before.policies.contains id = false) :
    before.GainsPolicy id policy attachment.target (before.hold id attachment) where
  identity := (readable_of_placement placed).1
  absent := by simpa [Table.contains_eq_isSome] using absent
  unattached other member := by
    obtain ⟨attachment, held, _⟩ := coherent.attached_iff.mp member
    rw [Table.contains_eq_isSome, held] at absent
    cases absent
  place := placedAt_of_placement placed
  policies := by
    obtain ⟨reference, kind, _, _, _, rfl⟩ := exists_of_placement placed
    rw [Attachment.target_single]
    exact ⟨_, rfl⟩
  keys := Entries.keys_set_of_not_contains _ absent
  policyIdsOn other := by
    have fresh : id ∉ before.policyIdsOn attachment.target := by
      intro member
      obtain ⟨attachment, held, _⟩ := coherent.attached_iff.mp member
      rw [Table.contains_eq_isSome, held] at absent
      cases absent
    simp only [Topology.policyIdsOn, hold, Table.get?_set, eq_comm (a := attachment.target)]
    split
    · exact if_neg fresh
    · rfl
  rest := rfl
  counters counter label := by
    simp [hold, Counter.total_concat, Event.counter?, eq_comm]

/-- How an offer ends. It fails exactly if the policy cannot be read, and then nothing has happened.
Otherwise its outcome tells which one change it has made. -/
structure AttachesAtomically (before : Topology) (policy : Policy) : Prop where
  raises_iff : (∃ error after, (attach policy).run before = (.error error, after)) ↔
    ¬ policy.Readable
  raised : ∀ {error after}, (attach policy).run before = (.error error, after) → after = before
  returned : ∀ {outcome after}, (attach policy).run before = (.ok outcome, after) →
    (∃ id target, outcome = .attached id ∧ before.GainsPolicy id policy target after) ∨
    (∃ id attachment, outcome = .alreadyAttached id ∧ policy.id = .ok id ∧
      before.policies.get? id = some attachment ∧ before.Unchanged after) ∨
    ∃ diagnostic, outcome = .dropped ∧ policy.id = .ok diagnostic.subject ∧
      before.GainsDiagnostic diagnostic after
  one_change : ∀ {outcome after}, (attach policy).run before = (.ok outcome, after) →
    ExactlyOne (∃ id target, before.GainsPolicy id policy target after) (before.Unchanged after)
      (∃ diagnostic, before.GainsDiagnostic diagnostic after)

theorem omission_of_placement (placed : before.placement policy = .ok (id, .error diagnostic)) :
    diagnostic.edge? = none ∧ diagnostic.subject = id := by
  obtain ⟨identity, reference, reading⟩ := readable_of_placement placed
  rw [placement_of_readable before reading identity, Except.ok.injEq, Prod.mk.injEq] at placed
  have place := placed.2
  unfold Topology.place at place
  split at place
  · cases place
    exact ⟨rfl, rfl⟩
  · split at place
    · cases place
    · cases place
      exact ⟨rfl, rfl⟩

theorem run_attach_error_iff :
    (∃ error after, (attach policy).run before = (.error error, after)) ↔ ¬ policy.Readable := by
  constructor
  · rintro ⟨error, after, run⟩ readable
    obtain ⟨outcome, run'⟩ := run_attach_of_readable readable before
    cases run.symm.trans run'
  · intro unreadable
    cases placed : before.placement policy with
    | ok place => exact absurd (readable_iff.mpr ⟨place.1, place.2, placed⟩) unreadable
    | error error => exact ⟨error, before, by rw [run_attach, placed]⟩

theorem eq_of_run_attach_error {error : ShapeError}
    (run : (attach policy).run before = (.error error, after)) : after = before := by
  rw [run_attach] at run
  split at run
  · exact (congrArg Prod.snd run).symm
  · cases run
  · split at run <;> cases run

/-- What the outcome of an offer says has happened. -/
theorem change_of_run_attach (coherent : before.Coherent)
    (run : (attach policy).run before = (.ok outcome, after)) :
    (∃ id target, outcome = .attached id ∧ before.GainsPolicy id policy target after) ∨
    (∃ id attachment, outcome = .alreadyAttached id ∧ policy.id = .ok id ∧
      before.policies.get? id = some attachment ∧ before.Unchanged after) ∨
    ∃ diagnostic, outcome = .dropped ∧ policy.id = .ok diagnostic.subject ∧
      before.GainsDiagnostic diagnostic after := by
  cases offerEnds_of_run run with
  | @dropped id diagnostic placed =>
      refine .inr (.inr ⟨diagnostic, rfl, ?_, gainsDiagnostic_leaveOut before diagnostic⟩)
      rw [(omission_of_placement placed).2]
      exact (readable_of_placement placed).1
  | @alreadyAttached id _ placed present =>
      rw [Table.contains_eq_isSome, Option.isSome_iff_exists] at present
      obtain ⟨attachment, held⟩ := present
      exact .inr (.inl ⟨id, attachment, rfl, (readable_of_placement placed).1, held,
        unchanged_record before (.alreadyAttached id) rfl⟩)
  | @attached id attachment placed absent =>
      exact .inl ⟨id, attachment.target, rfl, gainsPolicy_hold coherent placed absent⟩

theorem attachesAtomically (coherent : before.Coherent) (policy : Policy) :
    before.AttachesAtomically policy where
  raises_iff := run_attach_error_iff
  raised := eq_of_run_attach_error
  returned := change_of_run_attach coherent
  one_change {outcome after} run := by
    rcases change_of_run_attach coherent run with
      ⟨id, target, _, gains⟩ | ⟨id, attachment, _, _, _, unchanged⟩ | ⟨diagnostic, _, _, gains⟩
    · exact .inl ⟨⟨id, target, gains⟩, gains.not_unchanged,
        fun ⟨_, other⟩ => other.not_gainsPolicy gains⟩
    · exact .inr (.inl ⟨fun ⟨_, _, other⟩ => other.not_unchanged unchanged, unchanged,
        fun ⟨_, other⟩ => other.not_unchanged unchanged⟩)
    · exact .inr (.inr ⟨fun ⟨_, _, other⟩ => gains.not_gainsPolicy other, gains.not_unchanged,
        diagnostic, gains⟩)

/-- A batch that fails has offered the policies before the one at which it fails, one after the
other, and that one leaves the topology as it finds it. -/
theorem run_attachAll_error {error : ShapeError}
    (run : (attachAll policies).run before = (.error error, after)) :
    ∃ former policy rest outcomes, policies = former ++ policy :: rest ∧
      (former.mapM attach).run before = (.ok outcomes, after) ∧
      (attach policy).run after = (.error error, after) := by
  have unreadable : ∃ policy ∈ policies, ¬ policy.Readable := by
    by_contra none
    have readable : ∀ policy ∈ policies, policy.Readable :=
      fun policy member => by_contra fun unread => none ⟨policy, member, unread⟩
    obtain ⟨events, run'⟩ := run_attachAll_of_readable readable before
    cases run.symm.trans run'
  obtain ⟨former, policy, rest, rfl, readable, unread⟩ := Policy.exists_first_unreadable unreadable
  obtain ⟨found, placed, run'⟩ := run_attachAll_of_unreadable readable unread rest before
  obtain ⟨outcomes, offered⟩ := run_mapM_attach_of_readable readable before
  cases run.symm.trans run'
  exact ⟨former, policy, rest, outcomes, rfl, offered, by rw [run_attach, placed]⟩

/-- After any operations, an offer that fails changes nothing and any other one makes one change. A
batch that fails leaves what the policies before the malformed one leave. -/
theorem applyAll_attach_atomic (operations : List Operation) :
    (∀ policy, (operations.foldl Operation.apply .empty).AttachesAtomically policy) ∧
      ∀ policies error after,
        (attachAll policies).run (operations.foldl Operation.apply .empty) =
            (.error error, after) →
          ∃ former policy rest outcomes, policies = former ++ policy :: rest ∧
            (former.mapM attach).run (operations.foldl Operation.apply .empty) =
              (.ok outcomes, after) ∧
            (attach policy).run after = (.error error, after) :=
  ⟨attachesAtomically (Reachable.empty.applyAll operations).coherent,
    fun _ _ _ run => run_attachAll_error run⟩

/-- A quota of which everything can be read but its name, which is asked for last. -/
def nameless : Policy :=
  .manifest {
    manifest := .object [("spec", .object [("targetRef", .object [("kind", .string "Namespace"),
      ("namespace", .string "n"), ("name", .string "n")])]), ("metadata", .string "p")]
    inherited := true }

example : ((attachAll [quotaOn toNameSpace "p", nameless, quotaOn toClass "q"]).run
    (unsettled.foldl Operation.apply .empty)).1 = .error .notAnObject := by
  rfl

end Topology

end PolicyTopology
