import PolicyTopology.Proofs.Topology.Assembly
import PolicyTopology.Topology.Inherited

/-!
# What work on a topology may change

Attachment enters events, leaves policies out and holds policies at their targets; resolution enters
events and stores results; inheritance stores what nodes inherit. A property of topologies that
survives these small changes survives the whole work, whether or not the work succeeds.
-/

namespace PolicyTopology

namespace Topology

variable {property : Topology → Prop} {topology : Topology} {policy : Policy}
  {id target : ResourceId}

/-- What becomes of a policy whose reference is read: its attachment to the node that carries it, or
why there is none. -/
def place (topology : Topology) (policy : Policy) (id : ResourceId) (reference : ObjectRef) :
    Except Diagnostic Attachment :=
  match reference.targetKind? with
  | none => .error (.unsupportedTarget id reference.group reference.kind)
  | some kind =>
    if topology.nodes.contains (kind.resolver.targetId reference) then
      .ok (.single policy kind.resolver.backReference (kind.resolver.targetId reference))
    else .error (.missingTarget id (kind.resolver.targetId reference))

def placement (topology : Topology) (policy : Policy) :
    Except ShapeError (ResourceId × Except Diagnostic Attachment) := do
  let reference ← policy.target
  let id ← policy.id
  return (id, topology.place policy id reference)

theorem placement_of_readable {reference : ObjectRef} (topology : Topology)
    (reading : policy.target = .ok reference) (identity : policy.id = .ok id) :
    topology.placement policy = .ok (id, topology.place policy id reference) := by
  unfold placement
  rw [reading, identity]
  rfl

/-- A policy that cannot be read changes nothing, one without a place is left out, and another is
held there unless one of its identity is held already. -/
theorem run_attach (policy : Policy) (topology : Topology) :
    (attach policy).run topology =
      match topology.placement policy with
      | .error error => (.error error, topology)
      | .ok (_, .error diagnostic) => (.ok .dropped, topology.leaveOut diagnostic)
      | .ok (id, .ok attachment) =>
        if topology.policies.contains id then
          (.ok (.alreadyAttached id), topology.record [.alreadyAttached id])
        else (.ok (.attached id), topology.hold id attachment) := by
  cases reading : policy.target with
  | error error =>
      unfold attach placement
      rw [Assembly.run_bind, Assembly.run_lift, reading]
      rfl
  | ok reference =>
      cases identity : policy.id with
      | error error =>
          unfold attach placement
          rw [Assembly.run_bind, Assembly.run_lift, reading, identity]
          dsimp only
          cases reference.targetKind? <;> rfl
      | ok id =>
          rw [placement_of_readable topology reading identity]
          unfold attach
          rw [Assembly.run_bind, Assembly.run_lift, reading]
          dsimp only
          unfold place
          cases reference.targetKind? with
          | none =>
              rw [Assembly.run_bind, Assembly.run_lift, identity]
              rfl
          | some kind =>
              dsimp only
              rw [Assembly.run_bind, Assembly.run_lift, identity]
              dsimp only
              rw [Assembly.run_bind, Assembly.run_get]
              dsimp only
              rw [hasNode, kind.nodeKind_targetId, decide_eq_true rfl, Bool.true_and]
              cases topology.nodes.contains (kind.resolver.targetId reference) with
              | false => rfl
              | true =>
                  simp only [Bool.not_true, Bool.false_eq_true, if_false, if_true]
                  split <;> rfl

theorem readable_of_placement {place : Except Diagnostic Attachment}
    (h : topology.placement policy = .ok (id, place)) :
    policy.id = .ok id ∧ ∃ reference, policy.target = .ok reference := by
  unfold placement at h
  cases reading : policy.target with
  | error error =>
      rw [reading] at h
      cases h
  | ok reference =>
      cases identity : policy.id with
      | error error =>
          rw [reading, identity] at h
          cases h
      | ok other =>
          rw [reading, identity] at h
          cases h
          exact ⟨rfl, reference, rfl⟩

/-- A policy with a place is attached by the back-reference for the kind of target that its
reference names, and the target is there. -/
theorem exists_of_placement {attachment : Attachment}
    (h : topology.placement policy = .ok (id, .ok attachment)) :
    ∃ reference kind, policy.target = .ok reference ∧ reference.targetKind? = some kind ∧
      topology.nodes.contains (kind.resolver.targetId reference) = true ∧
      attachment =
        .single policy kind.resolver.backReference (kind.resolver.targetId reference) := by
  obtain ⟨identity, reference, reading⟩ := readable_of_placement h
  rw [placement_of_readable topology reading identity, Except.ok.injEq, Prod.mk.injEq] at h
  have place := h.2
  unfold Topology.place at place
  split at place
  · cases place
  · next kind found =>
    split at place
    · next present =>
      cases place
      exact ⟨reference, kind, reading, found, present, rfl⟩
    · cases place

theorem policy_of_placement {attachment : Attachment}
    (h : topology.placement policy = .ok (id, .ok attachment)) : attachment.policy = policy := by
  obtain ⟨_, _, _, _, _, rfl⟩ := exists_of_placement h
  rfl

/-- A property that offering a policy leaves true. A policy is held only at a node, under its own
identity, and if no policy of that identity is there. -/
structure SurvivesAttachment (property : Topology → Prop) : Prop where
  record : ∀ {topology} events, property topology → property (topology.record events)
  leaveOut : ∀ {topology} diagnostic, property topology → property (topology.leaveOut diagnostic)
  hold : ∀ {topology : Topology} {id policy attachment}, property topology →
    topology.placement policy = .ok (id, .ok attachment) → topology.policies.get? id = none →
    property (topology.hold id attachment)

theorem SurvivesAttachment.attach (h : SurvivesAttachment property) (policy : Policy) :
    Assembly.Keeps property (Topology.attach policy) := by
  intro topology holds
  rw [run_attach]
  split
  · exact holds
  · exact h.leaveOut _ holds
  · next placed =>
    split
    · exact h.record _ holds
    · next fresh =>
      exact h.hold holds placed (by simpa [Table.contains_eq_isSome] using fresh)

theorem SurvivesAttachment.attachAll (h : SurvivesAttachment property) (policies : List Policy) :
    Assembly.Keeps property (Topology.attachAll policies) := by
  apply Assembly.Keeps.get_bind
  intro topology
  refine Assembly.Keeps.bind (.mapM h.attach policies) (fun outcomes => ?_) topology
  exact .get_bind fun _ holds => h.record _ holds

end Topology

/-- A visit leaves a property true that events and what it stores for the node leave true. -/
theorem Pass.keeps_visit_of {α : Type} {property : Topology → Prop} {pass : Pass α}
    {id : ResourceId}
    (record : ∀ {topology} events, property topology → property (topology.record events))
    (store : ∀ {topology} policies, property topology → property (pass.store topology id policies))
    (mode : ResolutionMode) (progress : Progress) :
    Assembly.Keeps property (pass.visit mode progress id) := by
  apply Assembly.Keeps.get_bind
  intro topology holds
  generalize pass.compute topology (progress.failures.map (·.node)) id = work
  obtain ⟨trace, (⟨_ | _⟩ | fault) | _ | policies⟩ := work
  · cases mode <;> exact record _ (record _ holds)
  · exact record _ (record _ holds)
  · exact record _ holds
  · exact record _ holds
  · exact store _ (record _ holds)

theorem Pass.keeps_run_of {α : Type} {property : Topology → Prop} {pass : Pass α}
    (record : ∀ {topology} events, property topology → property (topology.record events))
    (store : ∀ {topology} id policies, property topology →
      property (pass.store topology id policies))
    (mode : ResolutionMode) (failures : List NodeFailure) :
    Assembly.Keeps property (pass.run mode failures) := by
  apply Assembly.Keeps.get_bind
  intro topology
  refine Assembly.Keeps.bind (.foldlM (fun id _ progress => ?_) _) (fun _ => ?_) topology
  · exact keeps_visit_of record (store id) mode progress
  · exact (Assembly.Keeps.modify fun _ holds => record _ holds).bind fun _ => .pure _

namespace Topology

variable {property : Topology → Prop}

/-- A property that the passes of a resolution leave true. -/
structure SurvivesResolution (property : Topology → Prop) : Prop where
  record : ∀ {topology} events, property topology → property (topology.record events)
  effective : ∀ {topology} effective, property topology → property { topology with effective }
  partitions : ∀ {topology} partitions, property topology → property { topology with partitions }

theorem SurvivesResolution.resolve (h : SurvivesResolution property) (merger : PolicyMerger)
    (mode : ResolutionMode) : Assembly.Keeps property (Topology.resolve merger mode) := by
  have store : ∀ {topology} id partitions, property topology →
      property (Pass.storePartitions topology id partitions) :=
    fun {topology} id partitions holds => h.partitions (topology.partitions.set id partitions) holds
  refine Assembly.Keeps.bind (Pass.keeps_run_of h.record (fun {topology} id policies holds =>
    h.effective (topology.effective.set id policies) holds) mode _) fun _ => ?_
  refine Assembly.Keeps.bind (Pass.keeps_run_of h.record store mode _) fun _ => ?_
  exact (Pass.keeps_run_of h.record store mode _).bind fun _ => .pure _

/-- A connection joins its ends or is left out. -/
theorem connect_keeps {topology : Topology}
    (leaveOut : ∀ diagnostic, property topology → property (topology.leaveOut diagnostic))
    (link : ∀ edge source target, property topology → property (topology.link edge source target))
    (holds : property topology) (edge : Edge) (source target : ResourceId) :
    property (topology.connect edge source target) := by
  unfold connect
  split
  · exact leaveOut _ holds
  · split
    · exact leaveOut _ holds
    · exact link _ _ _ holds

theorem inheritAll_keeps
    (change : ∀ {topology} inherited, property topology → property { topology with inherited })
    (holds : property topology) (kind : NodeKind)
    (inherits : Topology → ResourceId → List ResourceId) :
    property (topology.inheritAll kind inherits) := by
  unfold inheritAll
  generalize topology.idsOf kind = ids
  induction ids generalizing topology with
  | nil => exact holds
  | cons id rest ih => exact ih (change _ holds)

theorem inherit_keeps
    (record : ∀ {topology} events, property topology → property (topology.record events))
    (change : ∀ {topology} inherited, property topology → property { topology with inherited })
    (holds : property topology) : property topology.inherit :=
  record _ (inheritAll_keeps change (inheritAll_keeps change
    (inheritAll_keeps change holds _ _) _ _) _ _)

end Topology

end PolicyTopology
