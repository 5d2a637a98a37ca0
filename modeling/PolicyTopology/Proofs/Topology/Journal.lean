import PolicyTopology.Proofs.Topology.Reachable

/-!
# What the journal tells

Attached policies, omissions and conflicts are kept apart from the journal: policies in their table,
omissions among the diagnostics, and of conflicts only the report of their resolution knows. The
journal tells all three again, in the same order, and it tells nothing else that is counted. This is
so after any operations, also after those that fail.

What a resolution computed is not kept in the topology. It is listed beside the run, computation by
computation, up to the one that ends the resolution.
-/

namespace PolicyTopology

namespace Event

def attachment? : Event → Option (ResourceId × ResourceId)
  | .attached policy target => some (policy, target)
  | _ => none

def omission? : Event → Option Diagnostic
  | .omitted diagnostic => some diagnostic
  | _ => none

def conflict? : Event → Option (ResourceId × MergeConflict)
  | .conflicted node conflict => some (node, conflict)
  | _ => none

/-- No counter increases. -/
def Uncounted (event : Event) : Prop := event.counter? = none

namespace Uncounted

variable {event : Event} (h : event.Uncounted)

include h

theorem attachment? : event.attachment? = none := by
  cases event with
  | attached policy target => cases h
  | _ => rfl

theorem omission? : event.omission? = none := by
  cases event with
  | omitted diagnostic => cases diagnostic <;> cases h
  | _ => rfl

theorem conflict? : event.conflict? = none := by
  cases event with
  | conflicted node conflict => cases h
  | _ => rfl

end Uncounted

end Event

/-- The work on one node, done once, and the failure that it ended in, if any. -/
structure Computation where
  node : ResourceId
  failure? : Option Failure

namespace Computation

/-- The conflict that a computation ended in. Failed dependencies and faults are no conflicts. -/
def conflict? (computation : Computation) : Option (ResourceId × MergeConflict) :=
  match computation.failure? with
  | some (.conflict conflict) => some (computation.node, conflict)
  | _ => none

end Computation

/-- What is listed for the rest of some work: nothing if the first part of it fails. -/
def Assembly.sequel {ε α β : Type} (work : Assembly ε α) (next : α → Topology → List β)
    (topology : Topology) : List β :=
  match work.run topology with
  | (.ok value, after) => next value after
  | (.error _, _) => []

namespace Pass

variable {α : Type}

/-- The computations of the visits to some nodes, up to one that ends the pass. -/
def computations (pass : Pass α) (mode : ResolutionMode) :
    List ResourceId → Progress → Topology → List Computation
  | [], _, _ => []
  | id :: rest, progress, topology =>
    ⟨id, (pass.outcome topology progress.failedIds id).failure?⟩ ::
      (pass.visit mode progress id).sequel (pass.computations mode rest) topology

def allComputations (pass : Pass α) (mode : ResolutionMode) (failures : List NodeFailure)
    (topology : Topology) : List Computation :=
  pass.computations mode (sortedIds (topology.idsOf pass.kind)) ⟨⟨0, 0⟩, failures⟩ topology

end Pass

def Topology.computations (merger : PolicyMerger) (mode : ResolutionMode) (topology : Topology) :
    List Computation :=
  (Pass.gateways merger).allComputations mode [] topology ++
    ((Pass.gateways merger).run mode []).sequel (fun gateways first =>
      (Pass.routes merger).allComputations mode gateways.failures first ++
        ((Pass.routes merger).run mode gateways.failures).sequel (fun routes =>
          (Pass.backends merger).allComputations mode routes.failures) first) topology

namespace Operation

def computations (topology : Topology) : Operation → List Computation
  | .resolve merger mode => topology.computations merger mode
  | _ => []

def allComputations (topology : Topology) : List Operation → List Computation
  | [] => []
  | operation :: rest =>
    operation.computations topology ++ allComputations (operation.apply topology) rest

end Operation

namespace Topology

variable {topology : Topology} {computations : List Computation} {events : List Event}

def placements (topology : Topology) : List (ResourceId × ResourceId) :=
  topology.policies.entries.map fun entry => (entry.1, entry.2.target)

/-- The journal of a topology tells the attached policies, the omissions and the conflicts of the
computations so far, each in order. -/
structure Tells (topology : Topology) (computations : List Computation) : Prop where
  attached : topology.journal.filterMap Event.attachment? = topology.placements
  omitted : topology.journal.filterMap Event.omission? = topology.diagnostics
  conflicted : topology.journal.filterMap Event.conflict? =
    computations.filterMap Computation.conflict?

/-- The computations that some work adds to what the journal tells, whether or not it fails. -/
def Adds {ε α : Type} (work : Assembly ε α) (added : Topology → List Computation) : Prop :=
  ∀ topology computations, topology.Tells computations →
    (work.run topology).2.Tells (computations ++ added topology)

namespace Tells

theorem empty : Tells .empty [] := ⟨rfl, rfl, rfl⟩

theorem still (h : topology.Tells computations) : topology.Tells (computations ++ []) := by
  rwa [List.append_nil]

/-- New entries of the journal have to tell exactly what is new. -/
theorem extend {after : Topology} {added : List Computation} (h : topology.Tells computations)
    (events : List Event) (journal : after.journal = topology.journal ++ events)
    (attached : after.placements = topology.placements ++ events.filterMap Event.attachment?)
    (omitted : after.diagnostics = topology.diagnostics ++ events.filterMap Event.omission?)
    (conflicted : added.filterMap Computation.conflict? = events.filterMap Event.conflict?) :
    after.Tells (computations ++ added) where
  attached := by rw [journal, List.filterMap_append, h.attached, attached]
  omitted := by rw [journal, List.filterMap_append, h.omitted, omitted]
  conflicted := by
    rw [journal, List.filterMap_append, h.conflicted, ← conflicted, List.filterMap_append]

/-- Without a conflict no computation is told of. -/
theorem enter {after : Topology} (h : topology.Tells computations) (events : List Event)
    (journal : after.journal = topology.journal ++ events)
    (attached : after.placements = topology.placements ++ events.filterMap Event.attachment?)
    (omitted : after.diagnostics = topology.diagnostics ++ events.filterMap Event.omission?)
    (conflicted : events.filterMap Event.conflict? = []) : after.Tells computations := by
  rw [← List.append_nil computations]
  exact h.extend events journal attached omitted conflicted.symm

theorem record (h : topology.Tells computations) (uncounted : ∀ event ∈ events, event.Uncounted) :
    (topology.record events).Tells computations := by
  have attached : events.filterMap Event.attachment? = [] :=
    List.filterMap_eq_nil_iff.mpr fun event noted => (uncounted event noted).attachment?
  have omitted : events.filterMap Event.omission? = [] :=
    List.filterMap_eq_nil_iff.mpr fun event noted => (uncounted event noted).omission?
  have conflicted : events.filterMap Event.conflict? = [] :=
    List.filterMap_eq_nil_iff.mpr fun event noted => (uncounted event noted).conflict?
  refine h.enter events rfl ?_ ?_ conflicted
  · rw [attached, List.append_nil]
    rfl
  · rw [omitted, List.append_nil]
    rfl

theorem leaveOut (h : topology.Tells computations) (diagnostic : Diagnostic) :
    (topology.leaveOut diagnostic).Tells computations :=
  h.enter [.omitted diagnostic] rfl (List.append_nil _).symm rfl rfl

theorem note (h : topology.Tells computations) (event : Event) (uncounted : event.Uncounted) :
    (topology.record [event]).Tells computations :=
  h.record fun _ noted => List.mem_singleton.mp noted ▸ uncounted

/-- A policy is told of when it is attached, and this happens once to each identity. -/
theorem hold {id : ResourceId} (h : topology.Tells computations)
    (fresh : topology.policies.contains id = false) (attachment : Attachment) :
    (topology.hold id attachment).Tells computations := by
  have entered : (topology.policies.set id attachment).entries =
      topology.policies.entries ++ [(id, attachment)] := by
    rw [Table.contains] at fresh
    simp only [Table.set, Entries.set, fresh, Bool.false_eq_true, if_false]
  refine h.enter [.attached id attachment.target] rfl ?_ (List.append_nil _).symm rfl
  rw [placements, Topology.hold, entered, List.map_append]
  rfl

/-- A conflict is told of when it is found. -/
theorem conflicts (h : topology.Tells computations) (id : ResourceId) (conflict : MergeConflict) :
    (topology.record [.conflicted id conflict]).Tells
      (computations ++ [⟨id, some (.conflict conflict)⟩]) :=
  h.extend [.conflicted id conflict] rfl (List.append_nil _).symm (List.append_nil _).symm rfl

theorem computed {computation : Computation} (h : topology.Tells computations)
    (sound : computation.conflict? = none) : topology.Tells (computations ++ [computation]) := by
  refine ⟨h.attached, h.omitted, ?_⟩
  rw [h.conflicted, List.filterMap_append, List.filterMap_cons_none sound, List.filterMap_nil,
    List.append_nil]

end Tells

namespace Adds

variable {ε α β : Type}

theorem bind {first : Assembly ε α} {next : α → Assembly ε β}
    {added : Topology → List Computation} {added' : α → Topology → List Computation}
    (h : Adds first added) (h' : ∀ value, Adds (next value) (added' value)) :
    Adds (first >>= next) fun topology => added topology ++ first.sequel added' topology := by
  intro topology computations tells
  have middle := h topology computations tells
  rw [Assembly.run_bind]
  unfold Assembly.sequel
  dsimp only
  generalize first.run topology = run at middle ⊢
  rcases run with ⟨_ | value, state⟩
  · rwa [List.append_nil]
  · rw [← List.append_assoc]
    exact h' value state _ middle

theorem then_keeps {first : Assembly ε α} {next : α → Assembly ε β}
    {added : Topology → List Computation} (h : Adds first added)
    (keeps : ∀ value computations, Assembly.Keeps (Tells · computations) (next value)) :
    Adds (first >>= next) added := by
  intro topology computations tells
  have middle := h topology computations tells
  rw [Assembly.run_bind]
  generalize first.run topology = run at middle
  rcases run with ⟨_ | value, state⟩
  · exact middle
  · exact keeps value _ state middle

end Adds

/-! ### The work on a node -/

end Topology

namespace Merging

theorem notes_atNode {α : Type} (merging : Merging α) : merging.atNode.Notes Event.Uncounted := by
  intro event noted
  obtain ⟨call, _, rfl⟩ := List.mem_map.mp noted
  rfl

end Merging

namespace Topology

variable (merger : PolicyMerger) (topology : Topology) (failed : List ResourceId) (id : ResourceId)

theorem notes_overlayLevels (ancestors ofNameSpace own : PoliciesByKind) :
    (overlayLevels merger ancestors ofNameSpace own).Notes Event.Uncounted :=
  .bind (Merging.notes_atNode _) fun _ => Merging.notes_atNode _

theorem notes_gatewayPolicies :
    (topology.gatewayPolicies merger id).Notes Event.Uncounted := by
  unfold gatewayPolicies
  cases topology.target? .gatewayClass id with
  | none => exact .bind (.note rfl) fun _ => .pure none
  | some gatewayClass =>
      refine .bind (Merging.notes_atNode _) fun ofClass => ?_
      refine .bind (Merging.notes_atNode _) fun ofNameSpace => ?_
      refine .bind (Merging.notes_atNode _) fun own => ?_
      exact .map (notes_overlayLevels merger ofClass ofNameSpace own) some

theorem notes_requireSound (dependencies : List ResourceId) :
    (requireSound failed dependencies).Notes Event.Uncounted := by
  unfold requireSound
  split
  · exact .fail _
  · exact .pure ()

theorem notes_routePartitions :
    (topology.routePartitions merger failed id).Notes Event.Uncounted := by
  refine .bind (notes_requireSound failed _) fun _ => ?_
  refine .bind (Merging.notes_atNode _) fun ofNameSpace => ?_
  refine .bind (Merging.notes_atNode _) fun own => .foldlM (fun result gateway => ?_) _ _
  cases topology.effective.get? gateway with
  | none => exact .bind (.note rfl) fun _ => .pure result
  | some policies =>
      exact .bind (notes_overlayLevels merger policies ofNameSpace own) fun _ => .pure _

theorem notes_reconcileRoutes (routes : List ResourceId) :
    (reconcileRoutes merger topology routes).Notes Event.Uncounted := by
  refine .foldlM (fun result route => ?_) routes _
  cases topology.partitions.get? route with
  | none => exact .pure result
  | some partitions =>
      exact .foldlM (fun _ _ => .bind (Merging.notes_atNode _) fun _ => .pure _) _ _

theorem notes_backendPartitions :
    (topology.backendPartitions merger failed id).Notes Event.Uncounted := by
  refine .bind (notes_requireSound failed _) fun _ => ?_
  refine .bind (Merging.notes_atNode _) fun ofNameSpace => ?_
  refine .bind (Merging.notes_atNode _) fun own => ?_
  refine .bind (notes_reconcileRoutes merger topology _) fun reconciled => ?_
  exact .foldlM (fun _ _ => .bind (notes_overlayLevels merger _ ofNameSpace own) fun _ => .pure _)
    _ _

end Topology

/-! ### Passes -/

namespace Pass

variable {α : Type} {pass : Pass α}

/-- The work on a node counts nothing, and storing its result tells nothing. -/
structure CountsOnlyConflicts (pass : Pass α) : Prop where
  notes : ∀ topology failed id, (pass.compute topology failed id).Notes Event.Uncounted
  store : ∀ {topology computations} id policies, topology.Tells computations →
    (pass.store topology id policies).Tells computations

theorem gateways_countsOnlyConflicts (merger : PolicyMerger) :
    (gateways merger).CountsOnlyConflicts where
  notes topology _ id := topology.notes_gatewayPolicies merger id
  store _ _ tells := ⟨tells.attached, tells.omitted, tells.conflicted⟩

theorem routes_countsOnlyConflicts (merger : PolicyMerger) :
    (routes merger).CountsOnlyConflicts where
  notes topology failed id := (topology.notes_routePartitions merger failed id).map some
  store _ _ tells := ⟨tells.attached, tells.omitted, tells.conflicted⟩

theorem backends_countsOnlyConflicts (merger : PolicyMerger) :
    (backends merger).CountsOnlyConflicts where
  notes topology failed id := (topology.notes_backendPartitions merger failed id).map some
  store _ _ tells := ⟨tells.attached, tells.omitted, tells.conflicted⟩

/-- A visit adds its computation, and a conflict is told of in both modes. -/
theorem adds_visit (law : pass.CountsOnlyConflicts) (mode : ResolutionMode) (progress : Progress)
    (id : ResourceId) : Topology.Adds (pass.visit mode progress id) fun topology =>
      [⟨id, (pass.outcome topology progress.failedIds id).failure?⟩] := by
  intro topology computations tells
  have told := tells.record (law.notes topology progress.failedIds id)
  obtain ⟨result, after, run, ends⟩ := visit_ends pass mode progress id topology
  rw [run]
  dsimp only
  generalize pass.outcome topology progress.failedIds id = outcome at ends ⊢
  cases ends with
  | skipped => exact told.computed rfl
  | resolved policies => exact (law.store id policies told).computed rfl
  | awaits failed => exact (told.note (.dependencyFailed id failed) rfl).computed rfl
  | conflicted conflict _ => exact told.conflicts id conflict
  | stopped conflict _ => exact told.conflicts id conflict
  | faulted fault => exact told.computed rfl

/-- Visits add their computations one after the other. -/
theorem adds_visits (law : pass.CountsOnlyConflicts) (mode : ResolutionMode)
    (ids : List ResourceId) (progress : Progress) :
    Topology.Adds (ids.foldlM (pass.visit mode) progress)
      (pass.computations mode ids progress) := by
  induction ids generalizing progress with
  | nil => exact fun _ _ tells => by rwa [computations, List.append_nil]
  | cons id rest ih =>
      rw [List.foldlM_cons]
      exact (adds_visit law mode progress id).bind ih

theorem adds_run (law : pass.CountsOnlyConflicts) (mode : ResolutionMode)
    (failures : List NodeFailure) :
    Topology.Adds (pass.run mode failures) (pass.allComputations mode failures) := by
  intro topology computations tells
  have visits := adds_visits law mode (sortedIds (topology.idsOf pass.kind)) ⟨⟨0, 0⟩, failures⟩
  refine visits.then_keeps (fun final computations => ?_) topology computations tells
  exact (Assembly.Keeps.modify fun _ tells => tells.note _ rfl).bind fun _ => .pure _

end Pass

namespace Topology

/-- A resolution adds its computations, also when one of them ends it. -/
theorem adds_resolve (merger : PolicyMerger) (mode : ResolutionMode) :
    Adds (resolve merger mode) (computations merger mode) := by
  refine .bind (Pass.adds_run (Pass.gateways_countsOnlyConflicts merger) mode []) fun gateways => ?_
  refine .bind (Pass.adds_run (Pass.routes_countsOnlyConflicts merger) mode _) fun routes => ?_
  exact (Pass.adds_run (Pass.backends_countsOnlyConflicts merger) mode _).then_keeps
    fun _ _ => .pure _

namespace Tells

variable {topology : Topology} {computations : List Computation}

theorem attach (policy : Policy) :
    Assembly.Keeps (Tells · computations) (Topology.attach policy) := by
  intro topology tells
  rw [run_attach]
  rcases topology.placement policy with error | ⟨id, diagnostic | attachment⟩
  · exact tells
  · exact tells.leaveOut diagnostic
  · dsimp only
    split
    · exact tells.note _ rfl
    · next fresh => exact tells.hold (by simpa using fresh) attachment

theorem attachAll (policies : List Policy) :
    Assembly.Keeps (Tells · computations) (Topology.attachAll policies) := by
  refine Assembly.Keeps.get_bind fun topology => ?_
  refine Assembly.Keeps.bind (.mapM attach policies) (fun outcomes => ?_) topology
  exact .get_bind fun _ tells => tells.note _ rfl

theorem connect (tells : topology.Tells computations) (edge : Edge) (source target : ResourceId) :
    (topology.connect edge source target).Tells computations :=
  @connect_keeps (Tells · computations) topology (fun diagnostic tells => tells.leaveOut diagnostic)
    (fun _ _ _ tells => ⟨tells.attached, tells.omitted, tells.conflicted⟩) tells edge source target

theorem inherit (tells : topology.Tells computations) : topology.inherit.Tells computations := by
  have stores : ∀ {topology : Topology} inherited, topology.Tells computations →
      { topology with inherited }.Tells computations :=
    fun _ tells => ⟨tells.attached, tells.omitted, tells.conflicted⟩
  have gateways := @inheritAll_keeps (Tells · computations) _ stores tells .gateway gatewayInherited
  have routes := @inheritAll_keeps (Tells · computations) _ stores gateways .httpRoute
    routeInherited
  have backends := @inheritAll_keeps (Tells · computations) _ stores routes .backend
    backendInherited
  exact backends.note _ rfl

/-- An operation adds its computations. -/
theorem apply (tells : topology.Tells computations) (operation : Operation)
    (uncounted : ∀ event, operation = .note event → event.Uncounted) :
    (operation.apply topology).Tells (computations ++ operation.computations topology) := by
  cases operation with
  | resolve merger mode => exact adds_resolve merger mode topology computations tells
  | insert resource => exact still ⟨tells.attached, tells.omitted, tells.conflicted⟩
  | connect edge source target => exact (tells.connect edge source target).still
  | note event => exact (tells.note event (uncounted event rfl)).still
  | attach policy => exact still (attach policy topology tells)
  | attachAll policies => exact still (attachAll policies topology tells)
  | inherit => exact tells.inherit.still

theorem applyAll (tells : topology.Tells computations) (operations : List Operation)
    (uncounted : ∀ event, .note event ∈ operations → event.Uncounted) :
    (operations.foldl Operation.apply topology).Tells
      (computations ++ Operation.allComputations topology operations) := by
  induction operations generalizing topology computations with
  | nil => rwa [Operation.allComputations, List.append_nil]
  | cons operation rest ih =>
      rw [Operation.allComputations, ← List.append_assoc]
      refine ih (tells.apply operation fun event same => ?_) fun event noted => ?_
      · exact uncounted event (same ▸ List.mem_cons_self)
      · exact uncounted event (List.mem_cons_of_mem _ noted)

end Tells

end Topology

end PolicyTopology
