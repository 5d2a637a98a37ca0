import PolicyTopology.Proofs.Topology.Resolution
import PolicyTopology.Snapshot

/-!
# Reachable topologies

The topologies that come about from the empty one by any operations in any order: insertions,
connections, attachments and resolutions, with whatever merger and in whatever mode, and also those
that an operation leaves behind when it fails. All of them are coherent, and building from a
snapshot leaves one of them behind.
-/

namespace PolicyTopology

/-- One operation on a topology. -/
inductive Operation where
  | insert (resource : Resource)
  | connect (edge : Edge) (source target : ResourceId)
  | note (event : Event)
  | attach (policy : Policy)
  | attachAll (policies : List Policy)
  | resolve (merger : PolicyMerger) (mode : ResolutionMode)
  | inherit

/-- The topology that an operation leaves behind, also when it fails. -/
def Operation.apply (topology : Topology) : Operation → Topology
  | .insert resource => topology.insert resource
  | .connect edge source target => topology.connect edge source target
  | .note event => topology.record [event]
  | .attach policy => ((Topology.attach policy).run topology).2
  | .attachAll policies => ((Topology.attachAll policies).run topology).2
  | .resolve merger mode => ((Topology.resolve merger mode).run topology).2
  | .inherit => topology.inherit

namespace Topology

/-- Topologies that come about by operations from the empty one. -/
inductive Reachable : Topology → Prop where
  | empty : Reachable .empty
  | apply {topology : Topology} (operation : Operation) :
      Reachable topology → Reachable (operation.apply topology)

variable {topology : Topology}

theorem Coherent.resolve (merger : PolicyMerger) (mode : ResolutionMode) :
    Assembly.Keeps Coherent (Topology.resolve merger mode) := by
  refine (Pass.keeps_run (Pass.gateways_lawful merger) _).bind fun gateways => ?_
  refine (Pass.keeps_run (Pass.routes_lawful merger) _).bind fun routes => ?_
  exact (Pass.keeps_run (Pass.backends_lawful merger) _).bind fun _ => .pure _

theorem Coherent.apply (h : Coherent topology) (operation : Operation) :
    Coherent (operation.apply topology) := by
  cases operation with
  | insert resource => exact h.insert resource
  | connect edge source target => exact h.connect edge source target
  | note event => exact h.record [event]
  | attach policy => exact Coherent.attach policy topology h
  | attachAll policies => exact Coherent.attachAll policies topology h
  | resolve merger mode => exact Coherent.resolve merger mode topology h
  | inherit => exact h.inherit

/-- A property that every operation leaves true. -/
structure SurvivesOperations (property : Topology → Prop) : Prop
    extends SurvivesAttachment property, SurvivesResolution property where
  insert : ∀ {topology} resource, property topology → property (topology.insert resource)
  link : ∀ {topology} edge source target, property topology →
    property (topology.link edge source target)
  inherited : ∀ {topology} inherited, property topology → property { topology with inherited }

namespace SurvivesOperations

variable {property : Topology → Prop}

theorem apply (h : SurvivesOperations property) (holds : property topology)
    (operation : Operation) : property (operation.apply topology) := by
  cases operation with
  | insert resource => exact h.insert resource holds
  | connect edge source target => exact connect_keeps h.leaveOut h.link holds edge source target
  | note event => exact h.record [event] holds
  | attach policy => exact h.attach policy topology holds
  | attachAll policies => exact h.attachAll policies topology holds
  | resolve merger mode => exact h.resolve merger mode topology holds
  | inherit => exact inherit_keeps h.record h.inherited holds

theorem of_reachable (h : SurvivesOperations property) (empty : property .empty)
    (reachable : Reachable topology) : property topology := by
  induction reachable with
  | empty => exact empty
  | apply operation _ ih => exact h.apply ih operation

end SurvivesOperations

namespace Reachable

theorem coherent (h : Reachable topology) : Coherent topology := by
  induction h with
  | empty => exact coherent_empty
  | apply operation _ ih => exact ih.apply operation

theorem applyAll (h : Reachable topology) (operations : List Operation) :
    Reachable (operations.foldl Operation.apply topology) := by
  induction operations generalizing topology with
  | nil => exact h
  | cons operation rest ih => exact ih (h.apply operation)

/-- A resolution leads to a topology that can be reached, however it ends. -/
theorem after_resolve {after : Topology} {merger : PolicyMerger} {mode : ResolutionMode}
    {result : Except ResolutionError ResolutionReport} (h : Reachable topology)
    (run : (resolve merger mode).run topology = (result, after)) : Reachable after := by
  have reachable := h.apply (.resolve merger mode)
  change Reachable ((resolve merger mode).run topology).2 at reachable
  rwa [run] at reachable

theorem insertAll (h : Reachable topology) (resources : List Resource) :
    Reachable (topology.insertAll resources) := by
  unfold Topology.insertAll
  induction resources generalizing topology with
  | nil => exact h
  | cons resource rest ih => exact ih (h.apply (.insert resource))

theorem declare (h : Reachable topology) (declaration : Declaration) :
    Reachable (topology.declare declaration) := by
  cases declaration with
  | edge edge source target => exact h.apply (.connect edge source target)
  | foreignParent route kind => exact h.apply (.note (.parentIgnored route kind))

theorem declareAll (h : Reachable topology) (declarations : List Declaration) :
    Reachable (declarations.foldl Topology.declare topology) := by
  induction declarations generalizing topology with
  | nil => exact h
  | cons declaration rest ih => exact ih (h.declare declaration)

theorem build (snapshot : Snapshot) (merger : PolicyMerger) (mode : ResolutionMode) :
    Assembly.Keeps Reachable (Topology.build snapshot merger mode) := by
  refine (Assembly.Keeps.modify fun _ h => h.insertAll _).bind fun _ => ?_
  refine (Assembly.Keeps.modify fun _ h => h.declareAll _).bind fun _ => ?_
  refine Assembly.Keeps.bind (fun topology h => h.apply (.attachAll snapshot.policies)) fun _ => ?_
  refine Assembly.Keeps.bind (fun topology h => (h.apply (.resolve merger mode)).apply .inherit)
    fun _ => ?_
  exact (Assembly.Keeps.modify fun _ h => h.apply (.note _)).bind fun _ => .pure _

end Reachable

end Topology

end PolicyTopology
