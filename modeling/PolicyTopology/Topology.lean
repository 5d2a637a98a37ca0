import PolicyTopology.Topology.Event

/-!
# Topologies

A topology holds resources, the edges between them, the policies attached to them and what has been
resolved. Nodes never hold each other: everything is kept under identities. An edge is kept at both
of its ends. Insertion comes first, then connection, then attachment; nothing is done in retrospect,
so a node that arrives late gets no edge that was skipped before.

The state only grows. The first resource of an identity stays, and so does the first policy.
-/

namespace PolicyTopology

/-- The kinds of targets of policies. An attached policy has a back-reference for each of them. -/
inductive TargetKind where
  | gatewayClass
  | nameSpace
  | gateway
  | httpRoute
  | backend
deriving DecidableEq, Repr

/-- All kinds, in the order in which their back-references are asked for the target. -/
def TargetKind.all : List TargetKind := [.gatewayClass, .nameSpace, .gateway, .httpRoute, .backend]

/-- A policy attached to a target. -/
structure Attachment where
  policy : Policy
  /-- The back-references that are set. -/
  references : Table TargetKind ResourceId
  refers : (TargetKind.all.findSome? references.get?).isSome = true

namespace Attachment

/-- What the first back-reference that is set refers to. -/
def target (attachment : Attachment) : ResourceId :=
  (TargetKind.all.findSome? attachment.references.get?).get attachment.refers

/-- The attachment of a policy by a single back-reference. -/
def single (policy : Policy) (kind : TargetKind) (target : ResourceId) : Attachment where
  policy
  references := Table.empty.set kind target
  refers := by cases kind <;> rfl

@[simp] theorem policy_single (policy : Policy) (kind : TargetKind) (target : ResourceId) :
    (single policy kind target).policy = policy := rfl

@[simp] theorem target_single (policy : Policy) (kind : TargetKind) (target : ResourceId) :
    (single policy kind target).target = target := by
  cases kind <;> rfl

theorem get?_references_single {policy : Policy} {kind other : TargetKind}
    {target node : ResourceId} : (single policy kind target).references.get? other = some node ↔
      other = kind ∧ node = target := by
  rw [single, Table.get?_set]
  split
  · next same => simp [same, eq_comm]
  · next differ => simp [Ne.symm differ]

end Attachment

/-- Effective policies apart for each gateway through which a node is reached. -/
abbrev Partitions := Table ResourceId PoliciesByKind

/-- Resources with their edges and policies. -/
structure Topology where
  /-- The resources by identity. -/
  nodes : Table ResourceId Resource
  /-- At the source of an edge, the targets of its edges of that kind. -/
  outgoing : Table (Edge × ResourceId) (List ResourceId)
  /-- At the target of an edge, the sources of its edges of that kind. -/
  incoming : Table (Edge × ResourceId) (List ResourceId)
  /-- The attached policies by identity. -/
  policies : Table ResourceId Attachment
  /-- At a target, the policies attached to it. -/
  attached : Table ResourceId (List ResourceId)
  /-- The effective policies of gateways. -/
  effective : Table ResourceId PoliciesByKind
  /-- The effective policies of routes and backends. -/
  partitions : Table ResourceId Partitions
  /-- The inherited policies of gateways, routes and backends. -/
  inherited : Table ResourceId (List ResourceId)
  /-- What was left out, in order. -/
  diagnostics : List Diagnostic
  /-- What happened, in order. -/
  journal : List Event

/-- Add the members of `more` that are not there yet, each at the end. -/
def addMissing {α : Type} [DecidableEq α] (members more : List α) : List α :=
  more.foldl (fun all member => if member ∈ all then all else all ++ [member]) members

theorem mem_addMissing {α : Type} [DecidableEq α] {members more : List α} {x : α} :
    x ∈ addMissing members more ↔ x ∈ members ∨ x ∈ more := by
  induction more generalizing members with
  | nil => simp [addMissing]
  | cons head rest ih =>
    have step : addMissing members (head :: rest) =
        addMissing (if head ∈ members then members else members ++ [head]) rest := rfl
    rw [step, ih]
    split
    · next h =>
      constructor
      · rintro (hx | hx)
        · exact .inl hx
        · exact .inr (List.mem_cons_of_mem _ hx)
      · rintro (hx | hx)
        · exact .inl hx
        · rcases List.mem_cons.mp hx with rfl | hx
          · exact .inl h
          · exact .inr hx
    · simp only [List.mem_append, List.mem_cons, List.not_mem_nil, or_false, or_assoc]

theorem nodup_addMissing {α : Type} [DecidableEq α] {members : List α} (nodup : members.Nodup)
    (more : List α) : (addMissing members more).Nodup := by
  induction more generalizing members with
  | nil => exact nodup
  | cons head rest ih =>
      change (addMissing (if head ∈ members then members else members ++ [head]) rest).Nodup
      split
      · exact ih nodup
      · next absent =>
        refine ih (List.nodup_append.mpr ⟨nodup, by simp, ?_⟩)
        rintro _ member _ only rfl
        exact absent (List.mem_singleton.mp only ▸ member)

namespace Topology

def empty : Topology where
  nodes := .empty
  outgoing := .empty
  incoming := .empty
  policies := .empty
  attached := .empty
  effective := .empty
  partitions := .empty
  inherited := .empty
  diagnostics := []
  journal := []

def record (topology : Topology) (events : List Event) : Topology :=
  { topology with journal := topology.journal ++ events }

theorem record_record (topology : Topology) (events more : List Event) :
    (topology.record events).record more = topology.record (events ++ more) := by
  simp only [record, List.append_assoc]

def leaveOut (topology : Topology) (diagnostic : Diagnostic) : Topology :=
  { topology with
    diagnostics := topology.diagnostics ++ [diagnostic]
    journal := topology.journal ++ [.omitted diagnostic] }

/-- The identities of the nodes of a kind, in order of arrival. -/
def idsOf (topology : Topology) (kind : NodeKind) : List ResourceId :=
  topology.nodes.keys.filter fun id => id.nodeKind = kind

def hasNode (topology : Topology) (kind : NodeKind) (id : ResourceId) : Bool :=
  id.nodeKind = kind && topology.nodes.contains id

def targets (topology : Topology) (edge : Edge) (source : ResourceId) : List ResourceId :=
  (topology.outgoing.get? (edge, source)).getD []

def sources (topology : Topology) (edge : Edge) (target : ResourceId) : List ResourceId :=
  (topology.incoming.get? (edge, target)).getD []

/-- The target of an edge of which a source has one at most. -/
def target? (topology : Topology) (edge : Edge) (source : ResourceId) : Option ResourceId :=
  (topology.targets edge source).head?

/-- The namespace that a node is connected to. -/
def nameSpace? (topology : Topology) (id : ResourceId) : Option ResourceId := do
  topology.target? (← Edge.toNameSpace? id.nodeKind) id

def policyIdsOn (topology : Topology) (target : ResourceId) : List ResourceId :=
  (topology.attached.get? target).getD []

/-- The policies attached to a target, if there is a target. -/
def policiesOn (topology : Topology) (target : Option ResourceId) : List Policy :=
  match target with
  | none => []
  | some target =>
    (topology.policyIdsOn target).filterMap fun id => (topology.policies.get? id).map (·.policy)

def insert (topology : Topology) (resource : Resource) : Topology :=
  { topology with nodes := topology.nodes.insertNew resource.id resource }

def insertAll (topology : Topology) (resources : List Resource) : Topology :=
  resources.foldl insert topology

def link (topology : Topology) (edge : Edge) (source target : ResourceId) : Topology :=
  let former := if edge.isSingle then [] else topology.targets edge source
  { topology with
    outgoing := topology.outgoing.set (edge, source) (addMissing former [target])
    incoming := topology.incoming.set (edge, target)
      (addMissing (topology.sources edge target) [source]) }

/-- Connect two nodes. If an end is missing the edge is left out, and the first missing end is
named. -/
def connect (topology : Topology) (edge : Edge) (source target : ResourceId) : Topology :=
  if !topology.hasNode edge.sourceKind source then
    topology.leaveOut (.missingEndpoint edge source source)
  else if !topology.hasNode edge.targetKind target then
    topology.leaveOut (.missingEndpoint edge source target)
  else topology.link edge source target

end Topology

end PolicyTopology
