import PolicyTopology.Topology

/-!
# Attaching policies

A policy's reference names the node that carries it. The gateway kinds and core namespaces are
recognised by group and kind; every other kind of object is taken for a backend, except that the
gateway group has no further kinds that carry policies.
-/

namespace PolicyTopology

/-- Work on a topology. When it fails, the topology stays as the work has left it. -/
abbrev Assembly (ε : Type) := ExceptT ε (StateM Topology)

/-- How the target of a policy is found, and which back-reference is set to it. -/
structure TargetResolver where
  targetId : ObjectRef → ResourceId
  nodes : NodeKind
  backReference : TargetKind

def TargetKind.resolver : TargetKind → TargetResolver
  | .gatewayClass => ⟨fun reference => .gatewayClass reference.name, .gatewayClass, .gatewayClass⟩
  | .nameSpace => ⟨fun reference => .ofNamespace reference.name, .nameSpace, .nameSpace⟩
  | .gateway => ⟨fun reference => .gateway reference.nameSpace reference.name, .gateway, .gateway⟩
  | .httpRoute =>
    ⟨fun reference => .httpRoute reference.nameSpace reference.name, .httpRoute, .httpRoute⟩
  | .backend =>
    ⟨fun reference => .backend reference.group reference.kind reference.nameSpace reference.name,
      .backend, .backend⟩

theorem TargetKind.nodeKind_targetId (kind : TargetKind) (reference : ObjectRef) :
    (kind.resolver.targetId reference).nodeKind = kind.resolver.nodes := by
  cases kind <;> rfl

namespace ObjectRef

/-- The kind of target that a policy's reference names, if such nodes can carry policies. -/
def targetKind? (reference : ObjectRef) : Option TargetKind :=
  if reference.group = gatewayGroup then
    match reference.kind with
    | "GatewayClass" => some .gatewayClass
    | "Gateway" => some .gateway
    | "HTTPRoute" => some .httpRoute
    | _ => none
  else if reference.group = coreGroup ∧ reference.kind = "Namespace" then some .nameSpace
  else some .backend

/-- The node that a policy's reference names, if a node of that kind can carry policies. -/
def carrier? (reference : ObjectRef) : Option ResourceId :=
  reference.targetKind?.map fun kind => kind.resolver.targetId reference

end ObjectRef

/-- What became of an offered policy. -/
inductive AttachOutcome where
  | attached (id : ResourceId)
  | alreadyAttached (id : ResourceId)
  | dropped
deriving DecidableEq, Repr

namespace Topology

def hold (topology : Topology) (id : ResourceId) (attachment : Attachment) : Topology :=
  { topology with
    attached := topology.attached.set attachment.target
      (addMissing (topology.policyIdsOn attachment.target) [id])
    policies := topology.policies.set id attachment
    journal := topology.journal ++ [.attached id attachment.target] }

/-- Offer a policy. Without a target it is left out, and a policy of an identity that is attached
already changes nothing. -/
def attach (policy : Policy) : Assembly ShapeError AttachOutcome := do
  let reference ← (policy.target : Except ShapeError ObjectRef)
  match reference.targetKind? with
  | none =>
    let id ← (policy.id : Except ShapeError ResourceId)
    modify (·.leaveOut (.unsupportedTarget id reference.group reference.kind))
    return .dropped
  | some kind =>
    let target := kind.resolver.targetId reference
    let id ← (policy.id : Except ShapeError ResourceId)
    let topology ← get
    if !topology.hasNode kind.resolver.nodes target then
      set (topology.leaveOut (.missingTarget id target))
      return .dropped
    else if topology.policies.contains id then
      set (topology.record [.alreadyAttached id])
      return .alreadyAttached id
    else
      set (topology.hold id (.single policy kind.resolver.backReference target))
      return .attached id

/-- Offer policies in order. The first malformed one ends the batch, and those before it stay. -/
def attachAll (policies : List Policy) : Assembly ShapeError Unit := do
  let before := (← get).policies.size
  let outcomes ← policies.mapM attach
  let topology ← get
  let fresh := topology.policies.size - before
  let dropped := outcomes.count .dropped
  set (topology.record
    [.batchAttached fresh (policies.length - fresh - dropped) dropped topology.policies.size])

end Topology

end PolicyTopology
