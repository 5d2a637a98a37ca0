import PolicyTopology.Topology.Effective

/-!
# Inherited policies

A node inherits the inheritable policies of its namespace and, from each of its parents, what the
parent inherits and what is attached to the parent itself. This is a union of sets of identities;
nothing is merged, so no conflict can stand in its way.
-/

namespace PolicyTopology

namespace Topology

/-- Whether an attached policy reaches the descendants of its target. -/
def isInheritable (topology : Topology) (policy : ResourceId) : Bool :=
  (topology.policies.get? policy).any fun attachment => attachment.policy.inherited

def inheritableOn (topology : Topology) (target : Option ResourceId) : List ResourceId :=
  match target with
  | none => []
  | some target => (topology.policyIdsOn target).filter topology.isInheritable

def gatewayInherited (topology : Topology) (gateway : ResourceId) : List ResourceId :=
  addMissing (topology.inheritableOn (topology.nameSpace? gateway))
    (topology.inheritableOn (topology.target? .gatewayClass gateway))

/-- The policies that a node inherits from its namespace and from its parents, taken in order of
identity. -/
def inheritedFrom (topology : Topology) (id : ResourceId) (parents : List ResourceId) :
    List ResourceId :=
  (sortedIds parents).foldl (fun result parent =>
    addMissing (addMissing result ((topology.inherited.get? parent).getD []))
      (topology.inheritableOn (some parent)))
    (topology.inheritableOn (topology.nameSpace? id))

def routeInherited (topology : Topology) (route : ResourceId) : List ResourceId :=
  topology.inheritedFrom route (topology.targets .routeGateway route)

def backendInherited (topology : Topology) (backend : ResourceId) : List ResourceId :=
  topology.inheritedFrom backend (topology.sources .routeBackend backend)

def inheritAll (topology : Topology) (kind : NodeKind)
    (inherits : Topology → ResourceId → List ResourceId) : Topology :=
  (topology.idsOf kind).foldl (fun topology id =>
    { topology with inherited := topology.inherited.set id (inherits topology id) }) topology

/-- Work out what all gateways, routes and backends inherit, in this order. -/
def inherit (topology : Topology) : Topology :=
  let resolved := ((topology.inheritAll .gateway gatewayInherited).inheritAll .httpRoute
    routeInherited).inheritAll .backend backendInherited
  resolved.record [.inheritanceCompleted (topology.idsOf .gateway).length
    (topology.idsOf .httpRoute).length (topology.idsOf .backend).length]

end Topology

end PolicyTopology
