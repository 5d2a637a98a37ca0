import PolicyTopology.Identity

/-!
# Edges

The kinds of edge between nodes. Each leads from a node of one kind to a node of another. A gateway
has one class and a node one namespace, so a new edge of these kinds takes the place of the source's
former one; the other kinds collect their edges.
-/

namespace PolicyTopology

inductive Edge where
  | gatewayClass
  | gatewayNameSpace
  | routeNameSpace
  | routeGateway
  | routeBackend
  | backendNameSpace
  | grantBackend
deriving DecidableEq, Repr

namespace Edge

def name : Edge → String
  | .gatewayClass => "gateway_gatewayclass"
  | .gatewayNameSpace => "gateway_namespace"
  | .routeNameSpace => "httproute_namespace"
  | .routeGateway => "httproute_gateway"
  | .routeBackend => "httproute_backend"
  | .backendNameSpace => "backend_namespace"
  | .grantBackend => "referencegrant_backend"

def sourceKind : Edge → NodeKind
  | .gatewayClass | .gatewayNameSpace => .gateway
  | .routeNameSpace | .routeGateway | .routeBackend => .httpRoute
  | .backendNameSpace => .backend
  | .grantBackend => .referenceGrant

def targetKind : Edge → NodeKind
  | .gatewayClass => .gatewayClass
  | .gatewayNameSpace | .routeNameSpace | .backendNameSpace => .nameSpace
  | .routeGateway => .gateway
  | .routeBackend | .grantBackend => .backend

def isSingle : Edge → Bool
  | .gatewayClass | .gatewayNameSpace | .routeNameSpace | .backendNameSpace => true
  | .routeGateway | .routeBackend | .grantBackend => false

/-- The edge to the namespace of a node of the given kind, if such nodes have one. -/
def toNameSpace? : NodeKind → Option Edge
  | .gateway => some .gatewayNameSpace
  | .httpRoute => some .routeNameSpace
  | .backend => some .backendNameSpace
  | _ => none

end Edge

end PolicyTopology
