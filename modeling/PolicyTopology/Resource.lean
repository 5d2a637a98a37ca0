import PolicyTopology.Document.Basic
import PolicyTopology.Identity

/-!
# Resources

The resources of a gateway topology, with the fields that its edges need. Each one determines its
identity; two resources of one identity are versions of the same object.
-/

namespace PolicyTopology

def gatewayGroup : String := "gateway.networking.k8s.io"

def coreGroup : String := ""

/-- The group of an API version: the text before its last slash, the core group without one. -/
def groupOf (apiVersion : String) : String :=
  String.ofList ((apiVersion.toList.reverse.dropWhile (· ≠ '/')).drop 1).reverse

/-- A reference to an object of any kind. -/
structure ObjectRef where
  group : String
  kind : String
  nameSpace : String
  name : String
deriving DecidableEq, Repr

/-- A class of gateways, run by one controller. -/
structure GatewayClass where
  name : String
  controllerName : String

structure Namespace where
  name : String
  labels : Fields

structure Gateway where
  nameSpace : String
  name : String
  className : String

/-- A route with its parents and the objects it forwards to, each backend once. -/
structure HttpRoute where
  nameSpace : String
  name : String
  parentRefs : List ObjectRef
  backendRefs : List ObjectRef

/-- An object that routes can forward to. -/
structure Backend where
  nameSpace : String
  name : String
  group : String
  kind : String
deriving DecidableEq

/-- One kind of object that a grant lets routes refer to, by name unless the name is empty. -/
structure GrantTarget where
  group : String
  kind : String
  name : String
deriving DecidableEq

/-- Whether a grant's target covers a backend. -/
def GrantTarget.covers (target : GrantTarget) (backend : Backend) : Bool :=
  target.group == backend.group && target.kind == backend.kind &&
    (target.name == "" || target.name == backend.name)

/-- A grant for references into its own namespace. -/
structure ReferenceGrant where
  nameSpace : String
  name : String
  targets : List GrantTarget

namespace GatewayClass

def id (resource : GatewayClass) : ResourceId := .gatewayClass resource.name

end GatewayClass

namespace Namespace

def id (resource : Namespace) : ResourceId := .ofNamespace resource.name

end Namespace

namespace Gateway

def id (resource : Gateway) : ResourceId := .gateway resource.nameSpace resource.name

end Gateway

namespace HttpRoute

def id (resource : HttpRoute) : ResourceId := .httpRoute resource.nameSpace resource.name

end HttpRoute

namespace Backend

def id (resource : Backend) : ResourceId :=
  .backend resource.group resource.kind resource.nameSpace resource.name

end Backend

namespace ReferenceGrant

def id (resource : ReferenceGrant) : ResourceId :=
  .referenceGrant resource.nameSpace resource.name

/-- Whether a grant covers a backend: one of its own namespace that a target covers. -/
def covers (grant : ReferenceGrant) (backend : Backend) : Bool :=
  backend.nameSpace == grant.nameSpace && grant.targets.any fun target => target.covers backend

end ReferenceGrant

inductive Resource where
  | gatewayClass (resource : GatewayClass)
  | nameSpace (resource : Namespace)
  | gateway (resource : Gateway)
  | httpRoute (resource : HttpRoute)
  | backend (resource : Backend)
  | referenceGrant (resource : ReferenceGrant)

def Resource.id : Resource → ResourceId
  | .gatewayClass resource => resource.id
  | .nameSpace resource => resource.id
  | .gateway resource => resource.id
  | .httpRoute resource => resource.id
  | .backend resource => resource.id
  | .referenceGrant resource => resource.id

end PolicyTopology
