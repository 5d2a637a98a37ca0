import PolicyTopology.Document.Shape
import PolicyTopology.Resource

/-!
# Decoding resources

Each kind of resource is read from its manifest. Missing fields have defaults, fields of the wrong
shape are errors, and of several faults the first one in the order of reading is reported: metadata
first, then the specification, and a route's own name last.
-/

namespace PolicyTopology

namespace GatewayClass

def decode (manifest : Document) : Except ShapeError GatewayClass := do
  let name ← (← manifest.getPresent "metadata").nameAt "name" ""
  let controllerName ← (← manifest.getPresent "spec").nameAt "controllerName" ""
  return { name, controllerName }

end GatewayClass

namespace Namespace

def decode (manifest : Document) : Except ShapeError Namespace := do
  let metadata ← manifest.getPresent "metadata"
  let name ← metadata.nameAt "name" ""
  let labels ← (← metadata.getPresent "labels").toFields
  return { name, labels }

end Namespace

namespace Gateway

def decode (manifest : Document) : Except ShapeError Gateway := do
  let metadata ← manifest.getPresent "metadata"
  let nameSpace ← metadata.nameAt "namespace" ""
  let name ← metadata.nameAt "name" ""
  let className ← (← manifest.getPresent "spec").nameAt "gatewayClassName" ""
  return { nameSpace, name, className }

end Gateway

namespace ObjectRef

/-- Read a reference. A namespace that is not present is that of the referring object; an absent
group or kind has a default. -/
def decode (nameSpace group kind : String) (reference : Document) :
    Except ShapeError ObjectRef := do
  let ownNameSpace ← reference.nameAt? "namespace"
  let name ← reference.nameAt "name" ""
  let group ← reference.nameAt "group" group
  let kind ← reference.nameAt "kind" kind
  return { group, kind, nameSpace := ownNameSpace.getD nameSpace, name }

end ObjectRef

namespace HttpRoute

/-- Read a route. Its parents are gateways and its backends services unless they say otherwise, and
a backend that several rules name is listed where it is first named. -/
def decode (manifest : Document) : Except ShapeError HttpRoute := do
  let metadata ← manifest.getPresent "metadata"
  let spec ← manifest.getPresent "spec"
  let nameSpace ← metadata.nameAt "namespace" ""
  let parentRefs ← (← spec.itemsAt "parentRefs").mapM
    (ObjectRef.decode nameSpace gatewayGroup "Gateway")
  let backendRefs ← (← spec.itemsAt "rules").mapM fun rule => do
    (← rule.itemsAt "backendRefs").mapM (ObjectRef.decode nameSpace coreGroup "Service")
  let name ← metadata.nameAt "name" ""
  return { nameSpace, name, parentRefs, backendRefs := backendRefs.flatten.eraseDups }

end HttpRoute

namespace Backend

/-- Read a backend. Its group is that of its API version. -/
def decode (manifest : Document) : Except ShapeError Backend := do
  let metadata ← manifest.getPresent "metadata"
  let nameSpace ← metadata.nameAt "namespace" ""
  let name ← metadata.nameAt "name" ""
  let apiVersion ← manifest.nameAt "apiVersion" "v1"
  let kind ← manifest.nameAt "kind" "Service"
  return { nameSpace, name, group := groupOf apiVersion, kind }

end Backend

namespace GrantTarget

def decode (target : Document) : Except ShapeError GrantTarget := do
  let group ← target.nameAt "group" coreGroup
  let kind ← target.nameAt "kind" ""
  let name ← target.nameAt "name" ""
  return { group, kind, name }

end GrantTarget

namespace ReferenceGrant

def decode (manifest : Document) : Except ShapeError ReferenceGrant := do
  let metadata ← manifest.getPresent "metadata"
  let nameSpace ← metadata.nameAt "namespace" ""
  let name ← metadata.nameAt "name" ""
  let targets ← (← (← manifest.getPresent "spec").itemsAt "to").mapM GrantTarget.decode
  return { nameSpace, name, targets }

end ReferenceGrant

def Resource.decode? : NodeKind → Option (Document → Except ShapeError Resource)
  | .gatewayClass => some fun manifest => (GatewayClass.decode manifest).map .gatewayClass
  | .nameSpace => some fun manifest => (Namespace.decode manifest).map .nameSpace
  | .gateway => some fun manifest => (Gateway.decode manifest).map .gateway
  | .httpRoute => some fun manifest => (HttpRoute.decode manifest).map .httpRoute
  | .backend => some fun manifest => (Backend.decode manifest).map .backend
  | .referenceGrant => some fun manifest => (ReferenceGrant.decode manifest).map .referenceGrant
  | .policy => none

end PolicyTopology
