import PolicyTopology.Resource.Decode
import PolicyTopology.Settings
import PolicyTopology.Topology.Inherited

/-!
# Snapshots

All resources and policies of a cluster at one moment. A snapshot declares its edges through the
references of its resources, and a topology is built from it in one order: nodes, edges, policies,
effective policies, inherited policies. The last step is taken even when the step before it ends
early.
-/

namespace PolicyTopology

/-- All resources and policies at one moment. -/
structure Snapshot where
  gatewayClasses : List GatewayClass
  nameSpaces : List Namespace
  gateways : List Gateway
  httpRoutes : List HttpRoute
  backends : List Backend
  referenceGrants : List ReferenceGrant
  policies : List Policy

/-- What a resource declares about its neighbours. -/
inductive Declaration where
  | edge (edge : Edge) (source target : ResourceId)
  /-- A parent of a route that is no gateway. -/
  | foreignParent (route : ResourceId) (kind : String)

namespace ObjectRef

def backendId (reference : ObjectRef) : ResourceId :=
  .backend reference.group reference.kind reference.nameSpace reference.name

def isGateway (reference : ObjectRef) : Bool :=
  reference.group == gatewayGroup && reference.kind == "Gateway"

end ObjectRef

namespace Snapshot

/-- Read a snapshot from lists of manifests, kind by kind. -/
def decode (gatewayClasses nameSpaces gateways httpRoutes backends referenceGrants : Document)
    (policies : List Policy) : Except ShapeError Snapshot := do
  return {
    gatewayClasses := ← (← gatewayClasses.items).mapM GatewayClass.decode
    nameSpaces := ← (← nameSpaces.items).mapM Namespace.decode
    gateways := ← (← gateways.items).mapM Gateway.decode
    httpRoutes := ← (← httpRoutes.items).mapM HttpRoute.decode
    backends := ← (← backends.items).mapM Backend.decode
    referenceGrants := ← (← referenceGrants.items).mapM ReferenceGrant.decode
    policies := policies }

def resources (snapshot : Snapshot) : List Resource :=
  snapshot.gatewayClasses.map .gatewayClass ++ snapshot.nameSpaces.map .nameSpace ++
    snapshot.gateways.map .gateway ++ snapshot.httpRoutes.map .httpRoute ++
    snapshot.backends.map .backend ++ snapshot.referenceGrants.map .referenceGrant

def ofGateway (gateway : Gateway) : List Declaration :=
  [.edge .gatewayClass gateway.id (.gatewayClass gateway.className),
    .edge .gatewayNameSpace gateway.id (.ofNamespace gateway.nameSpace)]

def ofRoute (route : HttpRoute) : List Declaration :=
  .edge .routeNameSpace route.id (.ofNamespace route.nameSpace) ::
    route.parentRefs.map (fun parent =>
      if parent.isGateway then
        .edge .routeGateway route.id (.gateway parent.nameSpace parent.name)
      else .foreignParent route.id parent.kind) ++
    route.backendRefs.map fun reference => .edge .routeBackend route.id reference.backendId

def ofBackend (backend : Backend) : List Declaration :=
  [.edge .backendNameSpace backend.id (.ofNamespace backend.nameSpace)]

def ofGrant (backends : List Backend) (grant : ReferenceGrant) : List Declaration :=
  (backends.filter grant.covers).map fun backend => .edge .grantBackend grant.id backend.id

/-- Everything that the resources of a snapshot declare, in order. -/
def declarations (snapshot : Snapshot) : List Declaration :=
  snapshot.gateways.flatMap ofGateway ++ snapshot.httpRoutes.flatMap ofRoute ++
    snapshot.backends.flatMap ofBackend ++
    snapshot.referenceGrants.flatMap (ofGrant snapshot.backends)

end Snapshot

namespace Topology

/-- Connect what a declaration names; a parent that is no gateway is only recorded. -/
def declare (topology : Topology) : Declaration → Topology
  | .edge edge source target => topology.connect edge source target
  | .foreignParent route kind => topology.record [.parentIgnored route kind]

/-- Do some work and then work out what all nodes inherit, also when the work has failed. -/
def inheritAfter {α : Type} (work : Assembly ResolutionError α) : Assembly ResolutionError α :=
  fun topology =>
    let (result, topology) := work.run topology
    (result, topology.inherit)

def build (snapshot : Snapshot) (merger : PolicyMerger) (mode : ResolutionMode) :
    Assembly ResolutionError ResolutionReport := do
  modify (·.insertAll snapshot.resources)
  modify fun topology => snapshot.declarations.foldl declare topology
  ExceptT.adapt (fun error => .fault (.malformed error)) (attachAll snapshot.policies)
  let report ← inheritAfter (resolve merger mode)
  modify fun topology =>
    topology.record [.built (topology.idsOf .gateway).length (topology.idsOf .httpRoute).length
      (topology.idsOf .backend).length topology.policies.size topology.diagnostics.length
      report.failures.length]
  return report

/-- The mode to build in: the given one, or else the one that the environment sets. -/
def modeOr (environment : Environment) :
    Option ResolutionMode → Except SettingsError ResolutionMode
  | some mode => .ok mode
  | none => (Settings.load environment).map (·.mode)

end Topology

end PolicyTopology
