import PolicyTopology.Topology.Attach

/-!
# Effective policies

The policies that hold at a node are merged along the hierarchy from gateway class through
namespaces, gateway and route to backend, ancestors first. Policies of one level are merged as peers
before levels are laid over each other.

Routes and backends are reached through several gateways, so their effective policies are kept apart
by gateway. A backend first reconciles, for each gateway, what its routes have for it; its own
levels come on top once, after all routes. A gateway without a class has no effective policies, and
routes have no part for it.

A node whose policies conflict fails, and so does every node that depends on a failed one, whatever
its other ancestors come to. The passes visit gateways, then routes, then backends, each in order
of identity; a pass reads what the pass before it has stored.
-/

namespace PolicyTopology

/-- What to do when the policies of a node conflict. -/
inductive ResolutionMode where
  /-- Stop at the first conflict. -/
  | failFast
  /-- Enter the node into the report as failed and go on. -/
  | bestEffort
deriving DecidableEq, Repr

/-- Why a node has no effective policies. -/
inductive Failure where
  /-- The policies that reach it conflict. -/
  | conflict (conflict : MergeConflict)
  /-- It depends on a node that failed. -/
  | dependency (id : ResourceId)

namespace Failure

def message : Failure → String
  | .conflict found => found.message
  | .dependency id =>
    "depends on " ++ id.nodeKind.name ++ " " ++ id.text ++ ", whose effective policies failed"

end Failure

/-- Why the work on one node ended early: a failure, which a report can carry, or a fault. -/
inductive NodeError where
  | failure (failure : Failure)
  | fault (fault : MergeFault)

/-- Why a resolution ended early. -/
inductive ResolutionError where
  /-- The policies of a node conflict, and the resolution stops at conflicts. -/
  | unresolved (node : ResourceId) (cause : MergeConflict)
  | fault (fault : MergeFault)

namespace ResolutionError

def unresolvedMessage (node : ResourceId) (cause : MergeConflict) : String :=
  "failed to resolve effective policies for " ++ node.nodeKind.name ++ " " ++ node.text ++ ": " ++
    cause.message

end ResolutionError

abbrev NodeWork := Traced Event NodeError

def Merging.atNode {α : Type} (merging : Merging α) : NodeWork α :=
  Traced.adapt .merging (fun error => match error with
    | .conflict conflict => .failure (.conflict conflict)
    | .fault fault => .fault fault) merging

namespace Topology

def overlayLevels (merger : PolicyMerger) (ancestors ofNameSpace own : PoliciesByKind) :
    NodeWork PoliciesByKind := do
  let result ← Merging.atNode (merger.overlay ancestors ofNameSpace)
  Merging.atNode (merger.overlay result own)

/-- The effective policies of a gateway: those of its class, then of its namespace, then its own.
A gateway without a class has none. -/
def gatewayPolicies (merger : PolicyMerger) (topology : Topology) (gateway : ResourceId) :
    NodeWork (Option PoliciesByKind) := do
  match topology.target? .gatewayClass gateway with
  | none =>
    Traced.note (.gatewaySkipped gateway)
    return none
  | some gatewayClass =>
    let ofClass ← Merging.atNode (merger.mergeLevel (topology.policiesOn (some gatewayClass)))
    let ofNameSpace ← Merging.atNode
      (merger.mergeLevel (topology.policiesOn (topology.nameSpace? gateway)))
    let own ← Merging.atNode (merger.mergeLevel (topology.policiesOn (some gateway)))
    some <$> overlayLevels merger ofClass ofNameSpace own

/-- Go on only if no node among `dependencies`, taken in order, has failed. -/
def requireSound (failed dependencies : List ResourceId) : NodeWork Unit :=
  match dependencies.find? (· ∈ failed) with
  | some id => Traced.fail (.failure (.dependency id))
  | none => pure ()

/-- The effective policies of a route for each of its gateways that has some: those of the gateway,
then of the route's namespace, then its own. -/
def routePartitions (merger : PolicyMerger) (topology : Topology) (failed : List ResourceId)
    (route : ResourceId) : NodeWork Partitions := do
  let gateways := sortedIds (topology.targets .routeGateway route)
  requireSound failed gateways
  let ofNameSpace ← Merging.atNode
    (merger.mergeLevel (topology.policiesOn (topology.nameSpace? route)))
  let own ← Merging.atNode (merger.mergeLevel (topology.policiesOn (some route)))
  gateways.foldlM (fun result gateway =>
    match topology.effective.get? gateway with
    | none => do
      Traced.note (.partitionSkipped route gateway)
      return result
    | some policies => do
      return result.set gateway (← overlayLevels merger policies ofNameSpace own)) .empty

/-- What the routes of a backend come to for each gateway, reconciled in order of their
identities. -/
def reconcileRoutes (merger : PolicyMerger) (topology : Topology) (routes : List ResourceId) :
    NodeWork Partitions :=
  routes.foldlM (fun result route =>
    match topology.partitions.get? route with
    | none => pure result
    | some partitions =>
      (Entries.sorted partitions.entries).foldlM (fun result (gateway, policies) => do
        return result.set gateway
          (← Merging.atNode (merger.reconcile (result.get? gateway) policies))) result) .empty

/-- The effective policies of a backend for each gateway that its routes have a part for: what the
routes come to, then the policies of the backend's namespace, then its own. -/
def backendPartitions (merger : PolicyMerger) (topology : Topology) (failed : List ResourceId)
    (backend : ResourceId) : NodeWork Partitions := do
  let routes := sortedIds (topology.sources .routeBackend backend)
  requireSound failed routes
  let ofNameSpace ← Merging.atNode
    (merger.mergeLevel (topology.policiesOn (topology.nameSpace? backend)))
  let own ← Merging.atNode (merger.mergeLevel (topology.policiesOn (some backend)))
  let reconciled ← reconcileRoutes merger topology routes
  reconciled.entries.foldlM (fun result (gateway, policies) => do
    return result.set gateway (← overlayLevels merger policies ofNameSpace own)) reconciled

end Topology

/-- A node that failed, and why. -/
structure NodeFailure where
  node : ResourceId
  failure : Failure

/-- How many nodes of a kind were resolved, and how many had nothing to resolve. -/
structure Tally where
  resolved : Nat
  skipped : Nat
deriving DecidableEq, Repr

/-- What a resolution came to. -/
structure ResolutionReport where
  gateways : Tally
  routes : Tally
  backends : Tally
  /-- The failed nodes in the order in which they were visited. -/
  failures : List NodeFailure

namespace ResolutionReport

def isClean (report : ResolutionReport) : Bool := report.failures.isEmpty

def failedIds (report : ResolutionReport) : List ResourceId :=
  report.failures.map (·.node)

end ResolutionReport

/-- How far a pass has come. -/
structure Progress where
  tally : Tally
  failures : List NodeFailure

/-- A pass over the nodes of one kind: how a node's policies are worked out, given the nodes that
failed so far, and where they are stored. -/
structure Pass (α : Type) where
  kind : NodeKind
  compute : Topology → List ResourceId → ResourceId → NodeWork (Option α)
  store : Topology → ResourceId → α → Topology

namespace Pass

variable {α : Type}

/-- Work out the policies of one node. A node without a result keeps what it had before. -/
def visit (pass : Pass α) (mode : ResolutionMode) (progress : Progress) (id : ResourceId) :
    Assembly ResolutionError Progress := do
  let topology ← get
  let work := pass.compute topology (progress.failures.map (·.node)) id
  let topology := topology.record work.trace
  match work.result with
  | .ok none =>
    set topology
    return { progress with tally.skipped := progress.tally.skipped + 1 }
  | .ok (some policies) =>
    set (pass.store topology id policies)
    return { progress with tally.resolved := progress.tally.resolved + 1 }
  | .error (.fault fault) =>
    set topology
    throw (.fault fault)
  | .error (.failure (.dependency failed)) =>
    set (topology.record [.dependencyFailed id failed])
    return { progress with failures := progress.failures ++ [⟨id, .dependency failed⟩] }
  | .error (.failure (.conflict conflict)) =>
    set (topology.record [.conflicted id conflict])
    match mode with
    | .failFast => throw (.unresolved id conflict)
    | .bestEffort =>
      return { progress with failures := progress.failures ++ [⟨id, .conflict conflict⟩] }

/-- Visit all nodes of the kind in order of identity, after the failures of earlier passes. -/
def run (pass : Pass α) (mode : ResolutionMode) (failures : List NodeFailure) :
    Assembly ResolutionError Progress := do
  let ids := sortedIds ((← get).idsOf pass.kind)
  let progress ← ids.foldlM (pass.visit mode) ⟨⟨0, 0⟩, failures⟩
  modify (·.record [.passCompleted pass.kind progress.tally.resolved progress.tally.skipped])
  return progress

def gateways (merger : PolicyMerger) : Pass PoliciesByKind where
  kind := .gateway
  compute topology _ id := topology.gatewayPolicies merger id
  store topology id policies := { topology with effective := topology.effective.set id policies }

/-- Keep the parts of a route or backend. -/
def storePartitions (topology : Topology) (id : ResourceId) (partitions : Partitions) : Topology :=
  { topology with partitions := topology.partitions.set id partitions }

def routes (merger : PolicyMerger) : Pass Partitions where
  kind := .httpRoute
  compute topology failed id := some <$> topology.routePartitions merger failed id
  store := storePartitions

def backends (merger : PolicyMerger) : Pass Partitions where
  kind := .backend
  compute topology failed id := some <$> topology.backendPartitions merger failed id
  store := storePartitions

end Pass

namespace Topology

/-- Work out the effective policies of all nodes. -/
def resolve (merger : PolicyMerger) (mode : ResolutionMode) :
    Assembly ResolutionError ResolutionReport := do
  let gateways ← (Pass.gateways merger).run mode []
  let routes ← (Pass.routes merger).run mode gateways.failures
  let backends ← (Pass.backends merger).run mode routes.failures
  return {
    gateways := gateways.tally
    routes := routes.tally
    backends := backends.tally
    failures := backends.failures }

end Topology

end PolicyTopology
