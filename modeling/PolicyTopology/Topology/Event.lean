import PolicyTopology.Log
import PolicyTopology.Policy.Merger
import PolicyTopology.Topology.Diagnostic

/-!
# Events

What happens while a topology is assembled and resolved, as it is counted and logged. The journal
of a topology lists its events in order. A log record and a counter are two readings of an event:
`Event.record?` and `Event.counter?` say which events have which.
-/

namespace PolicyTopology

inductive Event where
  /-- A recorded merger was called. -/
  | merging (call : MergeCall)
  /-- Something was left out. -/
  | omitted (diagnostic : Diagnostic)
  /-- A policy was offered whose identity is attached already. -/
  | alreadyAttached (policy : ResourceId)
  /-- A policy was attached to its target. -/
  | attached (policy target : ResourceId)
  /-- A batch of policies was worked off. -/
  | batchAttached (attached duplicates dropped total : Nat)
  /-- A route has a parent that is no gateway. -/
  | parentIgnored (route : ResourceId) (kind : String)
  /-- A gateway has no class and so no effective policies. -/
  | gatewaySkipped (gateway : ResourceId)
  /-- A route has no part for a gateway without effective policies. -/
  | partitionSkipped (route gateway : ResourceId)
  /-- The policies that reach a node conflict. -/
  | conflicted (node : ResourceId) (conflict : MergeConflict)
  /-- A node depends on one whose policies failed. -/
  | dependencyFailed (node dependency : ResourceId)
  /-- The effective policies of all nodes of a kind were worked out. -/
  | passCompleted (kind : NodeKind) (resolved skipped : Nat)
  /-- The inherited policies of all nodes were worked out. -/
  | inheritanceCompleted (gateways routes backends : Nat)
  /-- A topology was built from a snapshot. -/
  | built (gateways routes backends policies diagnostics failures : Nat)

inductive Counter where
  | policiesAttached
  | policiesDropped
  | connectionsSkipped
  | mergeConflicts
deriving DecidableEq, Repr

namespace Counter

def all : List Counter :=
  [.policiesAttached, .policiesDropped, .connectionsSkipped, .mergeConflicts]

def name : Counter → String
  | .policiesAttached => "gwpolicy_policies_attached_total"
  | .policiesDropped => "gwpolicy_policies_dropped_total"
  | .connectionsSkipped => "gwpolicy_connections_skipped_total"
  | .mergeConflicts => "gwpolicy_merge_conflicts_total"

def label : Counter → String
  | .policiesAttached => "target_kind"
  | .policiesDropped => "target_kind"
  | .connectionsSkipped => "edge"
  | .mergeConflicts => "node_kind"

end Counter

namespace Event

def counter? : Event → Option (Counter × String)
  | .attached _ target => some (.policiesAttached, target.nodeKind.name)
  | .omitted (.unsupportedTarget ..) => some (.policiesDropped, "unsupported")
  | .omitted (.missingTarget _ target) => some (.policiesDropped, target.nodeKind.name)
  | .omitted (.missingEndpoint edge _ _) => some (.connectionsSkipped, edge.name)
  | .conflicted node _ => some (.mergeConflicts, node.nodeKind.name)
  | _ => none

def call? : Event → Option MergeCall
  | .merging call => some call
  | _ => none

def graphRecord (component : String) (level : LogLevel) (event : String) (fields : Fields) :
    LogRecord :=
  ⟨LogRecord.qualified ("graph." ++ component), level, event, fields⟩

def idField (id : ResourceId) : Document := .string id.text

def countField (count : Nat) : Document := .int count

def omissionRecord : Diagnostic → LogRecord
  | .missingEndpoint edge source missing =>
    graphRecord "diagnostics" .warning "connection_skipped"
      [("edge", .string edge.name), ("source", idField source), ("missing", idField missing)]
  | diagnostic =>
    graphRecord "diagnostics" .warning "policy_dropped"
      [("policy", .string diagnostic.resource),
        ("target", match diagnostic.missing? with
          | some target => idField target
          | none => .null),
        ("detail", .string diagnostic.message)]

def record? : Event → Option LogRecord
  | .merging _ => none
  | .attached _ _ => none
  | .omitted diagnostic => some (omissionRecord diagnostic)
  | .alreadyAttached policy =>
    some (graphRecord "attach" .debug "policy_already_attached" [("policy", idField policy)])
  | .batchAttached fresh duplicates dropped total =>
    some (graphRecord "model" .debug "policies_attached"
      [("attached", countField fresh), ("duplicates", countField duplicates),
        ("dropped", countField dropped), ("total", countField total)])
  | .parentIgnored route kind =>
    some ⟨LogRecord.qualified "discovery", .debug, "parent_ref_ignored",
      [("route", idField route), ("kind", .string kind)]⟩
  | .gatewaySkipped gateway =>
    some (graphRecord "effective" .debug "gateway_effective_skipped"
      [("gateway", idField gateway), ("reason", .string "gatewayclass unresolved")])
  | .partitionSkipped route gateway =>
    some (graphRecord "effective" .debug "route_partition_skipped"
      [("route", idField route), ("gateway", idField gateway)])
  | .conflicted node conflict =>
    some (graphRecord "effective" .error "merge_conflict"
      [("node_kind", .string node.nodeKind.name), ("node", idField node),
        ("error", .string conflict.message)])
  | .dependencyFailed node dependency =>
    some (graphRecord "effective" .warning "upstream_failed"
      [("node_kind", .string node.nodeKind.name), ("node", idField node),
        ("upstream", idField dependency)])
  | .passCompleted kind resolved skipped =>
    some (graphRecord "effective" .info "effective_pass_complete"
      [("node_kind", .string kind.name), ("resolved", countField resolved),
        ("skipped", countField skipped)])
  | .inheritanceCompleted gateways routes backends =>
    some (graphRecord "inherited" .info "inherited_pass_complete"
      [("gateways", countField gateways), ("http_routes", countField routes),
        ("backends", countField backends)])
  | .built gateways routes backends policies diagnostics failures =>
    some ⟨LogRecord.qualified "discovery", .info, "resource_model_built",
      [("gateways", countField gateways), ("http_routes", countField routes),
        ("backends", countField backends), ("policies", countField policies),
        ("diagnostics", countField diagnostics), ("failures", countField failures)]⟩

end Event

namespace Counter

def total (counter : Counter) (label : String) (journal : List Event) : Nat :=
  journal.countP fun event => event.counter? = some (counter, label)

/-- The labels under which a journal increases a counter, with how often. -/
def readings (counter : Counter) (journal : List Event) : Entries String Nat :=
  let labels := ((journal.filterMap Event.counter?).filter (·.1 = counter)).map (·.2)
  labels.eraseDups.map fun label => (label, counter.total label journal)

end Counter

end PolicyTopology
