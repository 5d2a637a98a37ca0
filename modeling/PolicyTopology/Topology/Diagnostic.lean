import PolicyTopology.Topology.Edge

/-!
# Diagnostics

What was left out while a topology was assembled: policies without a target and edges without an
end. Each diagnostic names the object whose processing was skipped and, if there is one, the
identity that could not be found.
-/

namespace PolicyTopology

inductive Diagnostic where
  /-- The target of a policy is of a kind that carries no policies. -/
  | unsupportedTarget (policy : ResourceId) (group kind : String)
  /-- The target of a policy does not exist. -/
  | missingTarget (policy target : ResourceId)
  /-- An end of an edge does not exist. -/
  | missingEndpoint (edge : Edge) (source missing : ResourceId)
deriving DecidableEq, Repr

namespace Diagnostic

def reason : Diagnostic → String
  | .unsupportedTarget .. => "policy_target_unsupported"
  | .missingTarget .. => "policy_target_missing"
  | .missingEndpoint .. => "connection_endpoint_missing"

/-- The object whose processing was skipped. -/
def subject : Diagnostic → ResourceId
  | .unsupportedTarget policy _ _ => policy
  | .missingTarget policy _ => policy
  | .missingEndpoint _ source _ => source

def resource (diagnostic : Diagnostic) : String := diagnostic.subject.text

/-- The identity that could not be found. -/
def missing? : Diagnostic → Option ResourceId
  | .unsupportedTarget .. => none
  | .missingTarget _ target => some target
  | .missingEndpoint _ _ missing => some missing

def message : Diagnostic → String
  | .unsupportedTarget _ group kind =>
    "targetRef kind " ++ kind ++ " in group " ++ group ++ " cannot carry policies"
  | .missingTarget _ target =>
    "targetRef " ++ target.nodeKind.name ++ " does not exist in the resource model"
  | .missingEndpoint edge _ missing =>
    missing.nodeKind.name ++ " " ++ missing.text ++ " does not exist; " ++ edge.name ++
      " edge not created"

end Diagnostic

end PolicyTopology
