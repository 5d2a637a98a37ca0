import PolicyTopology.Document.Combine
import PolicyTopology.Policy

/-!
# Conflicts between policies

Why two policies could not be merged. A conflict is a fact about two well-formed policies, and a
report can carry it; that a policy is malformed, or that nothing is known of its content, is a
fault.
-/

namespace PolicyTopology

/-- Why two policies cannot be reconciled. -/
inductive ConflictReason where
  /-- The second policy is of another merge kind. -/
  | otherKind (kind : MergeKind)
  /-- One of two policies, given by their qualified names, is inherited and the other is not. -/
  | inheritance (first second : String)
  /-- The two specifications hold different values under one path. -/
  | clash (clash : Clash)
  /-- A merger gave a reason of its own. -/
  | refused (reason : String)

namespace ConflictReason

def message : ConflictReason → String
  | .otherKind kind => "cannot merge with a policy of kind " ++ kind.text
  | .inheritance first second => first ++ " and " ++ second ++ " disagree on inheritance"
  | .clash found =>
    ".".intercalate ("spec" :: found.path.map Scalar.text) ++ " is set to both " ++
      found.first.literal ++ " and " ++ found.second.literal
  | .refused reason => reason

end ConflictReason

/-- Two policies of a merge kind cannot be reconciled. -/
structure MergeConflict where
  kind : MergeKind
  reason : ConflictReason

namespace MergeConflict

def message (conflict : MergeConflict) : String :=
  "cannot merge policies of kind " ++ conflict.kind.text ++ ": " ++ conflict.reason.message

end MergeConflict

/-- A defect that keeps a merge from looking at two policies at all. -/
inductive MergeFault where
  /-- A part of a policy that the merge reads has the wrong shape. -/
  | malformed (error : ShapeError)
  /-- The merge combines specifications, and a policy without a manifest has none. -/
  | withoutManifest
deriving DecidableEq, Repr

def MergeFault.withoutManifestMessage : String :=
  "SpecMerger only merges UnstructuredPolicy objects"

/-- Why a merge did not come to a policy. -/
inductive MergeError where
  | conflict (conflict : MergeConflict)
  | fault (fault : MergeFault)

/-- Reading a policy may fail inside a merge. -/
instance : MonadLift (Except ShapeError) (Except MergeError) :=
  ⟨Except.mapError fun error => .fault (.malformed error)⟩

end PolicyTopology
