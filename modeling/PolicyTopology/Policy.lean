import PolicyTopology.Document.Shape
import PolicyTopology.Resource

/-!
# Policies

A policy is attached to one target and belongs to one merge kind; an inherited policy also reaches
the descendants of its target. Most policies are manifests. A policy may also be given by a plain
record; nothing is known of its content. The fields of either are read when they are asked for, so
that a malformed part is an error only of the questions that read it.
-/

namespace PolicyTopology

/-- A policy read from a manifest. -/
structure ManifestPolicy where
  manifest : Document
  inherited : Bool

/-- A policy given by a flat record: the `group` and `kind` of its merge kind, its `namespace` and
`name`, whether it is `inherited`, and as `target` the group, kind, namespace and name of an
object. -/
structure PlainPolicy where
  fields : Fields

inductive Policy where
  | manifest (policy : ManifestPolicy)
  | plain (policy : PlainPolicy)

def policyLabel : String := "gateway.networking.k8s.io/policy"

/-- Whether a text is `word` up to the case of its letters; `word` is given in lower case. Only the
letters of ASCII have two cases here: the one other character whose lower case is a single letter of
ASCII is the kelvin sign, and no word that is asked for has a `k`. -/
def isWord (word text : String) : Bool := text.map Char.toLower == word

def declaresInheritance (definition : Document) : Except ShapeError Bool := do
  let labels ← (← definition.getPresent "metadata").getPresent "labels"
  return isWord "inherited" (← labels.nameAt policyLabel "")

namespace ManifestPolicy

def name (policy : ManifestPolicy) : Except ShapeError String := do
  (← policy.manifest.getPresent "metadata").nameAt "name" ""

/-- The namespace of the policy, empty for one of the whole cluster. -/
def nameSpace (policy : ManifestPolicy) : Except ShapeError String := do
  (← policy.manifest.getPresent "metadata").nameAt "namespace" ""

def kind (policy : ManifestPolicy) : Except ShapeError MergeKind := do
  let apiVersion ← policy.manifest.nameAt "apiVersion" ""
  let kind ← policy.manifest.nameAt "kind" ""
  return { group := groupOf apiVersion, kind }

def spec (policy : ManifestPolicy) : Except ShapeError Document := policy.manifest.getPresent "spec"

/-- The target of the policy, in the policy's own namespace unless it names one. -/
def target (policy : ManifestPolicy) : Except ShapeError ObjectRef := do
  let reference ← (← policy.spec).getPresent "targetRef"
  let group ← reference.nameAt "group" ""
  let kind ← reference.nameAt "kind" ""
  let nameSpace ← match ← reference.nameAt? "namespace" with
    | some nameSpace => pure nameSpace
    | none => policy.nameSpace
  let name ← reference.nameAt "name" ""
  return { group, kind, nameSpace, name }

def description (policy : ManifestPolicy) : Except ShapeError String := do
  let kind ← policy.kind
  let nameSpace ← policy.nameSpace
  let name ← policy.name
  return "UnstructuredPolicy(" ++ kind.text ++ ", " ++ nameSpace ++ "/" ++ name ++ ")"

def withSpec (policy : ManifestPolicy) (spec : Document) : Except ShapeError ManifestPolicy := do
  return { policy with manifest := ← policy.manifest.write "spec" spec }

end ManifestPolicy

namespace PlainPolicy

def textAt (policy : PlainPolicy) (key : String) : Except ShapeError String := do
  (← policy.fields.require key).asText

def name (policy : PlainPolicy) : Except ShapeError String := policy.textAt "name"

/-- The namespace of the policy, empty for one of the whole cluster. -/
def nameSpace (policy : PlainPolicy) : Except ShapeError String := policy.textAt "namespace"

def kind (policy : PlainPolicy) : Except ShapeError MergeKind := do
  return { group := ← policy.textAt "group", kind := ← policy.textAt "kind" }

def target (policy : PlainPolicy) : Except ShapeError ObjectRef := do
  match ← (← (← policy.fields.require "target").items).mapM Document.asText with
  | [group, kind, nameSpace, name] => return { group, kind, nameSpace, name }
  | _ => throw .mismatched

/-- Whether the policy is inherited; one that does not say so is not. -/
def inherited (policy : PlainPolicy) : Bool :=
  ((Entries.get? policy.fields "inherited").map Document.isPresent).getD false

end PlainPolicy

namespace Policy

def name : Policy → Except ShapeError String
  | .manifest policy => policy.name
  | .plain policy => policy.name

def nameSpace : Policy → Except ShapeError String
  | .manifest policy => policy.nameSpace
  | .plain policy => policy.nameSpace

def kind : Policy → Except ShapeError MergeKind
  | .manifest policy => policy.kind
  | .plain policy => policy.kind

def target : Policy → Except ShapeError ObjectRef
  | .manifest policy => policy.target
  | .plain policy => policy.target

/-- Whether a policy reaches the descendants of its target. -/
def inherited : Policy → Bool
  | .manifest policy => policy.inherited
  | .plain policy => policy.inherited

/-- The identity of a policy: its merge kind, namespace and name. Between policies of one level the
one of the smaller identity takes precedence. -/
def id (policy : Policy) : Except ShapeError ResourceId := do
  let kind ← policy.kind
  let nameSpace ← policy.nameSpace
  let name ← policy.name
  return .policy kind.group kind.kind nameSpace name

def qualifiedName (policy : Policy) : Except ShapeError String := do
  let nameSpace ← policy.nameSpace
  let name ← policy.name
  return nameSpace ++ "/" ++ name

/-- Items under the identities of their policies, in order of precedence. -/
def byPrecedence {α : Type} (policy : α → Policy) (items : List α) :
    Except ShapeError (Entries ResourceId α) := do
  let identified ← items.mapM fun item => return (← (policy item).id, item)
  return Entries.sorted identified

end Policy

end PolicyTopology
