import PolicyTopology.Policy.Conflict

/-!
# Merging specifications

The merge of two manifest policies of one kind. Inherited policies have a `default` and an
`override` section. Across levels the descendant's defaults and the ancestor's overrides win;
between peers the first policy wins in both. Direct policies are united: a value set twice must be
the same. The merged policy keeps the manifest of one of the two around the new specification, and
a direct one also its reference to the target.
-/

namespace PolicyTopology

namespace Document

def layerSection (name : String) (base top : Document) : Except ShapeError Fields := do
  let lower ← base.getPresent name
  let upper ← top.getPresent name
  let lowerFields ← lower.toFields
  match upper with
  | .object upperFields => return lowerFields.overlay upperFields
  | _ => throw .notAnObject

/-- An object with the section `name`, unchanged if that section is empty. -/
def withSection (spec : Document) (name : String) (fields : Fields) : Document :=
  match spec with
  | .object specFields =>
    if fields.isEmpty then spec else .object (Entries.set specFields name (.object fields))
  | _ => spec

end Document

namespace ManifestPolicy

/-- The two policies of a merge, if both are manifests of one kind that agree on inheritance. -/
def reconcilable (first second : Policy) :
    Except MergeError (ManifestPolicy × ManifestPolicy) := do
  match first, second with
  | .manifest a, .manifest b =>
    let kind ← a.kind
    let other ← b.kind
    if kind ≠ other then throw (.conflict ⟨kind, .otherKind other⟩)
    if a.inherited ≠ b.inherited then
      throw (.conflict ⟨kind, .inheritance (← first.qualifiedName) (← second.qualifiedName)⟩)
    return (a, b)
  | _, _ => throw (.fault .withoutManifest)

/-- The union of two direct policies, around the manifest and target of `keep`. -/
def unite (keep first second : ManifestPolicy) : Except MergeError ManifestPolicy := do
  let firstSpec ← first.spec
  let secondSpec ← second.spec
  let target ← (← keep.spec).get "targetRef"
  let firstFields ← firstSpec.without "targetRef"
  let secondFields ← secondSpec.without "targetRef"
  let kind ← keep.kind
  match firstFields.union secondFields with
  | .error clash => throw (.conflict ⟨kind, .clash clash⟩)
  | .ok fields =>
    match target with
    | none | some .null => keep.withSpec (.object fields)
    | some reference => keep.withSpec (.object (Entries.set fields "targetRef" reference))

/-- Merge two inherited policies around the manifest of `keep`: each section is that of one
specification laid over that of another. -/
def layer (keep : ManifestPolicy) (spec : Document) (defaults overrides : Fields) :
    Except MergeError ManifestPolicy := do
  keep.withSpec ((spec.withSection "default" defaults).withSection "override" overrides)

def mergeLevels (ancestor descendant : Policy) : Except MergeError ManifestPolicy := do
  let (parent, child) ← reconcilable ancestor descendant
  if parent.inherited then
    let parentSpec ← parent.spec
    let spec ← child.spec
    let defaults ← Document.layerSection "default" parentSpec spec
    let overrides ← Document.layerSection "override" spec parentSpec
    child.layer spec defaults overrides
  else
    unite child parent child

/-- Merge two policies of one level, of which the first takes precedence. -/
def mergePeers (first second : Policy) : Except MergeError ManifestPolicy := do
  let (winner, loser) ← reconcilable first second
  if winner.inherited then
    let loserSpec ← loser.spec
    let spec ← winner.spec
    let defaults ← Document.layerSection "default" loserSpec spec
    let overrides ← Document.layerSection "override" loserSpec spec
    winner.layer spec defaults overrides
  else
    unite winner winner loser

end ManifestPolicy

end PolicyTopology
