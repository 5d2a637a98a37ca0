import PolicyTopology.Policy.Specification
import PolicyTopology.Table
import PolicyTopology.Traced

/-!
# Mergers

A kind merger combines two policies of one merge kind; a policy merger combines whole levels of
policies, one policy to a kind. Resolution needs only the latter. A merge may fail, and it may
note the calls that it makes: the trace of a merge is the list of those calls.
-/

namespace PolicyTopology

/-- The two ways of combining two policies. -/
inductive MergeOperation where
  /-- The first policy is of an ancestor, the second of a descendant. -/
  | levels
  /-- The policies are of one level, and the first takes precedence. -/
  | peers
deriving DecidableEq, Repr

/-- One call of a kind merger, with the qualified names of its arguments. -/
structure MergeCall where
  operation : MergeOperation
  first : String
  second : String
deriving DecidableEq, Repr

abbrev Merging := Traced MergeCall MergeError

/-- Combines two policies of one merge kind. -/
structure KindMerger where
  merge : MergeOperation → Policy → Policy → Merging Policy

abbrev PoliciesByKind := Table MergeKind Policy

namespace KindMerger

def specification : KindMerger where
  merge
    | .levels, ancestor, descendant => do
      return .manifest (← ManifestPolicy.mergeLevels ancestor descendant)
    | .peers, first, second => do
      return .manifest (← ManifestPolicy.mergePeers first second)

def keepFirst : KindMerger := ⟨fun _ first _ => pure first⟩

def keepSecond : KindMerger := ⟨fun _ _ second => pure second⟩

/-- Merge nothing: every pair is a conflict. -/
def refuse (reason : String) : KindMerger where
  merge _ first _ := do
    let kind ← (first.kind : Except MergeError MergeKind)
    Traced.fail (.conflict ⟨kind, .refused reason⟩)

/-- Note each call before it is made. -/
def recorded (merger : KindMerger) : KindMerger where
  merge operation first second := do
    let firstName ← (first.qualifiedName : Except MergeError String)
    let secondName ← (second.qualifiedName : Except MergeError String)
    Traced.note ⟨operation, firstName, secondName⟩
    merger.merge operation first second

end KindMerger

/-- Combines levels of policies. -/
structure PolicyMerger where
  /-- Merge the policies of one level into one to each kind. -/
  mergeLevel : List Policy → Merging PoliciesByKind
  /-- Lay the policies of a level over those of its ancestors. -/
  overlay : PoliciesByKind → PoliciesByKind → Merging PoliciesByKind
  /-- Reconcile two results of the same level; there may be no first one yet. -/
  reconcile : Option PoliciesByKind → PoliciesByKind → Merging PoliciesByKind

/-- Kind mergers by merge kind, with one for all other kinds. -/
structure MergerRegistry where
  fallback : KindMerger
  mergers : Table MergeKind KindMerger

namespace MergerRegistry

def specifications : MergerRegistry := ⟨.specification, .empty⟩

/-- Use `merger` for a merge kind from now on. -/
def register (registry : MergerRegistry) (kind : MergeKind) (merger : KindMerger) :
    MergerRegistry :=
  { registry with mergers := registry.mergers.set kind merger }

def mergerFor (registry : MergerRegistry) (kind : MergeKind) : KindMerger :=
  (registry.mergers.get? kind).getD registry.fallback

/-- Put `policy` under `kind`, combined with the policy that is there by `combine`. -/
def place (result : PoliciesByKind) (kind : MergeKind) (policy : Policy)
    (combine : Policy → Merging Policy) : Merging PoliciesByKind :=
  match result.get? kind with
  | none => pure (result.set kind policy)
  | some existing => do return result.set kind (← combine existing)

/-- Merge the policies of one level as peers, in order of precedence. -/
def mergeLevel (registry : MergerRegistry) (policies : List Policy) : Merging PoliciesByKind := do
  let ordered ← (Policy.byPrecedence (fun policy => policy) policies :
    Except MergeError (Entries ResourceId Policy))
  ordered.foldlM (fun result (id, policy) =>
    let kind : MergeKind := ⟨id.group, id.kind⟩
    place result kind policy fun existing =>
      (registry.mergerFor kind).merge .peers existing policy) .empty

/-- Lay a level over its ancestors, kind by kind. -/
def overlay (registry : MergerRegistry) (ancestor specific : PoliciesByKind) :
    Merging PoliciesByKind :=
  (Entries.sorted specific.entries).foldlM (fun result (kind, policy) =>
    place result kind policy fun parent =>
      (registry.mergerFor kind).merge .levels parent policy) ancestor

/-- Two policies in order of precedence; of equal identities the first comes first. -/
def inPrecedence (first second : Policy) : Except MergeError (Policy × Policy) := do
  let firstId ← first.id
  let secondId ← second.id
  return if firstId ≤ secondId then (first, second) else (second, first)

/-- Reconcile two results of the same level, kind by kind, as peers in order of precedence. -/
def reconcile (registry : MergerRegistry) (first : Option PoliciesByKind)
    (second : PoliciesByKind) : Merging PoliciesByKind :=
  (Entries.sorted second.entries).foldlM (fun result (kind, policy) =>
    place result kind policy fun existing => do
      let (a, b) ← inPrecedence existing policy
      (registry.mergerFor kind).merge .peers a b) (first.getD .empty)

def toPolicyMerger (registry : MergerRegistry) : PolicyMerger where
  mergeLevel := registry.mergeLevel
  overlay := registry.overlay
  reconcile := registry.reconcile

end MergerRegistry

end PolicyTopology
