import PolicyTopology.Text.CodePoint

/-!
# Identities

Every node of a topology is named by its kind and the parts of its natural key. The parts stay
apart, so names that hold separators never make two resources collide; the text of an identity is
for people. Identities and merge kinds are ordered part by part, and the parts by code points.
-/

namespace PolicyTopology

inductive NodeKind where
  | backend
  | gateway
  | gatewayClass
  | httpRoute
  | nameSpace
  | policy
  | referenceGrant
deriving DecidableEq, Repr

namespace NodeKind

def name : NodeKind → String
  | .backend => "Backend"
  | .gateway => "Gateway"
  | .gatewayClass => "GatewayClass"
  | .httpRoute => "HTTPRoute"
  | .nameSpace => "Namespace"
  | .policy => "Policy"
  | .referenceGrant => "ReferenceGrant"

def all : List NodeKind :=
  [.backend, .gateway, .gatewayClass, .httpRoute, .nameSpace, .policy, .referenceGrant]

def ofName? (name : String) : Option NodeKind := all.find? fun kind => kind.name == name

theorem name_injective {first second : NodeKind} (h : first.name = second.name) :
    first = second := by
  revert h
  cases first <;> cases second <;> decide

end NodeKind

/-- The identity of a node. Parts that a kind does not use are empty. -/
structure ResourceId where
  nodeKind : NodeKind
  group : String
  kind : String
  nameSpace : String
  name : String
deriving DecidableEq, Repr

namespace ResourceId

def gatewayClass (name : String) : ResourceId := ⟨.gatewayClass, "", "", "", name⟩

def ofNamespace (name : String) : ResourceId := ⟨.nameSpace, "", "", "", name⟩

def gateway (nameSpace name : String) : ResourceId := ⟨.gateway, "", "", nameSpace, name⟩

def httpRoute (nameSpace name : String) : ResourceId := ⟨.httpRoute, "", "", nameSpace, name⟩

/-- The identity of a backend. Any kind of object can be one, so group and kind belong to it. -/
def backend (group kind nameSpace name : String) : ResourceId :=
  ⟨.backend, group, kind, nameSpace, name⟩

def referenceGrant (nameSpace name : String) : ResourceId :=
  ⟨.referenceGrant, "", "", nameSpace, name⟩

def policy (group kind nameSpace name : String) : ResourceId :=
  ⟨.policy, group, kind, nameSpace, name⟩

/-- The identity of a node of a kind from the parts that the kind uses, in their order. -/
def ofParts? : NodeKind → List String → Option ResourceId
  | .gatewayClass, [name] => some (gatewayClass name)
  | .nameSpace, [name] => some (ofNamespace name)
  | .gateway, [nameSpace, name] => some (gateway nameSpace name)
  | .httpRoute, [nameSpace, name] => some (httpRoute nameSpace name)
  | .backend, [group, kind, nameSpace, name] => some (backend group kind nameSpace name)
  | .referenceGrant, [nameSpace, name] => some (referenceGrant nameSpace name)
  | .policy, [group, kind, nameSpace, name] => some (policy group kind nameSpace name)
  | _, _ => none

def parts (id : ResourceId) : List String :=
  [id.nodeKind.name, id.group, id.kind, id.nameSpace, id.name]

def orderKey (id : ResourceId) : List (List Nat) := id.parts.map Text.codePoints

instance : LE ResourceId := ⟨fun first second => ¬ second.orderKey < first.orderKey⟩

instance : DecidableLE ResourceId := fun first second =>
  inferInstanceAs (Decidable (¬ second.orderKey < first.orderKey))

theorem parts_injective {first second : ResourceId} (h : first.parts = second.parts) :
    first = second := by
  obtain ⟨k₁, g₁, c₁, s₁, n₁⟩ := first
  obtain ⟨k₂, g₂, c₂, s₂, n₂⟩ := second
  simp only [parts, List.cons.injEq, and_true] at h
  obtain ⟨hk, rfl, rfl, rfl, rfl⟩ := h
  rw [NodeKind.name_injective hk]

theorem orderKey_injective {first second : ResourceId} (h : first.orderKey = second.orderKey) :
    first = second :=
  parts_injective (List.map_inj_right (fun _ _ => Text.codePoints_injective) |>.mp h)

/-- The text of an identity: its kind, then the parts in use and always the name. -/
def text (id : ResourceId) : String :=
  id.nodeKind.name ++ "::" ++
    "/".intercalate ([id.group, id.kind, id.nameSpace].filter (· ≠ "") ++ [id.name])

end ResourceId

/-- Identities in ascending order. -/
def sortedIds (ids : List ResourceId) : List ResourceId :=
  ids.mergeSort fun first second => first ≤ second

/-- The group and kind of a policy's definition; policies of one merge kind are merged. -/
structure MergeKind where
  group : String
  kind : String
deriving DecidableEq, Repr

namespace MergeKind

def parts (kind : MergeKind) : List String := [kind.group, kind.kind]

def orderKey (kind : MergeKind) : List (List Nat) := kind.parts.map Text.codePoints

instance : LE MergeKind := ⟨fun first second => ¬ second.orderKey < first.orderKey⟩

instance : DecidableLE MergeKind := fun first second =>
  inferInstanceAs (Decidable (¬ second.orderKey < first.orderKey))

/-- The text of a merge kind: the kind, qualified by its group if it has one. -/
def text (kind : MergeKind) : String :=
  if kind.group = "" then kind.kind else kind.kind ++ "." ++ kind.group

end MergeKind

end PolicyTopology
