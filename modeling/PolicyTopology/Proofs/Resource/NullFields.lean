import PolicyTopology.Policy
import PolicyTopology.Proofs.Document.Shedding
import PolicyTopology.Resource.Decode
import PolicyTopology.Snapshot

/-!
# Null fields of manifests

A null field may stand at eight places of a manifest whose fields are read. Sections, lists,
namespaces of references and API versions are read alike whether they are null or absent. A name is
not: an absent one has a default, and a null one is the literal form of null, as if it had been
written there. So null fields can be dropped freely exactly as long as none of them is a name.
-/

namespace PolicyTopology

/-- The objects of a manifest that are read field by field. -/
inductive Place where
  | manifest
  | metadata
  | spec
  | parentRef
  | rule
  | backendRef
  | grantTarget
  | policyTarget
deriving DecidableEq, Repr

namespace Document

section

variable (drops : Place → String → Prop)

/-- One object is another one without some null fields; all others are the same. -/
def ShedLeaf (place : Place) : Document → Document → Prop := Shed (drops place) fun _ => Eq

/-- A rule of a route may lose fields itself and in each of its references. -/
def ShedRule : Document → Document → Prop :=
  Shed (drops .rule) fun
    | .string "backendRefs" => Each (ShedLeaf drops .backendRef)
    | _ => Eq

/-- A specification may lose fields itself and in each object that it lists. -/
def ShedSpec : Document → Document → Prop :=
  Shed (drops .spec) fun
    | .string "parentRefs" => Each (ShedLeaf drops .parentRef)
    | .string "rules" => Each (ShedRule drops)
    | .string "to" => Each (ShedLeaf drops .grantTarget)
    | .string "targetRef" => ShedLeaf drops .policyTarget
    | _ => Eq

/-- One manifest is another one without some null fields, of those that `drops` allows to be dropped
at each place. -/
def LosesNulls : Document → Document → Prop :=
  Shed (drops .manifest) fun
    | .string "metadata" => ShedLeaf drops .metadata
    | .string "spec" => ShedSpec drops
    | _ => Eq

end

end Document

/-- Two manifests that every reader of resources reads alike, and every reader of policies but that
of the whole specification. -/
structure ReadAlike (first second : Document) : Prop where
  gatewayClass : GatewayClass.decode first = GatewayClass.decode second
  nameSpace : Namespace.decode first = Namespace.decode second
  gateway : Gateway.decode first = Gateway.decode second
  httpRoute : HttpRoute.decode first = HttpRoute.decode second
  backend : Backend.decode first = Backend.decode second
  referenceGrant : ReferenceGrant.decode first = ReferenceGrant.decode second
  policyName (inherited : Bool) :
    (ManifestPolicy.mk first inherited).name = (ManifestPolicy.mk second inherited).name
  policyNameSpace (inherited : Bool) :
    (ManifestPolicy.mk first inherited).nameSpace = (ManifestPolicy.mk second inherited).nameSpace
  policyTarget (inherited : Bool) :
    (ManifestPolicy.mk first inherited).target = (ManifestPolicy.mk second inherited).target
  policyKind (inherited : Bool) :
    (ManifestPolicy.mk first inherited).kind = (ManifestPolicy.mk second inherited).kind

/-- The places of objects that refer to another one, by group, kind and name. -/
def Place.references : List Place := [.parentRef, .backendRef, .grantTarget, .policyTarget]

def referenceFields : List String := ["group", "kind", "name"]

/-- The fields that are read as names whatever they hold, null included: only an absent one has a
default. -/
def nameFields : List (Place × String) :=
  [(.manifest, "kind"), (.metadata, "name"), (.metadata, "namespace"), (.spec, "controllerName"),
    (.spec, "gatewayClassName")] ++ Place.references.product referenceFields

/-- No field that is read as a name may be dropped. -/
def SparesNames (drops : Place → String → Prop) : Prop :=
  ∀ field ∈ nameFields, ¬ drops field.1 field.2

section

open Document

variable {drops : Place → String → Prop} {before after : Document}

namespace Document.LosesNulls

theorem metadata (h : LosesNulls drops before after) :
    Except.Alike (ShedLeaf drops .metadata) (before.getPresent "metadata")
      (after.getPresent "metadata") :=
  Shed.getPresent h rfl

theorem spec (h : LosesNulls drops before after) :
    Except.Alike (ShedSpec drops) (before.getPresent "spec") (after.getPresent "spec") :=
  Shed.getPresent h rfl

end Document.LosesNulls

namespace SparesNames

variable (spares : SparesNames drops)
include spares

/-- A name is read alike from an object that has lost null fields. -/
theorem nameAt {place : Place} {object other : Document} (shed : ShedLeaf drops place object other)
    (name : String) (field : (place, name) ∈ nameFields) (fallback : String) :
    object.nameAt name fallback = other.nameAt name fallback :=
  Shed.nameAt shed rfl (spares (place, name) field) fallback

omit spares in
theorem mem_nameFields {place : Place} (listed : place ∈ Place.references) {name : String}
    (field : name ∈ referenceFields) : (place, name) ∈ nameFields :=
  List.mem_append_right _ (List.pair_mem_product.mpr ⟨listed, field⟩)

theorem objectRefs {place : Place} {references others : List Document}
    (each : List.Forall₂ (ShedLeaf drops place) references others)
    (listed : place ∈ Place.references) (nameSpace group kind : String) :
    references.mapM (ObjectRef.decode nameSpace group kind) =
      others.mapM (ObjectRef.decode nameSpace group kind) := by
  refine Except.Alike.mapM (fun reference other shed => ?_) each
  unfold ObjectRef.decode
  rw [Shed.nameAt? shed rfl, spares.nameAt shed "name" (mem_nameFields listed (by decide)),
    spares.nameAt shed "group" (mem_nameFields listed (by decide)),
    spares.nameAt shed "kind" (mem_nameFields listed (by decide))]

theorem grantTargets {targets others : List Document}
    (each : List.Forall₂ (ShedLeaf drops .grantTarget) targets others) :
    targets.mapM GrantTarget.decode = others.mapM GrantTarget.decode := by
  refine Except.Alike.mapM (fun target other shed => ?_) each
  unfold GrantTarget.decode
  rw [spares.nameAt shed "name" (by decide), spares.nameAt shed "group" (by decide),
    spares.nameAt shed "kind" (by decide)]

end SparesNames

/-- The group of an API version does not tell null from an absent version of the core group. -/
theorem Document.LosesNulls.group {fallback : String} (core : groupOf fallback = "")
    (h : LosesNulls drops before after) :
    Except.Alike (fun version other => groupOf version = groupOf other)
      (before.nameAt "apiVersion" fallback) (after.nameAt "apiVersion" fallback) := by
  refine (Shed.get h "apiVersion").map fun field other found => ?_
  refine FoundAlike.read found (fun field => groupOf ((field.map text).getD fallback)) fun _ => ?_
  have null : groupOf (text .null) = "" := by decide
  exact null.trans core.symm

theorem Document.LosesNulls.kind (h : LosesNulls drops before after) (spares : SparesNames drops)
    (fallback : String) : before.nameAt "kind" fallback = after.nameAt "kind" fallback :=
  Shed.nameAt h rfl (spares (.manifest, "kind") (by decide)) fallback

section

variable (h : LosesNulls drops before after) (spares : SparesNames drops)
include h spares

theorem GatewayClass.decode_eq : GatewayClass.decode before = GatewayClass.decode after := by
  refine Except.Alike.eq (h.metadata.bind fun metadata _ shed => ?_)
  rw [spares.nameAt shed "name" (by decide)]
  refine .bind_eq rfl fun name => h.spec.bind fun spec _ shed => ?_
  rw [Shed.nameAt shed rfl (spares (.spec, "controllerName") (by decide))]
  exact .refl _

theorem Namespace.decode_eq : Namespace.decode before = Namespace.decode after := by
  refine Except.Alike.eq (h.metadata.bind fun metadata _ shed => ?_)
  rw [spares.nameAt shed "name" (by decide), Shed.getPresent_eq shed rfl]
  exact .refl _

theorem Gateway.decode_eq : Gateway.decode before = Gateway.decode after := by
  refine Except.Alike.eq (h.metadata.bind fun metadata _ shed => ?_)
  rw [spares.nameAt shed "name" (by decide), spares.nameAt shed "namespace" (by decide)]
  refine .bind_eq rfl fun nameSpace => .bind_eq rfl fun name => h.spec.bind fun spec _ shed => ?_
  rw [Shed.nameAt shed rfl (spares (.spec, "gatewayClassName") (by decide))]
  exact .refl _

theorem HttpRoute.decode_eq : HttpRoute.decode before = HttpRoute.decode after := by
  refine Except.Alike.eq (h.metadata.bind fun metadata _ shed => h.spec.bind fun spec _ shed' => ?_)
  rw [spares.nameAt shed "name" (by decide), spares.nameAt shed "namespace" (by decide)]
  refine .bind_eq rfl fun nameSpace => (Shed.itemsAt shed' rfl).bind fun parents _ each => ?_
  refine .bind_eq (spares.objectRefs each (by decide) _ _ _) fun parentRefs => ?_
  refine (Shed.itemsAt shed' rfl).bind fun rules _ each => ?_
  refine .bind_eq (Except.Alike.mapM (fun rule _ shed => ?_) each) fun backendRefs => .refl _
  refine Except.Alike.eq ((Shed.itemsAt shed rfl).bind fun references _ each => ?_)
  rw [spares.objectRefs each (by decide)]
  exact .refl _

theorem ReferenceGrant.decode_eq : ReferenceGrant.decode before = ReferenceGrant.decode after := by
  refine Except.Alike.eq (h.metadata.bind fun metadata _ shed => ?_)
  rw [spares.nameAt shed "name" (by decide), spares.nameAt shed "namespace" (by decide)]
  refine .bind_eq rfl fun nameSpace => .bind_eq rfl fun name => h.spec.bind fun spec _ shed => ?_
  exact (Shed.itemsAt shed rfl).bind fun targets _ each =>
    .bind_eq (spares.grantTargets each) fun _ => .refl _

theorem Backend.decode_eq : Backend.decode before = Backend.decode after := by
  refine Except.Alike.eq (h.metadata.bind fun metadata _ shed => ?_)
  rw [spares.nameAt shed "name" (by decide), spares.nameAt shed "namespace" (by decide),
    h.kind spares]
  refine .bind_eq rfl fun nameSpace => .bind_eq rfl fun name =>
    (LosesNulls.group (by decide) h).bind fun version _ same => ?_
  rw [same]
  exact .refl _

theorem ManifestPolicy.name_eq (inherited : Bool) :
    (ManifestPolicy.mk before inherited).name = (ManifestPolicy.mk after inherited).name := by
  refine Except.Alike.eq (h.metadata.bind fun metadata _ shed => ?_)
  rw [spares.nameAt shed "name" (by decide)]
  exact .refl _

theorem ManifestPolicy.nameSpace_eq (inherited : Bool) :
    (ManifestPolicy.mk before inherited).nameSpace =
      (ManifestPolicy.mk after inherited).nameSpace := by
  refine Except.Alike.eq (h.metadata.bind fun metadata _ shed => ?_)
  rw [spares.nameAt shed "namespace" (by decide)]
  exact .refl _

theorem ManifestPolicy.kind_eq (inherited : Bool) :
    (ManifestPolicy.mk before inherited).kind = (ManifestPolicy.mk after inherited).kind := by
  refine Except.Alike.eq ((LosesNulls.group (by decide) h).bind fun version _ same => ?_)
  rw [h.kind spares, same]
  exact .refl _

theorem ManifestPolicy.target_eq (inherited : Bool) :
    (ManifestPolicy.mk before inherited).target = (ManifestPolicy.mk after inherited).target := by
  refine Except.Alike.eq (h.spec.bind fun spec _ shed => ?_)
  refine (Shed.getPresent shed rfl).bind fun reference _ shed => ?_
  rw [spares.nameAt shed "group" (by decide), spares.nameAt shed "kind" (by decide),
    spares.nameAt shed "name" (by decide), Shed.nameAt? shed rfl,
    ManifestPolicy.nameSpace_eq h spares]
  exact .refl _

/-- No reader notices that null fields were dropped if none of them is read as a name. -/
theorem Document.LosesNulls.readAlike : ReadAlike before after where
  gatewayClass := GatewayClass.decode_eq h spares
  nameSpace := Namespace.decode_eq h spares
  gateway := Gateway.decode_eq h spares
  httpRoute := HttpRoute.decode_eq h spares
  backend := Backend.decode_eq h spares
  referenceGrant := ReferenceGrant.decode_eq h spares
  policyName := ManifestPolicy.name_eq h spares
  policyNameSpace := ManifestPolicy.nameSpace_eq h spares
  policyTarget := ManifestPolicy.target_eq h spares
  policyKind := ManifestPolicy.kind_eq h spares

end

end

/-! ### Null where a name is read -/

def Document.only (key : String) (value : Document) : Document := .object [(key, value)]

/-- A manifest with an object of the given fields at a place and nothing else. -/
def Place.holding (fields : Fields) : Place → Document
  | .manifest => .object fields
  | .metadata => .only "metadata" (.object fields)
  | .spec => .only "spec" (.object fields)
  | .parentRef => .only "spec" (.only "parentRefs" (.array [.object fields]))
  | .rule => .only "spec" (.only "rules" (.array [.object fields]))
  | .backendRef =>
    .only "spec" (.only "rules" (.array [.only "backendRefs" (.array [.object fields])]))
  | .grantTarget => .only "spec" (.only "to" (.array [.object fields]))
  | .policyTarget => .only "spec" (.only "targetRef" (.object fields))

namespace Document

theorem Shed.only {drops : String → Prop} {below : Scalar → Document → Document → Prop}
    {key : String} {value other : Document} (h : below key value other) :
    Shed drops below (only key value) (only key other) :=
  .object (.keep h .nil)

theorem Each.single {related : Document → Document → Prop} {item other : Document}
    (h : related item other) : Each related (.array [item]) (.array [other]) :=
  .array (.cons h .nil)

theorem losesNulls_holding {drops : Place → String → Prop} {place : Place} {name : String}
    (h : drops place name) :
    LosesNulls drops (place.holding [(name, .null)]) (place.holding []) := by
  have lost (below : Scalar → Document → Document → Prop) :
      Shed (drops place) below (.object [(name, .null)]) (.object []) := .object (.drop h rfl .nil)
  cases place with
  | manifest => exact lost _
  | metadata => exact .only (lost _)
  | spec => exact .only (lost _)
  | parentRef => exact .only (Shed.only (Each.single (lost _)))
  | rule => exact .only (Shed.only (Each.single (lost _)))
  | backendRef => exact .only (Shed.only (Each.single (Shed.only (Each.single (lost _)))))
  | grantTarget => exact .only (Shed.only (Each.single (lost _)))
  | policyTarget => exact .only (Shed.only (lost _))

end Document

/-- The names that are read from a manifest by readers that succeed. -/
structure NamesRead where
  backend : Option Backend
  controller : Option String
  gateway : Option (ResourceId × String)
  references : Option (List ObjectRef × List ObjectRef)
  grantTargets : Option (List GrantTarget)
  policyTarget : Option ObjectRef
deriving DecidableEq

def NamesRead.of (manifest : Document) : NamesRead where
  backend := (Backend.decode manifest).toOption
  controller := (GatewayClass.decode manifest).toOption.map GatewayClass.controllerName
  gateway := (Gateway.decode manifest).toOption.map fun gateway => (gateway.id, gateway.className)
  references :=
    (HttpRoute.decode manifest).toOption.map fun route => (route.parentRefs, route.backendRefs)
  grantTargets := (ReferenceGrant.decode manifest).toOption.map ReferenceGrant.targets
  policyTarget := (ManifestPolicy.mk manifest true).target.toOption

theorem ReadAlike.names_eq {first second : Document} (h : ReadAlike first second) :
    NamesRead.of first = NamesRead.of second := by
  unfold NamesRead.of
  rw [h.backend, h.gatewayClass, h.gateway, h.httpRoute, h.referenceGrant, h.policyTarget]

/-- Every name is told apart from an absent one by some reader if it is null. -/
theorem namesRead_of_null : ∀ field ∈ nameFields,
    NamesRead.of (field.1.holding [(field.2, .null)]) ≠ NamesRead.of (field.1.holding []) := by
  decide +kernel

/-- Null fields may be dropped from manifests without any reader noticing if none of them is read as
a name, and only then. -/
theorem readAlike_iff_sparesNames (drops : Place → String → Prop) :
    (∀ before after, Document.LosesNulls drops before after → ReadAlike before after) ↔
      ∀ field ∈ nameFields, ¬ drops field.1 field.2 := by
  constructor
  · intro alike field listed dropped
    exact namesRead_of_null field listed (alike _ _ (Document.losesNulls_holding dropped)).names_eq
  · intro spares before after lost
    exact lost.readAlike spares

def routeWithParent (fields : Fields) : Document :=
  .object [("metadata", .object [("name", .string "r"), ("namespace", .string "n")]),
    ("spec", .only "parentRefs" (.array [.object (("name", .string "g") :: fields)]))]

/-- A parent of null kind is no gateway, and one without a kind is. -/
theorem nullKind_ignored :
    Document.LosesNulls (fun _ _ => True) (routeWithParent [("kind", .null)]) (routeWithParent []) ∧
      (HttpRoute.decode (routeWithParent [("kind", .null)])).map HttpRoute.parentRefs =
        .ok [⟨gatewayGroup, "None", "n", "g"⟩] ∧
      (HttpRoute.decode (routeWithParent [])).map HttpRoute.parentRefs =
        .ok [⟨gatewayGroup, "Gateway", "n", "g"⟩] ∧
      ObjectRef.isGateway ⟨gatewayGroup, "None", "n", "g"⟩ = false ∧
      ObjectRef.isGateway ⟨gatewayGroup, "Gateway", "n", "g"⟩ = true := by
  refine ⟨.object (.keep ?_ (.keep (.only ?_) .nil)), rfl, rfl, by decide, by decide⟩
  · exact .object (.keep rfl (.keep rfl .nil))
  · exact .single (.object (.keep rfl (.drop trivial rfl .nil)))

end PolicyTopology
