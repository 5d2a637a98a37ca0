import PolicyTopology.Policy.Merger
import PolicyTopology.Proofs.Document.Reading
import PolicyTopology.Proofs.Traced

/-!
# Merged specifications

What the merge of two manifest policies comes to when the parts that it reads have the shapes that
it asks for. The merged policy has the identity of the policy whose manifest it keeps. Of inherited
policies each section is one laid over the other; direct policies are united, or they clash. A
merge of such policies has no faults, and its result has the same shape.
-/

namespace PolicyTopology

namespace Fields

/-- The fields of a section: those of an object, and none where nothing is present. -/
def sectionFields? (spec : Fields) (name : String) : Option Fields :=
  match Document.orEmpty (Entries.get? spec name) with
  | .object fields => some fields
  | _ => none

variable {spec fields defaults overrides : Fields} {name other : String}

theorem getPresent_of_sectionFields? (h : spec.sectionFields? name = some fields) :
    Document.getPresent (.object spec) name = .ok (.object fields) := by
  unfold sectionFields? at h
  change Except.ok (Document.orEmpty (Entries.get? spec name)) = _
  split at h
  · next found => rw [found, Option.some.inj h]
  · cases h

theorem sectionFields?_set_self (fields : Fields) :
    sectionFields? (Entries.set spec name (.object fields)) name = some fields := by
  unfold sectionFields?
  rw [Entries.get?_set_self, Document.orEmpty_some]
  cases fields with
  | nil => rfl
  | cons field rest => rfl

theorem get?_set_name (value : Document) (h : name ≠ other) :
    Entries.get? (Entries.set spec name value) other = Entries.get? spec other :=
  Entries.get?_set_ne spec value (by simpa using h)

theorem sectionFields?_set_ne (value : Document) (h : name ≠ other) :
    sectionFields? (Entries.set spec name value) other = spec.sectionFields? other := by
  unfold sectionFields?
  rw [get?_set_name value h]

def writeSection (spec : Fields) (name : String) (fields : Fields) : Fields :=
  if fields.isEmpty then spec else Entries.set spec name (.object fields)

theorem withSection_object (spec fields : Fields) (name : String) :
    Document.withSection (.object spec) name fields = .object (spec.writeSection name fields) := by
  unfold Document.withSection writeSection
  dsimp only
  split <;> rfl

/-- What was written to a section is there, if an empty one stood where an empty one was left
unwritten. -/
theorem sectionFields?_writeSection
    (unwritten : fields = [] → spec.sectionFields? name = some []) :
    (spec.writeSection name fields).sectionFields? name = some fields := by
  unfold writeSection
  split
  · next none =>
    have none := List.isEmpty_iff.mp none
    rw [none]
    exact unwritten none
  · exact sectionFields?_set_self fields

theorem sectionFields?_writeSection_ne (h : name ≠ other) :
    (spec.writeSection name fields).sectionFields? other = spec.sectionFields? other := by
  unfold writeSection
  split
  · rfl
  · exact sectionFields?_set_ne _ h

/-- So it is with both sections. -/
theorem sectionFields?_written
    (hd : defaults = [] → spec.sectionFields? "default" = some [])
    (ho : overrides = [] → spec.sectionFields? "override" = some []) :
    ((spec.writeSection "default" defaults).writeSection "override" overrides).sectionFields?
        "default" = some defaults ∧
      ((spec.writeSection "default" defaults).writeSection "override" overrides).sectionFields?
        "override" = some overrides := by
  constructor
  · rw [sectionFields?_writeSection_ne (by decide)]
    exact sectionFields?_writeSection hd
  · refine sectionFields?_writeSection fun empty => ?_
    rw [sectionFields?_writeSection_ne (by decide)]
    exact ho empty

end Fields

namespace ManifestPolicy

variable {policy : ManifestPolicy} {fields : Fields}

def replaceSpec (inherited : Bool) (fields spec : Fields) : ManifestPolicy where
  manifest := .object (Entries.set fields "spec" (.object spec))
  inherited := inherited

theorem withSpec_object (h : policy.manifest = .object fields) (spec : Fields) :
    policy.withSpec (.object spec) = .ok (replaceSpec policy.inherited fields spec) := by
  unfold withSpec
  rw [h, Document.write_object]
  rfl

theorem spec_replaceSpec (inherited : Bool) (fields spec : Fields) :
    (replaceSpec inherited fields spec).spec = .ok (.object spec) := by
  change Except.ok (Document.orEmpty (Entries.get? (Entries.set fields "spec" _) _)) = _
  rw [Entries.get?_set_self, Document.orEmpty_some]
  cases spec with
  | nil => rfl
  | cons field rest => rfl

theorem get_replaceSpec (inherited : Bool) (spec : Fields) {key : String} (h : "spec" ≠ key) :
    (replaceSpec inherited fields spec).manifest.get key = Document.get (.object fields) key := by
  change Except.ok (Entries.get? (Entries.set fields "spec" _) _) = _
  rw [Fields.get?_set_name _ h]
  rfl

/-- Neither identity nor merge kind is a matter of the specification. -/
theorem id_replaceSpec (h : policy.manifest = .object fields) (spec : Fields) :
    (Policy.manifest (replaceSpec policy.inherited fields spec)).id =
      (Policy.manifest policy).id := by
  simp only [Policy.id, Policy.kind, Policy.nameSpace, Policy.name, kind, nameSpace, name,
    Document.nameAt, Document.getPresent, h,
    get_replaceSpec policy.inherited spec (show "spec" ≠ "apiVersion" by decide),
    get_replaceSpec policy.inherited spec (show "spec" ≠ "kind" by decide),
    get_replaceSpec policy.inherited spec (show "spec" ≠ "metadata" by decide)]

theorem kind_replaceSpec (h : policy.manifest = .object fields) (spec : Fields) :
    (replaceSpec policy.inherited fields spec).kind = policy.kind := by
  simp only [kind, Document.nameAt, h,
    get_replaceSpec policy.inherited spec (show "spec" ≠ "apiVersion" by decide),
    get_replaceSpec policy.inherited spec (show "spec" ≠ "kind" by decide)]

end ManifestPolicy

/-- A part that can be read is read without a fault. -/
theorem Except.lift_ok_bind {α β : Type} (value : α) (next : α → Except MergeError β) :
    ((liftM (Except.ok value : Except ShapeError α) : Except MergeError α) >>= next) =
      next value := rfl

/-- What a merge reads of a policy is what can be read of it. -/
theorem Except.lift_ok_iff {α : Type} {computation : Except ShapeError α} {value : α} :
    (liftM computation : Except MergeError α) = .ok value ↔ computation = .ok value :=
  Except.mapError_ok_iff

namespace Policy

/-- The fields of the specification of a policy, none if it has no such specification. -/
def specFields : Policy → Fields
  | .manifest policy =>
    match policy.spec with
    | .ok (.object spec) => spec
    | _ => []
  | .plain _ => []

def sectionFields (name : String) (policy : Policy) : Fields :=
  (policy.specFields.sectionFields? name).getD []

def directFields (policy : Policy) : Fields := Entries.erase policy.specFields "targetRef"

end Policy

/-- A manifest policy of which every part that a merge reads has the shape that it asks for: an
identity, a specification that is an object or not present, and the same of each section of an
inherited policy. -/
structure ManifestPolicy.Shaped (policy : ManifestPolicy) : Prop where
  id : ∃ id, (Policy.manifest policy).id = .ok id
  spec : policy.spec = .ok (.object (Policy.manifest policy).specFields)
  sections : policy.inherited = true → ∀ name ∈ ["default", "override"],
    ∃ fields, (Policy.manifest policy).specFields.sectionFields? name = some fields

/-- A policy of which a merge can read every part. -/
def Policy.Shaped : Policy → Prop
  | .manifest policy => policy.Shaped
  | .plain _ => False

theorem Policy.Shaped.exists_id {policy : Policy} (h : policy.Shaped) :
    ∃ id, policy.id = .ok id := by
  cases policy with
  | manifest policy => exact h.id
  | plain policy => exact h.elim

theorem Policy.parts_of_id {policy : Policy} {id : ResourceId} (h : policy.id = .ok id) :
    policy.kind = .ok ⟨id.group, id.kind⟩ ∧ policy.nameSpace = .ok id.nameSpace ∧
      policy.name = .ok id.name := by
  unfold Policy.id at h
  simp only [Except.bind_ok_iff] at h
  obtain ⟨kind, hkind, nameSpace, hnameSpace, name, hname, same⟩ := h
  cases same
  exact ⟨hkind, hnameSpace, hname⟩

theorem Policy.exists_kind_of_id {policy : Policy} (h : ∃ id, policy.id = .ok id) :
    ∃ kind, policy.kind = .ok kind := by
  obtain ⟨id, found⟩ := h
  exact ⟨_, (parts_of_id found).1⟩

namespace ManifestPolicy

variable {policy keep first second : ManifestPolicy} {fields spec : Fields} {name : String}

/-- A target can only be read in a specification that is an object. -/
theorem spec_of_target {reference : ObjectRef}
    (h : policy.target = .ok reference) :
    policy.spec = .ok (.object (Policy.manifest policy).specFields) := by
  unfold ManifestPolicy.target at h
  obtain ⟨spec, found, h⟩ := Except.bind_ok_iff.mp h
  obtain ⟨field, read, _⟩ := Except.bind_ok_iff.mp h
  unfold Policy.specFields
  dsimp only
  rw [found]
  cases spec with
  | object fields => rfl
  | scalar value => cases read
  | array items => cases read

theorem Shaped.getPresent (h : policy.Shaped) (inherited : policy.inherited = true)
    (member : name ∈ ["default", "override"]) :
    Document.getPresent (.object (Policy.manifest policy).specFields) name =
      .ok (.object ((Policy.manifest policy).sectionFields name)) := by
  obtain ⟨fields, found⟩ := h.sections inherited name member
  rw [Fields.getPresent_of_sectionFields? found, Policy.sectionFields, found, Option.getD_some]

/-- A specification can only be read in a manifest that has fields. -/
theorem exists_fields_of_spec {spec : Document} (h : policy.spec = .ok spec) :
    ∃ fields, policy.manifest = .object fields := by
  unfold ManifestPolicy.spec at h
  cases same : policy.manifest with
  | object fields => exact ⟨fields, rfl⟩
  | scalar value =>
      rw [same] at h
      cases h
  | array items =>
      rw [same] at h
      cases h

theorem Shaped.exists_fields (h : policy.Shaped) : ∃ fields, policy.manifest = .object fields :=
  exists_fields_of_spec h.spec

theorem specFields_replaceSpec (inherited : Bool) (fields spec : Fields) :
    (Policy.manifest (replaceSpec inherited fields spec)).specFields = spec := by
  unfold Policy.specFields
  dsimp only
  rw [spec_replaceSpec]

theorem shaped_replaceSpec (h : policy.Shaped) (same : policy.manifest = .object fields)
    (sections : policy.inherited = true → ∀ name ∈ ["default", "override"],
      ∃ fields, spec.sectionFields? name = some fields) :
    (replaceSpec policy.inherited fields spec).Shaped where
  id := by
    rw [id_replaceSpec same]
    exact h.id
  spec := by
    rw [specFields_replaceSpec]
    exact spec_replaceSpec ..
  sections := by
    rw [specFields_replaceSpec]
    exact sections

/-- A merged policy keeps what is outside the specification of the policy it is kept from. -/
structure KeptFrom (keep merged : ManifestPolicy) : Prop where
  shaped : merged.Shaped
  id : (Policy.manifest merged).id = (Policy.manifest keep).id
  inherited : merged.inherited = keep.inherited

/-- Merging inherited policies leaves the two given sections. -/
theorem layer_shaped (h : keep.Shaped) (inherited : keep.inherited = true)
    {defaults overrides : Fields}
    (noDefaults : defaults = [] → (Policy.manifest keep).sectionFields "default" = [])
    (noOverrides : overrides = [] → (Policy.manifest keep).sectionFields "override" = []) :
    ∃ merged,
      keep.layer (.object (Policy.manifest keep).specFields) defaults overrides = .ok merged ∧
      KeptFrom keep merged ∧
      (Policy.manifest merged).sectionFields "default" = defaults ∧
      (Policy.manifest merged).sectionFields "override" = overrides := by
  obtain ⟨fields, same⟩ := h.exists_fields
  obtain ⟨formerDefaults, hd⟩ := h.sections inherited "default" (by simp)
  obtain ⟨formerOverrides, ho⟩ := h.sections inherited "override" (by simp)
  rw [Policy.sectionFields, hd, Option.getD_some] at noDefaults
  rw [Policy.sectionFields, ho, Option.getD_some] at noOverrides
  generalize (Policy.manifest keep).specFields = spec at hd ho ⊢
  obtain ⟨first, last⟩ : _ ∧ _ := Fields.sectionFields?_written
    (fun empty => by rw [hd, noDefaults empty]) (fun empty => by rw [ho, noOverrides empty])
  generalize written : (spec.writeSection "default" defaults).writeSection "override" overrides =
    merged at first last
  refine ⟨replaceSpec keep.inherited fields merged, ?_, ⟨?_, id_replaceSpec same merged, rfl⟩,
    ?_, ?_⟩
  · unfold layer
    rw [Fields.withSection_object, Fields.withSection_object, written, withSpec_object same]
    rfl
  · refine shaped_replaceSpec h same fun _ name member => ?_
    simp only [List.mem_cons, List.not_mem_nil, or_false] at member
    rcases member with rfl | rfl
    · exact ⟨defaults, first⟩
    · exact ⟨overrides, last⟩
  · rw [Policy.sectionFields, specFields_replaceSpec, first, Option.getD_some]
  · rw [Policy.sectionFields, specFields_replaceSpec, last, Option.getD_some]

/-- Two policies can be reconciled if they are of one kind and agree on inheritance. -/
theorem reconcilable_of_agree (readable : ∃ kind, second.kind = .ok kind)
    (kinds : first.kind = second.kind) (inheritance : first.inherited = second.inherited) :
    reconcilable (.manifest first) (.manifest second) = .ok (first, second) := by
  obtain ⟨kind, found⟩ := readable
  unfold reconcilable
  simp only [kinds, found, inheritance, Except.lift_ok_bind, ne_eq, not_true_eq_false, if_false]
  rfl

/-- Only manifest policies of one kind that agree on inheritance are reconcilable. -/
theorem reconcilable_ok_iff {ancestor descendant : Policy} :
    reconcilable ancestor descendant = .ok (first, second) ↔
      ancestor = .manifest first ∧ descendant = .manifest second ∧
        first.inherited = second.inherited ∧
        ∃ kind, first.kind = .ok kind ∧ second.kind = .ok kind := by
  constructor
  · intro h
    unfold reconcilable at h
    split at h
    · simp only [Except.bind_ok_iff, Except.lift_ok_iff] at h
      obtain ⟨kind, found, other, found', h⟩ := h
      split at h
      · cases h
      · next same =>
        rw [← Classical.not_not.mp same] at found'
        split at h
        · simp only [Except.bind_ok_iff] at h
          obtain ⟨_, _, _, _, _, impossible, _⟩ := h
          cases impossible
        · next inheritance =>
          cases h
          exact ⟨rfl, rfl, Classical.not_not.mp inheritance, kind, found, found'⟩
    · cases h
  · rintro ⟨rfl, rfl, inheritance, kind, found, found'⟩
    exact reconcilable_of_agree ⟨kind, found'⟩ (found.trans found'.symm) inheritance

theorem qualifiedName_of_id {policy : Policy} {id : ResourceId} (h : policy.id = .ok id) :
    policy.qualifiedName = .ok (id.nameSpace ++ "/" ++ id.name) := by
  obtain ⟨_, nameSpace, name⟩ := Policy.parts_of_id h
  unfold Policy.qualifiedName
  rw [nameSpace, name]
  rfl

/-- Otherwise they conflict. -/
theorem reconcilable_conflict (hf : ∃ id, (Policy.manifest first).id = .ok id)
    (hs : ∃ id, (Policy.manifest second).id = .ok id)
    (differ : ¬ (first.kind = second.kind ∧ first.inherited = second.inherited)) :
    ∃ conflict, reconcilable (.manifest first) (.manifest second) =
      .error (.conflict conflict) := by
  obtain ⟨id, found⟩ := hf
  obtain ⟨other, found'⟩ := hs
  have kind : first.kind = .ok _ := (Policy.parts_of_id found).1
  have kind' : second.kind = .ok _ := (Policy.parts_of_id found').1
  rw [kind, kind'] at differ
  unfold reconcilable
  simp only [kind, kind', qualifiedName_of_id found, qualifiedName_of_id found',
    Except.lift_ok_bind, Except.throw_bind, ite_not]
  split
  · next same =>
    rw [if_neg fun inheritance => differ ⟨congrArg _ same, inheritance⟩]
    exact ⟨_, rfl⟩
  · exact ⟨_, rfl⟩

end ManifestPolicy

namespace Document

variable {name : String} {base top : Document} {spec spec' lower upper : Fields}

theorem layerSection_of_sections (hb : base.getPresent name = .ok (.object lower))
    (ht : top.getPresent name = .ok (.object upper)) :
    layerSection name base top = .ok (lower.overlay upper) := by
  unfold layerSection
  rw [hb, ht]
  rfl

theorem toFields_of_sectionFields? (h : spec.sectionFields? name = some upper) :
    (orEmpty (Entries.get? spec name)).toFields = .ok upper := by
  have read := Except.ok.inj (Fields.getPresent_of_sectionFields? h)
  exact congrArg toFields read

/-- A section that is read as an object without fields is one. -/
theorem sectionFields?_of_toFields_nil
    (h : (orEmpty (Entries.get? spec name)).toFields = .ok []) :
    spec.sectionFields? name = some [] := by
  have empty : orEmpty (Entries.get? spec name) = .object [] := by
    generalize Entries.get? spec name = field at h
    cases field with
    | none => rfl
    | some value =>
        rw [orEmpty_some] at h ⊢
        split at h
        · next present => exact absurd h (toFields_ne_nil present)
        · next absent => exact if_neg absent
  unfold Fields.sectionFields?
  rw [empty]

/-- One section is laid over another if fields can be read from the other and the one has them. -/
theorem layerSection_of_toFields (below : (orEmpty (Entries.get? spec name)).toFields = .ok lower)
    (above : spec'.sectionFields? name = some upper) :
    layerSection name (.object spec) (.object spec') = .ok (lower.overlay upper) := by
  unfold layerSection
  rw [Fields.getPresent_of_sectionFields? above]
  change (orEmpty (Entries.get? spec name)).toFields >>= _ = _
  rw [below]
  rfl

end Document

theorem Fields.eq_nil_of_overlay {base top : Fields} (h : base.overlay top = []) :
    base = [] ∧ top = [] := by
  unfold Fields.overlay at h
  obtain ⟨combined, new⟩ := List.append_eq_nil_iff.mp h
  cases base with
  | cons field rest => cases combined
  | nil =>
      refine ⟨rfl, ?_⟩
      cases top with
      | nil => rfl
      | cons field rest => cases new

namespace ManifestPolicy

variable {keep first second : ManifestPolicy}

/-- The merge of two inherited policies of two levels, whatever their sections are. -/
theorem mergeLevels_layered {spec spec' : Document} (readable : ∃ kind, second.kind = .ok kind)
    (kinds : first.kind = second.kind) (inherits : first.inherited = true)
    (inherits' : second.inherited = true) (hf : first.spec = .ok spec)
    (hs : second.spec = .ok spec') :
    mergeLevels (.manifest first) (.manifest second) =
      (liftM (Document.layerSection "default" spec spec') >>= fun defaults =>
        liftM (Document.layerSection "override" spec' spec) >>= fun overrides =>
          second.layer spec' defaults overrides : Except MergeError ManifestPolicy) := by
  unfold mergeLevels
  rw [reconcilable_of_agree readable kinds (inherits.trans inherits'.symm)]
  change (if first.inherited = true then _ else _) = _
  rw [if_pos inherits, hf, hs, Except.lift_ok_bind, Except.lift_ok_bind]

/-- The merge of two inherited policies of one level, whatever their sections are. -/
theorem mergePeers_layered {spec spec' : Document} (readable : ∃ kind, second.kind = .ok kind)
    (kinds : first.kind = second.kind) (inherits : first.inherited = true)
    (inherits' : second.inherited = true) (hf : first.spec = .ok spec)
    (hs : second.spec = .ok spec') :
    mergePeers (.manifest first) (.manifest second) =
      (liftM (Document.layerSection "default" spec' spec) >>= fun defaults =>
        liftM (Document.layerSection "override" spec' spec) >>= fun overrides =>
          first.layer spec defaults overrides : Except MergeError ManifestPolicy) := by
  unfold mergePeers
  rw [reconcilable_of_agree readable kinds (inherits.trans inherits'.symm)]
  change (if first.inherited = true then _ else _) = _
  rw [if_pos inherits, hs, hf, Except.lift_ok_bind, Except.lift_ok_bind]

/-- The merge of an inherited policy of an ancestor with one of a descendant. -/
theorem mergeLevels_inherited (hf : first.Shaped) (hs : second.Shaped)
    (kinds : first.kind = second.kind) (inherits : first.inherited = true)
    (inherits' : second.inherited = true) :
    ∃ merged, mergeLevels (.manifest first) (.manifest second) = .ok merged ∧
      KeptFrom second merged ∧
      (Policy.manifest merged).sectionFields "default" =
        ((Policy.manifest first).sectionFields "default").overlay
          ((Policy.manifest second).sectionFields "default") ∧
      (Policy.manifest merged).sectionFields "override" =
        ((Policy.manifest second).sectionFields "override").overlay
          ((Policy.manifest first).sectionFields "override") := by
  obtain ⟨merged, layered, kept⟩ := layer_shaped hs inherits'
    (fun empty => (Fields.eq_nil_of_overlay empty).2)
    (fun empty => (Fields.eq_nil_of_overlay empty).1)
  refine ⟨merged, ?_, kept⟩
  rw [mergeLevels_layered (Policy.exists_kind_of_id hs.id) kinds inherits inherits' hf.spec hs.spec,
    Document.layerSection_of_sections (hf.getPresent inherits (by simp))
      (hs.getPresent inherits' (by simp)), Except.lift_ok_bind,
    Document.layerSection_of_sections (hs.getPresent inherits' (by simp))
      (hf.getPresent inherits (by simp)), Except.lift_ok_bind]
  exact layered

/-- The merge of two inherited policies of one level, of which the first takes precedence. -/
theorem mergePeers_inherited (hf : first.Shaped) (hs : second.Shaped)
    (kinds : first.kind = second.kind) (inherits : first.inherited = true)
    (inherits' : second.inherited = true) :
    ∃ merged, mergePeers (.manifest first) (.manifest second) = .ok merged ∧
      KeptFrom first merged ∧
      (Policy.manifest merged).sectionFields "default" =
        ((Policy.manifest second).sectionFields "default").overlay
          ((Policy.manifest first).sectionFields "default") ∧
      (Policy.manifest merged).sectionFields "override" =
        ((Policy.manifest second).sectionFields "override").overlay
          ((Policy.manifest first).sectionFields "override") := by
  obtain ⟨merged, layered, kept⟩ := layer_shaped hf inherits
    (fun empty => (Fields.eq_nil_of_overlay empty).2)
    (fun empty => (Fields.eq_nil_of_overlay empty).2)
  refine ⟨merged, ?_, kept⟩
  rw [mergePeers_layered (Policy.exists_kind_of_id hs.id) kinds inherits inherits' hf.spec hs.spec,
    Document.layerSection_of_sections (hs.getPresent inherits' (by simp))
      (hf.getPresent inherits (by simp)), Except.lift_ok_bind,
    Document.layerSection_of_sections (hs.getPresent inherits' (by simp))
      (hf.getPresent inherits (by simp)), Except.lift_ok_bind]
  exact layered

theorem get?_directFields {policy : Policy} (key : Scalar) :
    Entries.get? policy.directFields key =
      if ("targetRef" : Scalar) == key then none else Entries.get? policy.specFields key :=
  Entries.get?_erase ..

theorem get?_join_directFields (first second : Policy) {key : Scalar}
    (reference : ("targetRef" : Scalar) == key) :
    Entries.get? (first.directFields.join second.directFields) key = none := by
  rw [Fields.join, Document.get?_combined, get?_directFields, get?_directFields, if_pos reference,
    if_pos reference]

/-- The union of two direct policies, around the manifest of a third one. -/
theorem unite_of_union {kept united : Fields} {kind : MergeKind}
    (hf : first.spec = .ok (.object (Policy.manifest first).specFields))
    (hs : second.spec = .ok (.object (Policy.manifest second).specFields))
    (hk : keep.spec = .ok (.object kept)) (readable : keep.kind = .ok kind)
    (same : keep.manifest = .object fields)
    (union : (Policy.manifest first).directFields.union (Policy.manifest second).directFields =
      .ok united) :
    ∃ spec, unite keep first second = .ok (replaceSpec keep.inherited fields spec) ∧
      ∀ key, (("targetRef" : Scalar) == key) = false →
        Entries.get? spec key = Entries.get? united key := by
  unfold unite
  simp only [hf, hs, hk, readable, Document.get_object, Document.without_object,
    Except.lift_ok_bind]
  rw [show Fields.union (Entries.erase _ _) (Entries.erase _ _) = .ok united from union]
  dsimp only
  split
  · exact ⟨united, by rw [withSpec_object same]; rfl, fun _ _ => rfl⟩
  · exact ⟨united, by rw [withSpec_object same]; rfl, fun _ _ => rfl⟩
  · exact ⟨_, by rw [withSpec_object same]; rfl, fun key other => Entries.get?_set_ne _ _ other⟩

/-- Direct policies that clash have no union. -/
theorem unite_of_clash {kept : Fields} {kind : MergeKind} {clash : Clash}
    (hf : first.spec = .ok (.object (Policy.manifest first).specFields))
    (hs : second.spec = .ok (.object (Policy.manifest second).specFields))
    (hk : keep.spec = .ok (.object kept)) (readable : keep.kind = .ok kind)
    (union : (Policy.manifest first).directFields.union (Policy.manifest second).directFields =
      .error clash) :
    unite keep first second = .error (.conflict ⟨kind, .clash clash⟩) := by
  unfold unite
  simp only [hf, hs, hk, readable, Document.get_object, Document.without_object,
    Except.lift_ok_bind]
  rw [show Fields.union (Entries.erase _ _) (Entries.erase _ _) = .error clash from union]
  rfl

/-- What is united with the specification of a direct policy leaves no more of it than the union,
whatever becomes of the reference to the target. -/
theorem get?_directFields_replaceSpec {spec united : Fields} {inherited : Bool}
    (absent : ∀ key, (("targetRef" : Scalar) == key) = true → Entries.get? united key = none)
    (others : ∀ key, (("targetRef" : Scalar) == key) = false →
      Entries.get? spec key = Entries.get? united key) (key : Scalar) :
    Entries.get? (Policy.manifest (replaceSpec inherited fields spec)).directFields key =
      Entries.get? united key := by
  rw [get?_directFields, specFields_replaceSpec]
  split
  · next reference => exact (absent key reference).symm
  · next other => exact others key (by simpa using other)

/-- The union of two shaped policies without a clash. -/
theorem unite_of_no_clash (hk : keep.Shaped) (hf : first.Shaped) (hs : second.Shaped)
    (direct : keep.inherited = false)
    (noClash : (Policy.manifest first).directFields.clash? (Policy.manifest second).directFields =
      none) :
    ∃ merged, unite keep first second = .ok merged ∧ KeptFrom keep merged ∧
      ∀ key, Entries.get? (Policy.manifest merged).directFields key = Entries.get?
        ((Policy.manifest first).directFields.join (Policy.manifest second).directFields) key := by
  have united : (Policy.manifest first).directFields.union (Policy.manifest second).directFields =
      .ok ((Policy.manifest first).directFields.join (Policy.manifest second).directFields) := by
    unfold Fields.union
    rw [noClash]
  obtain ⟨fields, same⟩ := hk.exists_fields
  obtain ⟨kind, readable⟩ := Policy.exists_kind_of_id hk.id
  obtain ⟨spec, result, others⟩ := unite_of_union hf.spec hs.spec hk.spec readable same united
  refine ⟨_, result, ⟨shaped_replaceSpec hk same ?_, id_replaceSpec same spec, rfl⟩, fun key => ?_⟩
  · intro inherits
    rw [direct] at inherits
    cases inherits
  · exact get?_directFields_replaceSpec
      (fun _ => get?_join_directFields (.manifest first) (.manifest second)) others key

theorem mergeLevels_direct (readable : ∃ kind, second.kind = .ok kind)
    (kinds : first.kind = second.kind) (direct : first.inherited = false)
    (direct' : second.inherited = false) :
    mergeLevels (.manifest first) (.manifest second) = unite second first second := by
  unfold mergeLevels
  rw [reconcilable_of_agree readable kinds (direct.trans direct'.symm)]
  change (if first.inherited = true then _ else _) = _
  rw [if_neg (by simp [direct])]

theorem mergePeers_direct (readable : ∃ kind, second.kind = .ok kind)
    (kinds : first.kind = second.kind) (direct : first.inherited = false)
    (direct' : second.inherited = false) :
    mergePeers (.manifest first) (.manifest second) = unite first first second := by
  unfold mergePeers
  rw [reconcilable_of_agree readable kinds (direct.trans direct'.symm)]
  change (if first.inherited = true then _ else _) = _
  rw [if_neg (by simp [direct])]

end ManifestPolicy

end PolicyTopology
