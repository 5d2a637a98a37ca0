import PolicyTopology.Proofs.Policy.Admitted

/-!
# Policies that can be read together

A policy that is attached has an identity and a specification, but the sections of the specification
may be anything. Only a merge of two inherited policies of one kind reads sections: a direct policy,
or one that meets no other of its kind, may have whatever sections it likes. Two policies can be
merged in whatever order and from whatever levels they meet, or conflict, exactly if they are
legible together.
-/

namespace PolicyTopology

/-- A manifest policy with an identity and a specification that is an object or not present. -/
structure ManifestPolicy.Specified (policy : ManifestPolicy) : Prop where
  id : ∃ id, (Policy.manifest policy).id = .ok id
  spec : policy.spec = .ok (.object (Policy.manifest policy).specFields)

namespace Policy

variable {policy first second : Policy}

def IsManifest (policy : Policy) : Prop := ∃ manifest, policy = .manifest manifest

def Specified : Policy → Prop
  | .manifest policy => policy.Specified
  | .plain _ => False

/-- Each section of a policy is an object or not present. -/
def Legible (policy : Policy) : Prop :=
  ∀ name ∈ ["default", "override"], ∃ fields, policy.specFields.sectionFields? name = some fields

/-- Where a merge of two policies reads their sections, it can. -/
def LegibleTogether (first second : Policy) : Prop :=
  first.kind = second.kind → first.inherited = true → second.inherited = true →
    first.Legible ∧ second.Legible

theorem Specified.exists_id (h : policy.Specified) : ∃ id, policy.id = .ok id := by
  cases policy with
  | manifest policy => exact h.id
  | plain policy => exact h.elim

theorem shaped_iff :
    policy.Shaped ↔ policy.Specified ∧ (policy.inherited = true → policy.Legible) := by
  cases policy with
  | manifest policy =>
      exact ⟨fun h => ⟨⟨h.id, h.spec⟩, h.sections⟩, fun h => ⟨h.1.id, h.1.spec, h.2⟩⟩
  | plain policy => exact ⟨False.elim, fun h => h.1.elim⟩

theorem Shaped.specified (h : policy.Shaped) : policy.Specified := (shaped_iff.mp h).1

theorem Shaped.legibleTogether (hf : first.Shaped) (hs : second.Shaped) :
    first.LegibleTogether second :=
  fun _ inherits inherits' => ⟨(shaped_iff.mp hf).2 inherits, (shaped_iff.mp hs).2 inherits'⟩

theorem LegibleTogether.symm (h : first.LegibleTogether second) : second.LegibleTogether first :=
  fun kinds inherits inherits' => (h kinds.symm inherits' inherits).symm

/-- Policies that are legible together have shapes, unless they conflict anyway. -/
theorem LegibleTogether.shaped (h : first.LegibleTogether second) (hf : first.Specified)
    (hs : second.Specified) (kinds : first.kind = second.kind)
    (inheritance : first.inherited = second.inherited) : first.Shaped ∧ second.Shaped := by
  refine ⟨shaped_iff.mpr ⟨hf, fun inherits => ?_⟩, shaped_iff.mpr ⟨hs, fun inherits => ?_⟩⟩
  · exact (h kinds inherits (inheritance ▸ inherits)).1
  · exact (h kinds (inheritance ▸ inherits) inherits).2

/-- Wherever two policies of the list meet, they are legible together. -/
def LegibleAmong (group : List Policy) : Prop := group.Pairwise LegibleTogether

section Among

variable {group others : List Policy}

theorem legibleAmong_of_shaped (shaped : ∀ policy ∈ group, policy.Shaped) : LegibleAmong group := by
  refine List.pairwise_iff_forall_sublist.mpr fun {first second} sublist => ?_
  exact (shaped first (sublist.subset (by simp))).legibleTogether
    (shaped second (sublist.subset (by simp)))

theorem LegibleAmong.perm (h : LegibleAmong group) (perm : group.Perm others) :
    LegibleAmong others :=
  (perm.pairwise_iff LegibleTogether.symm).mp h

theorem LegibleAmong.sublist (h : LegibleAmong others) (sublist : group.Sublist others) :
    LegibleAmong group :=
  List.Pairwise.sublist sublist h

theorem LegibleAmong.together (h : LegibleAmong (group ++ others)) (among : first ∈ group)
    (among' : second ∈ others) : first.LegibleTogether second :=
  (List.pairwise_append.mp h).2.2 first among second among'

end Among

/-- One policy is as far legible with others as another one of its kind. -/
structure Resembles (policy other : Policy) : Prop where
  kind : policy.kind = other.kind
  inherited : policy.inherited = other.inherited
  legible : policy.inherited = true → other.Legible → policy.Legible

theorem Resembles.refl (policy : Policy) : policy.Resembles policy :=
  ⟨rfl, rfl, fun _ legible => legible⟩

theorem Resembles.trans (h : first.Resembles second) (h' : second.Resembles policy) :
    first.Resembles policy where
  kind := h.kind.trans h'.kind
  inherited := h.inherited.trans h'.inherited
  legible inherits legible := h.legible inherits (h'.legible (h.inherited ▸ inherits) legible)

theorem LegibleTogether.of_resembles {other other' : Policy} (h : other.LegibleTogether other')
    (resembles : first.Resembles other) (resembles' : second.Resembles other') :
    first.LegibleTogether second := by
  intro kinds inherits inherits'
  have legible := h (resembles.kind.symm.trans (kinds.trans resembles'.kind))
    (resembles.inherited ▸ inherits) (resembles'.inherited ▸ inherits')
  exact ⟨resembles.legible inherits legible.1, resembles'.legible inherits' legible.2⟩

end Policy

/-- Only an object can be laid over something. -/
theorem Document.legible_of_layerSection {name : String} {base : Document} {top fields : Fields}
    (h : Document.layerSection name base (.object top) = .ok fields) :
    ∃ fields, top.sectionFields? name = some fields := by
  unfold Document.layerSection at h
  obtain ⟨lower, _, h⟩ := Except.bind_ok_iff.mp h
  obtain ⟨upper, found, h⟩ := Except.bind_ok_iff.mp h
  obtain ⟨lowerFields, _, h⟩ := Except.bind_ok_iff.mp h
  unfold Fields.sectionFields?
  rw [show Document.orEmpty (Entries.get? top name) = upper from Except.ok.inj found]
  cases upper with
  | object fields => exact ⟨fields, rfl⟩
  | scalar value => cases h
  | array items => cases h

namespace KindMerger

variable {first second : Policy}

/-- To be merged first among peers an inherited policy needs legible sections. -/
theorem legible_of_tame_peers {property : Policy → Prop} (hf : first.Specified)
    (hs : second.Specified) (kinds : first.kind = second.kind) (inherits : first.inherited = true)
    (inherits' : second.inherited = true)
    (h : Merging.Tame property (specification.merge .peers first second).result) :
    first.Legible := by
  cases first with
  | plain policy => exact hf.elim
  | manifest first =>
  cases second with
  | plain policy => exact hs.elim
  | manifest second =>
  replace inherits : first.inherited = true := inherits
  rw [result_peers] at h
  have tame := Merging.Tame.of_map h
  rw [ManifestPolicy.mergePeers_layered (Policy.exists_kind_of_id hs.id) kinds inherits inherits'
    hf.spec hs.spec] at tame
  obtain ⟨defaults, found, tame⟩ := tame.exists_of_lift
  obtain ⟨overrides, found', _⟩ := tame.exists_of_lift
  intro name member
  simp only [List.mem_cons, List.not_mem_nil, or_false] at member
  rcases member with rfl | rfl
  · exact Document.legible_of_layerSection found
  · exact Document.legible_of_layerSection found'

/-- Policies of two kinds conflict, and so do an inherited one and a direct one. -/
theorem conflict_of_differ (hf : first.Specified) (hs : second.Specified)
    (differ : ¬ (first.kind = second.kind ∧ first.inherited = second.inherited))
    (operation : MergeOperation) : ∃ conflict,
      (specification.merge operation first second).result = .error (.conflict conflict) := by
  cases first with
  | plain policy => exact hf.elim
  | manifest first =>
      cases second with
      | plain policy => exact hs.elim
      | manifest second => exact merge_of_differ hf.id hs.id differ operation

/-- Two policies are merged or conflict, in whatever order and from whatever levels they meet,
exactly if they are legible together. -/
theorem tame_iff_legibleTogether (hf : first.Specified) (hs : second.Specified) :
    (∀ operation,
        Merging.Tame (fun _ => True) (specification.merge operation first second).result ∧
        Merging.Tame (fun _ => True) (specification.merge operation second first).result) ↔
      first.LegibleTogether second := by
  constructor
  · intro tame kinds inherits inherits'
    exact ⟨legible_of_tame_peers hf hs kinds inherits inherits' (tame .peers).1,
      legible_of_tame_peers hs hf kinds.symm inherits' inherits (tame .peers).2⟩
  · intro legible operation
    by_cases agree : first.kind = second.kind ∧ first.inherited = second.inherited
    · obtain ⟨kinds, inheritance⟩ := agree
      obtain ⟨hf, hs⟩ := legible.shaped hf hs kinds inheritance
      exact ⟨(MergerRegistry.tame_merge hf hs operation).imp fun _ _ => trivial,
        (MergerRegistry.tame_merge hs hf operation).imp fun _ _ => trivial⟩
    · have agree' : ¬ (second.kind = first.kind ∧ second.inherited = first.inherited) :=
        fun same => agree ⟨same.1.symm, same.2.symm⟩
      obtain ⟨_, result⟩ := conflict_of_differ hf hs agree operation
      obtain ⟨_, result'⟩ := conflict_of_differ hs hf agree' operation
      rw [result, result']
      exact ⟨trivial, trivial⟩

end KindMerger

end PolicyTopology
