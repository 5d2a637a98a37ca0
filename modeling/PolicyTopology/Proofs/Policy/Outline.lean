import PolicyTopology.Proofs.Policy.OneKind
import PolicyTopology.Proofs.Policy.Peers

/-!
# What a merge leaves alone

The merge of two specifications changes the content of a specification and nothing else. The rest of
the manifest, the inheritance and the computed target are those of one of the two policies, and so
is the identity: between levels they are the descendant's, between peers those of the policy that
takes precedence. Whatever a sequence of merges comes to is therefore, apart from that content, one
of the policies that went into it: the first in order of precedence at the most specific level that
has any.
-/

namespace PolicyTopology

theorem Entries.erase_set_self {κ α : Type} [BEq κ] [EquivBEq κ] (entries : Entries κ α) (key : κ)
    (value : α) : (entries.set key value).erase key = entries.erase key := by
  unfold set erase
  split
  · rw [List.filter_map]
    have same : entries.filter ((fun entry : κ × α => !(entry.1 == key)) ∘
        fun entry => if entry.1 == key then (entry.1, value) else entry) =
        entries.filter fun entry => !(entry.1 == key) := by
      refine List.filter_congr fun entry _ => ?_
      simp only [Function.comp_apply]
      split <;> rfl
    rw [same]
    refine (List.map_congr_left fun entry member => ?_).trans (List.map_id _)
    have other : (entry.1 == key) = false := by simpa using (List.mem_filter.mp member).2
    rw [other]
    rfl
  · simp

/-- A field other than the one that is left out can be read in what is left. -/
theorem Document.get_eq_without (document : Document) {field key : String} (other : field ≠ key) :
    document.get key = ((document.without field).mapError fun _ => ShapeError.notAnObject).map
      fun fields : Fields => Entries.get? fields (key : Scalar) := by
  cases document with
  | object fields =>
      have unlike : ((field : Scalar) == (key : Scalar)) = false := by simpa using other
      rw [without_object, get_object]
      change _ = Except.ok (Entries.get? (Entries.erase fields field) key)
      rw [Entries.get?_erase, unlike]
      rfl
  | array items => rfl
  | scalar value => rfl

theorem Document.get_of_without {first second : Document} {field key : String}
    (h : first.without field = second.without field) (other : field ≠ key) :
    first.get key = second.get key := by
  rw [first.get_eq_without other, second.get_eq_without other, h]

namespace Policy

/-- Two policies with manifests differ in the content of their specifications at most: the rest of
their manifests, their inheritance and the targets that are computed for them are the same. -/
inductive SameOutline : Policy → Policy → Prop where
  | of_parts {first second : ManifestPolicy} :
      first.manifest.without "spec" = second.manifest.without "spec" →
      first.inherited = second.inherited → first.target = second.target →
      SameOutline (.manifest first) (.manifest second)

variable {first second third : Policy}

theorem SameOutline.refl (h : first.IsManifest) : first.SameOutline first := by
  obtain ⟨policy, rfl⟩ := h
  exact .of_parts rfl rfl rfl

theorem SameOutline.trans (h : first.SameOutline second) (h' : second.SameOutline third) :
    first.SameOutline third := by
  cases h with
  | of_parts manifest inherited target =>
      cases h' with
      | of_parts manifest' inherited' target' =>
          exact .of_parts (manifest.trans manifest') (inherited.trans inherited')
            (target.trans target')

theorem SameOutline.isManifest (h : first.SameOutline second) : first.IsManifest := by
  cases h with
  | of_parts => exact ⟨_, rfl⟩

theorem SameOutline.target (h : first.SameOutline second) : first.target = second.target := by
  cases h with
  | of_parts _ _ target => exact target

theorem SameOutline.kind (h : first.SameOutline second) : first.kind = second.kind := by
  cases h with
  | of_parts manifest =>
      simp only [Policy.kind, ManifestPolicy.kind, Document.nameAt,
        Document.get_of_without manifest (show "spec" ≠ "apiVersion" by decide),
        Document.get_of_without manifest (show "spec" ≠ "kind" by decide)]

theorem SameOutline.id (h : first.SameOutline second) : first.id = second.id := by
  have kind := h.kind
  cases h with
  | of_parts manifest =>
      simp only [Policy.id, kind, Policy.nameSpace, Policy.name, ManifestPolicy.nameSpace,
        ManifestPolicy.name, Document.getPresent,
        Document.get_of_without manifest (show "spec" ≠ "metadata" by decide)]

theorem SameOutline.identity (h : first.SameOutline second) : first.identity = second.identity := by
  unfold Policy.identity
  rw [h.id]

end Policy

namespace ManifestPolicy

open Policy (SameOutline)

variable {policy keep first second merged : ManifestPolicy} {former spec : Fields}
  {ancestor descendant : Policy}

/-- Only what a specification says of the target belongs to the outline of a policy. -/
theorem sameOutline_of_withSpec (before : policy.spec = .ok (.object former))
    (after : policy.withSpec (.object spec) = .ok merged)
    (reference : Document.orEmpty (Entries.get? spec "targetRef") =
      Document.orEmpty (Entries.get? former "targetRef")) :
    SameOutline (.manifest merged) (.manifest policy) := by
  obtain ⟨manifest, inherited⟩ := policy
  cases manifest with
  | scalar value => cases after
  | array items => cases after
  | object fields =>
      rw [withSpec_object rfl] at after
      cases after
      refine .of_parts ?_ rfl ?_
      · exact congrArg Except.ok (Entries.erase_set_self ..)
      · have nameSpace : (replaceSpec inherited fields spec).nameSpace =
            nameSpace ⟨.object fields, inherited⟩ := by
          unfold ManifestPolicy.nameSpace Document.getPresent
          rw [get_replaceSpec _ _ (show "spec" ≠ "metadata" by decide)]
        have read : (Document.object spec).getPresent "targetRef" =
            (Document.object former).getPresent "targetRef" := congrArg Except.ok reference
        have goOn : ∀ rest : Document → Except ShapeError ObjectRef,
            (Except.ok (Document.object spec) >>= fun document =>
              document.getPresent "targetRef" >>= rest) =
            (Except.ok (Document.object former) >>= fun document =>
              document.getPresent "targetRef" >>= rest) := fun rest => congrArg (· >>= rest) read
        unfold target
        rw [spec_replaceSpec, before, nameSpace]
        exact goOn _

theorem exists_object_of_layerSection {name : String} {base top : Document} {fields : Fields}
    (h : Document.layerSection name base top = .ok fields) :
    (∃ lower, base = .object lower) ∧ ∃ upper, top = .object upper := by
  unfold Document.layerSection at h
  obtain ⟨lower, readLower, h⟩ := Except.bind_ok_iff.mp h
  obtain ⟨upper, readUpper, _⟩ := Except.bind_ok_iff.mp h
  have isObject : ∀ {document field : Document}, document.getPresent name = .ok field →
      ∃ fields, document = .object fields := by
    intro document _ read
    cases document with
    | object fields => exact ⟨fields, rfl⟩
    | scalar value => cases read
    | array items => cases read
  exact ⟨isObject readLower, isObject readUpper⟩

/-- Sections are written beside the reference to the target. -/
theorem sameOutline_of_layer {defaults overrides : Fields}
    (before : keep.spec = .ok (.object former))
    (after : keep.layer (.object former) defaults overrides = .ok merged) :
    SameOutline (.manifest merged) (.manifest keep) := by
  have beside : ∀ (spec : Fields) (name : String) (fields : Fields), name ≠ "targetRef" →
      Entries.get? (spec.writeSection name fields) "targetRef" =
        Entries.get? spec "targetRef" := by
    intro spec name fields other
    unfold Fields.writeSection
    split
    · rfl
    · exact Fields.get?_set_name _ other
  unfold layer at after
  rw [Fields.withSection_object, Fields.withSection_object] at after
  refine sameOutline_of_withSpec before (Except.lift_ok_iff.mp after) ?_
  rw [beside _ _ _ (by decide), beside _ _ _ (by decide)]

/-- A union has no reference to the target of its own. -/
theorem get?_union_of_without {first second : Document} {firstFields secondFields fields : Fields}
    (h : first.without "targetRef" = .ok firstFields)
    (h' : second.without "targetRef" = .ok secondFields)
    (united : firstFields.union secondFields = .ok fields) :
    Entries.get? fields "targetRef" = none := by
  have erased : ∀ {document : Document} {fields : Fields},
      document.without "targetRef" = .ok fields → Entries.get? fields "targetRef" = none := by
    intro document fields without
    cases document with
    | scalar value => cases without
    | array items => cases without
    | object all =>
        cases without
        rw [Entries.get?_erase, if_pos (by decide)]
  unfold Fields.union at united
  split at united
  · cases united
  · cases united
    rw [Fields.join, Document.get?_combined, erased h, erased h']

/-- The reference to the target is that of the policy whose manifest is kept. -/
theorem sameOutline_of_unite (h : unite keep first second = .ok merged) :
    SameOutline (.manifest merged) (.manifest keep) := by
  unfold unite at h
  simp only [Except.bind_ok_iff, Except.lift_ok_iff] at h
  obtain ⟨firstSpec, _, secondSpec, _, spec, before, target, reference, firstFields, erased,
    secondFields, erased', kind, _, h⟩ := h
  cases spec with
  | scalar value => cases reference
  | array items => cases reference
  | object former =>
  cases reference
  split at h
  · cases h
  · next fields united =>
    have absent := get?_union_of_without erased erased' united
    split at h
    · next missing =>
      refine sameOutline_of_withSpec before (Except.lift_ok_iff.mp h) ?_
      rw [absent, missing]
    · next isNull =>
      refine sameOutline_of_withSpec before (Except.lift_ok_iff.mp h) ?_
      rw [absent, isNull]
      rfl
    · next reference _ _ found =>
      refine sameOutline_of_withSpec before (Except.lift_ok_iff.mp h) ?_
      rw [Entries.get?_set_self, found]

theorem sameOutline_of_mergeLevels (h : mergeLevels ancestor descendant = .ok merged) :
    SameOutline (.manifest merged) descendant := by
  unfold mergeLevels at h
  obtain ⟨⟨parent, child⟩, reconciled, rest⟩ := Except.bind_ok_iff.mp h
  obtain ⟨_, rfl, _⟩ := reconcilable_ok_iff.mp reconciled
  dsimp only at rest
  split at rest
  · simp only [Except.bind_ok_iff, Except.lift_ok_iff] at rest
    obtain ⟨parentSpec, _, spec, before, defaults, sections, overrides, _, after⟩ := rest
    obtain ⟨former, rfl⟩ := (exists_object_of_layerSection sections).2
    exact sameOutline_of_layer before after
  · exact sameOutline_of_unite rest

theorem sameOutline_of_mergePeers {first second : Policy}
    (h : mergePeers first second = .ok merged) : SameOutline (.manifest merged) first := by
  unfold mergePeers at h
  obtain ⟨⟨winner, loser⟩, reconciled, rest⟩ := Except.bind_ok_iff.mp h
  obtain ⟨rfl, _⟩ := reconcilable_ok_iff.mp reconciled
  dsimp only at rest
  split at rest
  · simp only [Except.bind_ok_iff, Except.lift_ok_iff] at rest
    obtain ⟨loserSpec, _, spec, before, defaults, sections, overrides, _, after⟩ := rest
    obtain ⟨former, rfl⟩ := (exists_object_of_layerSection sections).2
    exact sameOutline_of_layer before after
  · exact sameOutline_of_unite rest

end ManifestPolicy

/-- A merge keeps the outline of the policy whose manifest it keeps. -/
theorem KindMerger.sameOutline_of_merge {operation : MergeOperation} {first second merged : Policy}
    (h : (specification.merge operation first second).result = .ok merged) :
    merged.SameOutline (Policy.kept operation first second) := by
  cases operation with
  | levels =>
      rw [result_levels, Except.map_ok_iff] at h
      obtain ⟨manifest, found, rfl⟩ := h
      exact ManifestPolicy.sameOutline_of_mergeLevels found
  | peers =>
      rw [result_peers, Except.map_ok_iff] at h
      obtain ⟨manifest, found, rfl⟩ := h
      exact ManifestPolicy.sameOutline_of_mergePeers found

namespace Policy

variable {policy entry : Policy} {group others : List Policy} {levels : List (List Policy)}
  {found : Option Policy}

/-- What has been merged from a group of policies has the outline of the first of them in order of
precedence; from no policies nothing is merged. -/
def TakesAfter (group : List Policy) : Option Policy → Prop
  | none => group = []
  | some entry => ∃ first ∈ group, entry.SameOutline first ∧
      ∀ other ∈ group, first.identity ≤ other.identity

/-- The first of some levels that has policies, the most specific one standing first. -/
def mostSpecific (levels : List (List Policy)) : List Policy :=
  (levels.find? fun level => !level.isEmpty).getD []

theorem mostSpecific_cons_nil (levels : List (List Policy)) :
    mostSpecific ([] :: levels) = mostSpecific levels := rfl

theorem mostSpecific_cons_of_ne_nil (nonempty : group ≠ []) :
    mostSpecific (group :: levels) = group := by
  unfold mostSpecific
  rw [List.find?_cons_of_pos (by simpa using nonempty)]
  rfl

theorem mostSpecific_singleton (group : List Policy) : mostSpecific [group] = group := by
  cases group with
  | nil => rfl
  | cons policy rest => rfl

theorem exists_level_of_mem_mostSpecific (h : policy ∈ mostSpecific levels) :
    ∃ level ∈ levels, policy ∈ level := by
  induction levels with
  | nil => cases h
  | cons level rest ih =>
      cases level with
      | nil =>
          obtain ⟨level, member, among⟩ := ih h
          exact ⟨level, List.mem_cons_of_mem _ member, among⟩
      | cons first others => exact ⟨_, List.mem_cons_self, h⟩

theorem takesAfter_toList (manifest : ∀ entry, found = some entry → entry.IsManifest) :
    TakesAfter found.toList found := by
  cases found with
  | none => rfl
  | some entry =>
      refine ⟨entry, List.mem_singleton_self entry, .refl (manifest entry rfl), ?_⟩
      intro other member
      rw [List.mem_singleton.mp member]
      exact ResourceId.le_refl _

end Policy

namespace MergerRegistry

open Policy (TakesAfter SameOutline mostSpecific ofKind)
open Table (gather)

variable {kind : MergeKind} {policies group others : List Policy} {levels : List (List Policy)}
  {found first second final : Option Policy} {policy existing merged : Policy}

/-- Merged as peers in order of precedence, policies keep the outline of the one that is there from
the start. -/
theorem sameOutline_of_gather_peers {rest : List Policy} (h : existing.SameOutline policy)
    (result : gather (joined fun existing policy =>
      (KindMerger.specification.merge .peers existing policy).result) (some existing) rest =
        .ok found) : ∃ merged, found = some merged ∧ merged.SameOutline policy := by
  induction rest generalizing existing with
  | nil =>
      cases result
      exact ⟨existing, rfl, h⟩
  | cons next rest ih =>
      rw [Table.gather_cons, Except.bind_ok_iff] at result
      obtain ⟨merged, joins, result⟩ := result
      exact ih ((KindMerger.sameOutline_of_merge joins).trans h) result

/-- Of one level, the policies of a kind are merged in ascending order of their identities. -/
theorem exists_ascending_peers
    (readable : ∀ policy ∈ ofKind kind policies, ∃ id, policy.id = .ok id) :
    ∃ ordered : List Policy, ordered.Perm (ofKind kind policies) ∧
      (ordered.Pairwise fun first second => first.identity ≤ second.identity) ∧
      specifications.peers kind policies = gather (joined fun existing policy =>
        (KindMerger.specification.merge .peers existing policy).result) none ordered := by
  obtain ⟨ordered, perm, ascending, gathers⟩ := exists_peers_eq_gather readable
  refine ⟨ordered, perm, ascending.imp ?_, gathers⟩
  rintro first second ⟨id, other, found, found', le⟩
  rwa [Policy.identity_of_id found, Policy.identity_of_id found']

/-- Policies that are merged as peers in ascending order take after the first of them. -/
theorem takesAfter_gather (manifests : ∀ policy ∈ policies, policy.IsManifest)
    (ascending : policies.Pairwise fun first second => first.identity ≤ second.identity)
    (result : gather (joined fun existing policy =>
      (KindMerger.specification.merge .peers existing policy).result) none policies = .ok found) :
    TakesAfter policies found := by
  cases policies with
  | nil =>
      cases result
      rfl
  | cons first rest =>
      rw [Table.gather_cons] at result
      obtain ⟨merged, rfl, outline⟩ :=
        sameOutline_of_gather_peers (.refl (manifests _ List.mem_cons_self)) result
      refine ⟨first, List.mem_cons_self, outline, fun other among => ?_⟩
      rcases List.mem_cons.mp among with rfl | later
      · exact ResourceId.le_refl _
      · exact List.rel_of_pairwise_cons ascending later

/-- A more specific level goes before what it is laid over. -/
theorem takesAfter_chain (h : TakesAfter (mostSpecific levels) first)
    (h' : TakesAfter group second)
    (result : specifications.chain kind first second = .ok final) :
    TakesAfter (mostSpecific (group :: levels)) final := by
  cases second with
  | none =>
      rw [show group = [] from h', Policy.mostSpecific_cons_nil]
      cases first <;> cases result <;> exact h
  | some policy =>
      obtain ⟨least, member, outline, smallest⟩ := h'
      rw [Policy.mostSpecific_cons_of_ne_nil (List.ne_nil_of_mem member)]
      cases first with
      | none =>
          cases result
          exact ⟨least, member, outline, smallest⟩
      | some ancestor =>
          obtain ⟨merged, joins, rfl⟩ := Except.map_ok_iff.mp result
          exact ⟨least, member, (KindMerger.sameOutline_of_merge joins).trans outline, smallest⟩

/-- Of two policies that are merged in order of precedence, the first in this order is kept. -/
theorem kept_of_mergeInPrecedence
    (h : mergeInPrecedence .specification existing policy = .ok merged) :
    (existing.identity ≤ policy.identity ∧ merged.SameOutline existing) ∨
      (policy.identity ≤ existing.identity ∧ merged.SameOutline policy) := by
  have read := h
  unfold mergeInPrecedence at read
  simp only [Except.bind_ok_iff, Except.lift_ok_iff] at read
  obtain ⟨id, found, other, found', _⟩ := read
  rw [mergeInPrecedence_of_id found found'] at h
  rw [Policy.identity_of_id found, Policy.identity_of_id found']
  split at h
  · next before => exact .inl ⟨before, KindMerger.sameOutline_of_merge h⟩
  · next after =>
    exact .inr ⟨(ResourceId.le_total _ _).resolve_left after, KindMerger.sameOutline_of_merge h⟩

theorem takesAfter_joined (h : TakesAfter group found) (manifest : policy.IsManifest)
    (result : joined (mergeInPrecedence .specification) found policy = .ok merged) :
    TakesAfter (group ++ [policy]) (some merged) := by
  cases found with
  | none =>
      cases result
      rw [show group = [] from h]
      exact Policy.takesAfter_toList fun _ same => Option.some.inj same ▸ manifest
  | some entry =>
      obtain ⟨least, member, outline, smallest⟩ := h
      have identity : entry.identity = least.identity := outline.identity
      rcases kept_of_mergeInPrecedence result with ⟨before, kept⟩ | ⟨after, kept⟩
      · refine ⟨least, List.mem_append_left _ member, kept.trans outline, fun other among => ?_⟩
        rcases List.mem_append.mp among with among | last
        · exact smallest other among
        · rw [List.mem_singleton.mp last, ← identity]
          exact before
      · refine ⟨policy, by simp, kept, fun other among => ?_⟩
        rcases List.mem_append.mp among with among | last
        · rw [identity] at after
          exact ResourceId.le_trans after (smallest other among)
        · rw [List.mem_singleton.mp last]
          exact ResourceId.le_refl _

/-- Policies that reach a node on several ways take after the first of them, in whatever order they
are met. -/
theorem takesAfter_reunited (manifests : ∀ policy ∈ policies, policy.IsManifest)
    (result : specifications.reunited kind policies = .ok final) : TakesAfter policies final := by
  suffices all : ∀ group found, TakesAfter group found →
      gather (joined (mergeInPrecedence .specification)) found policies = .ok final →
        TakesAfter (group ++ policies) final from all [] none rfl result
  clear result
  induction policies with
  | nil =>
      intro group found h result
      cases result
      rwa [List.append_nil]
  | cons policy rest ih =>
      intro group found h result
      rw [Table.gather_cons, Except.bind_ok_iff] at result
      obtain ⟨merged, joins, result⟩ := result
      have joined := takesAfter_joined h (manifests policy List.mem_cons_self) joins
      have all :=
        ih (fun other member => manifests other (List.mem_cons_of_mem _ member)) _ _ joined result
      rwa [List.append_assoc] at all

end MergerRegistry

end PolicyTopology
