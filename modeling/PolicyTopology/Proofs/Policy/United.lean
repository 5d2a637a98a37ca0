import Mathlib.Data.List.Dedup
import Mathlib.Data.List.Pairwise
import PolicyTopology.Proofs.Document.Union
import PolicyTopology.Proofs.Policy.OneKind

/-!
# United policies

Two direct policies are merged by uniting their specifications, be they peers or of different
levels. What direct policies have been merged into is therefore determined by the group of them:
its specification shows what one of theirs shows. The order and the grouping of the merges make no
difference to this, and neither does a policy that is met more than once.
-/

namespace PolicyTopology

namespace Policy

variable {first second merged policy : Policy} {group others : List Policy} {found : Option Policy}

/-- A policy that was merged from a group of direct policies: it shows what one of them shows, and
is compatible with what all of them are compatible with. -/
structure UnitedFrom (group : List Policy) (policy : Policy) : Prop where
  shaped : policy.Shaped
  direct : policy.inherited = false
  agree : Agree group
  compatible_iff : ∀ other, policy.Compatible other ↔ ∀ member ∈ group, member.Compatible other
  shows_iff : ∀ path value, policy.directFields.Shows path value ↔
    ∃ member ∈ group, member.directFields.Shows path value

/-- An entry that was merged from a group of direct policies; there is none for an empty group. -/
def Unites (group : List Policy) : Option Policy → Prop
  | none => group = []
  | some policy => UnitedFrom group policy

theorem unitedFrom_singleton (shaped : policy.Shaped) (direct : policy.inherited = false) :
    UnitedFrom [policy] policy where
  shaped := shaped
  direct := direct
  agree := List.pairwise_singleton _ _
  compatible_iff other := by simp
  shows_iff path value := by simp

theorem UnitedFrom.perm (h : UnitedFrom group policy) (perm : group.Perm others) :
    UnitedFrom others policy where
  shaped := h.shaped
  direct := h.direct
  agree := h.agree.perm perm
  compatible_iff other := by simp only [h.compatible_iff, perm.mem_iff]
  shows_iff path value := by simp only [h.shows_iff, perm.mem_iff]

theorem Unites.perm (h : Unites group found) (perm : group.Perm others) :
    Unites others found := by
  cases found with
  | none =>
      rw [show group = [] from h] at perm
      exact perm.nil_eq.symm
  | some policy => exact UnitedFrom.perm h perm

theorem UnitedFrom.ne_nil (h : UnitedFrom group policy) : group ≠ [] := by
  rintro rfl
  have shows : policy.directFields.Shows [] (.object []) :=
    Document.shows_nil.mpr (Document.alike_object_iff.mpr rfl)
  obtain ⟨member, among, _⟩ := (h.shows_iff [] _).mp shows
  cases among

/-- An entry for all policies with a property: there is one exactly if there are such policies, of
which there are finitely many, and its specification is the union of theirs, one after the other in
any order. -/
structure PlainUnion (among : Policy → Prop) (entry : Option Policy) : Prop where
  exists_iff : (∃ policy, entry = some policy) ↔ ∃ member, among member
  listed : ∃ group : List Policy, group.Nodup ∧ ∀ member, member ∈ group ↔ among member
  union : ∀ policy, entry = some policy → ∀ group : List Policy, group.Nodup →
    (∀ member, member ∈ group ↔ among member) →
      ∃ fields, Fields.unite (group.map directFields) = .ok fields ∧
        Document.same (.object policy.directFields) (.object fields) = true

/-- Policies that were merged are compatible with each other, so they can be united in any order. -/
theorem UnitedFrom.unite (h : UnitedFrom group policy) (direct : ∀ member ∈ group,
    member.inherited = false) (nodup : others.Nodup) (same : ∀ member, member ∈ others ↔
    member ∈ group) : ∃ fields, Fields.unite (others.map directFields) = .ok fields ∧
      Document.same (.object policy.directFields) (.object fields) = true := by
  have compatible : others.Pairwise Compatible := by
    have : Std.Symm Compatible := ⟨fun _ _ => Compatible.symm⟩
    refine nodup.pairwise_of_forall_ne fun first member second member' apart => ?_
    exact h.agree.forall ((same first).mp member) ((same second).mp member') apart
  have consistent : (others.map directFields).Pairwise Fields.Consistent := by
    refine List.pairwise_map.mpr (compatible.imp_of_mem fun {first second} member _ both => ?_)
    exact Fields.clash?_eq_none_iff.mp (both.direct (direct first ((same first).mp member)))
  have nonempty : others.map directFields ≠ [] := by
    obtain ⟨member, among⟩ := List.exists_mem_of_ne_nil group h.ne_nil
    exact List.ne_nil_of_mem (List.mem_map_of_mem ((same member).mpr among))
  obtain ⟨fields, united, shows_iff⟩ := Fields.exists_unite consistent nonempty
  refine ⟨fields, united, Document.same_of_shows fun path value => ?_⟩
  have inUnion : (Document.object fields).Shows path value ↔ _ := shows_iff path value
  have inPolicy : (Document.object policy.directFields).Shows path value ↔ _ :=
    h.shows_iff path value
  rw [inUnion, inPolicy]
  simp only [List.mem_map, exists_exists_and_eq_and, same]

theorem Unites.plainUnion {among : Policy → Prop} (h : Unites group found)
    (same : ∀ member, member ∈ group ↔ among member)
    (direct : ∀ member, among member → member.inherited = false) : PlainUnion among found where
  exists_iff := by
    cases found with
    | none =>
        rw [show group = [] from h] at same
        simp [← same]
    | some policy =>
        obtain ⟨member, inGroup⟩ := List.exists_mem_of_ne_nil group (UnitedFrom.ne_nil h)
        exact iff_of_true ⟨policy, rfl⟩ ⟨member, (same member).mp inGroup⟩
  listed := by
    classical
    exact ⟨group.dedup, group.nodup_dedup, fun member => List.mem_dedup.trans (same member)⟩
  union := by
    rintro policy rfl others nodup listed
    exact UnitedFrom.unite h (fun member inGroup => direct member ((same member).mp inGroup)) nodup
      fun member => (listed member).trans (same member).symm

/-- What was merged from two groups is what was merged from all of their policies. -/
theorem UnitedFrom.merge {operation : MergeOperation} (h : UnitedFrom group first)
    (h' : UnitedFrom others second)
    (result : (KindMerger.specification.merge operation first second).result = .ok merged) :
    UnitedFrom (group ++ others) merged := by
  obtain ⟨compatible, holds⟩ := KindMerger.merged_of_ok h.shaped h'.shaped result
  have consistent : first.directFields.Consistent second.directFields :=
    Fields.clash?_eq_none_iff.mp (compatible.direct h.direct)
  refine ⟨holds.shaped, holds.inherited.trans h.direct, ?_, fun other => ?_, fun path value => ?_⟩
  · refine agree_append.mpr ⟨h.agree, h'.agree, fun member among other among' => ?_⟩
    have below := (h.compatible_iff second).mp compatible member among
    exact ((h'.compatible_iff member).mp below.symm other among').symm
  · rw [holds.compatible_iff h.shaped h'.shaped compatible, h.compatible_iff, h'.compatible_iff]
    simp only [List.mem_append, or_imp, forall_and]
  · have joined : merged.directFields.Shows path value ↔
        (first.directFields.join second.directFields).Shows path value :=
      Document.shows_object_congr (holds.direct h.direct)
    rw [joined, Fields.shows_join_iff consistent, h.shows_iff, h'.shows_iff]
    simp only [List.mem_append, or_and_right, exists_or]

end Policy

namespace MergerRegistry

open Policy (UnitedFrom Unites ofKind)
open Table (gather)

/-- A merge that unites direct policies. -/
def UnitesBy (merge : Policy → Policy → Except MergeError Policy) : Prop :=
  ∀ {group others : List Policy} {first second merged : Policy}, UnitedFrom group first →
    UnitedFrom others second → merge first second = .ok merged →
      UnitedFrom (group ++ others) merged

theorem unitesBy_merge (operation : MergeOperation) :
    UnitesBy fun first second => (KindMerger.specification.merge operation first second).result :=
  fun h h' result => h.merge h' result

theorem unitesBy_inPrecedence : UnitesBy (mergeInPrecedence .specification) := by
  intro group others first second merged h h' result
  obtain ⟨id, found⟩ := h.shaped.specified.exists_id
  obtain ⟨other, found'⟩ := h'.shaped.specified.exists_id
  rw [mergeInPrecedence_of_id found found'] at result
  split at result
  · exact h.merge h' result
  · exact (h'.merge h result).perm List.perm_append_comm

section ByKind

variable {merge : Policy → Policy → Except MergeError Policy} {group others : List Policy}
  {found first second final : Option Policy} {policy merged : Policy}

theorem unites_joined (law : UnitesBy merge) (h : Unites group found)
    (h' : UnitedFrom others policy) (result : joined merge found policy = .ok merged) :
    UnitedFrom (group ++ others) merged := by
  cases found with
  | none =>
      cases result
      rw [show group = [] from h]
      exact h'
  | some existing => exact law h h' result

theorem unites_combined (law : UnitesBy merge) (h : Unites group first) (h' : Unites others second)
    (result : combined merge first second = .ok final) : Unites (group ++ others) final := by
  cases second with
  | none =>
      rw [show others = [] from h', List.append_nil]
      cases first <;> cases result <;> exact h
  | some policy =>
      cases first with
      | none =>
          cases result
          rw [show group = [] from h]
          exact h'
      | some existing =>
          change some <$> merge existing policy = .ok final at result
          obtain ⟨merged, came, rfl⟩ := Except.map_ok_iff.mp result
          exact law h h' came

/-- Entries that are merged one after the other unite all of their groups. -/
theorem unites_gather {α : Type} (law : UnitesBy merge) {items : List α}
    {entry : α → Option Policy} {groupOf : α → List Policy}
    (united : ∀ item ∈ items, Unites (groupOf item) (entry item)) (h : Unites group found)
    (result : gather (joined merge) found (items.filterMap entry) = .ok final) :
    Unites (group ++ items.flatMap groupOf) final := by
  induction items generalizing group found with
  | nil =>
      cases result
      rwa [List.flatMap_nil, List.append_nil]
  | cons item rest ih =>
      have here := united item List.mem_cons_self
      have later : ∀ other ∈ rest, Unites (groupOf other) (entry other) :=
        fun other member => united other (List.mem_cons_of_mem item member)
      rw [List.flatMap_cons, ← List.append_assoc]
      cases read : entry item with
      | none =>
          rw [read] at here
          rw [List.filterMap_cons_none read] at result
          rw [show groupOf item = [] from here, List.append_nil]
          exact ih later h result
      | some policy =>
          rw [read] at here
          rw [List.filterMap_cons_some read, Table.gather_cons] at result
          obtain ⟨merged, here', result⟩ := Except.bind_ok_iff.mp result
          have joined : Unites (group ++ groupOf item) (some merged) :=
            unites_joined law h here here'
          exact ih later joined result

end ByKind

variable {kind : MergeKind} {policies group others : List Policy}
  {found first second final : Option Policy}

/-- The policies of a kind among those of one level are united. -/
theorem unites_peers (direct : ∀ policy ∈ ofKind kind policies, UnitedFrom [policy] policy)
    (result : specifications.peers kind policies = .ok found) :
    Unites (ofKind kind policies) found := by
  obtain ⟨ordered, perm, _, gathers⟩ := exists_peers_eq_gather fun policy member =>
    (direct policy member).shaped.specified.exists_id
  rw [gathers, ← @List.filterMap_some _ ordered] at result
  have united : Unites ([] ++ ordered.flatMap fun policy => [policy]) found :=
    unites_gather (unitesBy_merge .peers)
      (fun policy member => show Unites [policy] (some policy) from
        direct policy (perm.mem_iff.mp member))
      (show Unites [] none from rfl) result
  rw [List.nil_append, List.flatMap_singleton'] at united
  exact united.perm perm

theorem unites_chain (h : Unites group first) (h' : Unites others second)
    (result : specifications.chain kind first second = .ok final) :
    Unites (group ++ others) final :=
  unites_combined (unitesBy_merge .levels) h h' result

/-- What reaches a node on several ways is united. -/
theorem unites_reunited {α : Type} {items : List α} {entry : α → Option Policy}
    {groupOf : α → List Policy} (united : ∀ item ∈ items, Unites (groupOf item) (entry item))
    (result : specifications.reunited kind (items.filterMap entry) = .ok final) :
    Unites (items.flatMap groupOf) final :=
  unites_gather unitesBy_inPrecedence united (show Unites [] none from rfl) result

end MergerRegistry

end PolicyTopology
