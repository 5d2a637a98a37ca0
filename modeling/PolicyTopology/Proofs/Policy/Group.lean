import PolicyTopology.Proofs.Deciding
import PolicyTopology.Proofs.Document.Agreement
import PolicyTopology.Proofs.Policy.Legible

/-!
# Groups of policies that can be merged

A merge proceeds pair by pair, on what earlier merges have left; whether it comes to an end depends
on the pairs of policies that were there at first. For an entry of a table stands for the group of
policies it was merged from: it is compatible with whatever all of them are compatible with. So the
operations of the registry that merges specifications decide whether the policies of each kind are
compatible pair by pair, in whatever order and grouping they meet.
-/

namespace PolicyTopology

namespace Policy

variable {first second merged other policy : Policy} {group others : List Policy}
  {found : Option Policy}

theorem Compatible.symm (h : first.Compatible second) : second.Compatible first where
  kind := h.kind.symm
  inherited := h.inherited.symm
  direct direct := by
    have consistent := Fields.clash?_eq_none_iff.mp (h.direct (h.inherited.trans direct))
    exact Fields.clash?_eq_none_iff.mpr consistent.symm

theorem Merged.kind {operation : MergeOperation} (h : Merged operation first second merged)
    (hf : first.Shaped) (hs : second.Shaped) (compatible : first.Compatible second) :
    merged.kind = first.kind := by
  cases operation with
  | levels => exact (kind_of_id hs h.id).trans compatible.kind.symm
  | peers => exact kind_of_id hf h.id

/-- What is merged is compatible with what both policies are compatible with. -/
theorem Merged.compatible_iff {operation : MergeOperation}
    (h : Merged operation first second merged)
    (hf : first.Shaped) (hs : second.Shaped) (compatible : first.Compatible second) :
    merged.Compatible other ↔ first.Compatible other ∧ second.Compatible other := by
  have kind := h.kind hf hs compatible
  have direct : first.inherited = false → (merged.directFields.clash? other.directFields = none ↔
      first.directFields.clash? other.directFields = none ∧
        second.directFields.clash? other.directFields = none) := by
    intro direct
    have consistent := Fields.clash?_eq_none_iff.mp (compatible.direct direct)
    simp only [Fields.clash?_eq_none_iff]
    rw [Document.consistent_object_congr (h.direct direct), Fields.consistent_join_iff consistent]
  constructor
  · intro both
    have inherited := h.inherited.symm.trans both.inherited
    have split := fun yes => (direct yes).mp (both.direct (h.inherited.trans yes))
    exact ⟨⟨kind.symm.trans both.kind, inherited, fun yes => (split yes).1⟩,
      ⟨compatible.kind.symm.trans (kind.symm.trans both.kind),
        compatible.inherited.symm.trans inherited,
        fun yes => (split (compatible.inherited.trans yes)).2⟩⟩
  · rintro ⟨left, right⟩
    refine ⟨kind.trans left.kind, h.inherited.trans left.inherited, fun yes => ?_⟩
    have yes := h.inherited.symm.trans yes
    exact (direct yes).mpr ⟨left.direct yes, right.direct (compatible.inherited.symm.trans yes)⟩

/-- What stands for a group of policies: it is compatible with whatever all of them are compatible
with, and as legible as one of them. -/
structure Represents (policy : Policy) (group : List Policy) : Prop where
  specified : policy.Specified
  resembles : ∃ member ∈ group, policy.Resembles member
  compatible_iff : ∀ other, policy.Compatible other ↔ ∀ member ∈ group, member.Compatible other

/-- An entry that stands for a group of policies; no entry stands for an empty group. -/
def StandsFor (group : List Policy) : Option Policy → Prop
  | none => group = []
  | some policy => policy.Represents group

theorem standsFor_singleton (h : policy.Specified) : StandsFor [policy] (some policy) where
  specified := h
  resembles := ⟨policy, List.mem_singleton_self policy, .refl policy⟩
  compatible_iff other := by simp

theorem StandsFor.perm (h : StandsFor group found) (perm : group.Perm others) :
    StandsFor others found := by
  cases found with
  | none =>
      rw [show group = [] from h] at perm
      exact perm.nil_eq.symm
  | some policy =>
      obtain ⟨member, among, resembles⟩ := h.resembles
      exact ⟨h.specified, ⟨member, perm.mem_iff.mp among, resembles⟩,
        fun other => by simp only [h.compatible_iff other, perm.mem_iff]⟩

/-- What stands for two groups is legible together if all of their policies are. -/
theorem Represents.legibleTogether {policy' : Policy} (h : policy.Represents group)
    (h' : policy'.Represents others) (legible : LegibleAmong (group ++ others)) :
    policy.LegibleTogether policy' := by
  obtain ⟨member, among, resembles⟩ := h.resembles
  obtain ⟨member', among', resembles'⟩ := h'.resembles
  exact (legible.together among among').of_resembles resembles resembles'

/-- Each policy of the group is compatible with each later one. -/
def Agree (group : List Policy) : Prop := group.Pairwise Compatible

theorem Agree.perm (h : Agree group) (perm : group.Perm others) : Agree others :=
  (perm.pairwise_iff Compatible.symm).mp h

theorem agree_append : Agree (group ++ others) ↔
    Agree group ∧ Agree others ∧ ∀ member ∈ group, ∀ other ∈ others, member.Compatible other :=
  List.pairwise_append

end Policy

def MergeError.IsConflict (error : MergeError) : Prop := ∃ conflict, error = .conflict conflict

namespace MergerRegistry

open Policy (StandsFor Agree LegibleAmong)
open Table (fill gather valuesAt)

/-- A merge that reconciles compatible policies and no others, if they are legible together. -/
def Reconciles (merge : Policy → Policy → Except MergeError Policy) : Prop :=
  ∀ {first second : Policy}, first.Specified → second.Specified → first.LegibleTogether second →
    Except.Decides MergeError.IsConflict (first.Compatible second)
      (fun merged => merged.Specified ∧ merged.Resembles first ∧
        ∀ other, merged.Compatible other ↔ first.Compatible other ∧ second.Compatible other)
      (merge first second)

theorem reconciles_merge (operation : MergeOperation) :
    Reconciles fun first second =>
      (KindMerger.specification.merge operation first second).result := by
  intro first second hf hs legible
  dsimp only
  by_cases agree : first.kind = second.kind ∧ first.inherited = second.inherited
  · obtain ⟨hf, hs⟩ := legible.shaped hf hs agree.1 agree.2
    by_cases compatible : first.Compatible second
    · obtain ⟨merged, result, holds⟩ := KindMerger.merge_of_compatible hf hs compatible operation
      rw [result]
      exact ⟨compatible, holds.shaped.specified, ⟨holds.kind hf hs compatible, holds.inherited,
        fun inherits _ => (Policy.shaped_iff.mp holds.shaped).2 inherits⟩,
        fun other => holds.compatible_iff hf hs compatible⟩
    · obtain ⟨conflict, result⟩ := KindMerger.merge_of_not_compatible hf hs compatible operation
      rw [result]
      exact ⟨⟨conflict, rfl⟩, compatible⟩
  · obtain ⟨conflict, result⟩ := KindMerger.conflict_of_differ hf hs agree operation
    rw [result]
    exact ⟨⟨conflict, rfl⟩, fun compatible => agree ⟨compatible.kind, compatible.inherited⟩⟩

theorem reconciles_inPrecedence : Reconciles (mergeInPrecedence .specification) := by
  intro first second hf hs legible
  obtain ⟨id, found⟩ := hf.exists_id
  obtain ⟨other, found'⟩ := hs.exists_id
  rw [mergeInPrecedence_of_id found found']
  split
  · exact reconciles_merge .peers hf hs legible
  · refine (reconciles_merge .peers hs hf legible.symm).congr
      ⟨Policy.Compatible.symm, Policy.Compatible.symm⟩ fun merged compatible holds => ?_
    obtain ⟨specified, resembles, compatible_iff⟩ := holds
    refine ⟨specified,
      resembles.trans ⟨compatible.kind, compatible.inherited, fun inherits _ => ?_⟩,
      fun other => (compatible_iff other).trans and_comm⟩
    exact (legible compatible.kind.symm (compatible.inherited ▸ inherits) inherits).2

section ByKind

variable {merge : Policy → Policy → Except MergeError Policy} {group others : List Policy}
  {found second : Option Policy} {policy : Policy} {policies : List Policy}

/-- To join an entry with another one is to decide whether their groups agree. -/
theorem decides_joined (law : Reconciles merge) (h : StandsFor group found) (agree : Agree group)
    (h' : StandsFor others (some policy)) (agree' : Agree others)
    (legible : LegibleAmong (group ++ others)) :
    Except.Decides MergeError.IsConflict (Agree (group ++ others))
      (fun merged => StandsFor (group ++ others) (some merged)) (joined merge found policy) := by
  cases found with
  | none =>
      rw [show group = [] from h]
      exact ⟨agree', h'⟩
  | some existing =>
      refine (law h.specified h'.specified (h.legibleTogether h' legible)).congr ?_
        fun merged _ holds => ?_
      · rw [Policy.agree_append, h.compatible_iff]
        constructor
        · intro compatible
          refine ⟨agree, agree', fun member first other second => ?_⟩
          exact ((h'.compatible_iff member).mp (compatible member first).symm other second).symm
        · rintro ⟨_, _, compatible⟩ member first
          exact ((h'.compatible_iff member).mpr fun other second =>
            (compatible member first other second).symm).symm
      · obtain ⟨specified, resembles, compatible_iff⟩ := holds
        obtain ⟨member, among, resembles'⟩ := h.resembles
        refine ⟨specified, ⟨member, List.mem_append_left _ among, resembles.trans resembles'⟩,
          fun other => ?_⟩
        rw [compatible_iff, h.compatible_iff, h'.compatible_iff]
        simp only [List.mem_append, or_imp, forall_and]

theorem decides_gather (law : Reconciles merge)
    (specified : ∀ policy ∈ policies, policy.Specified) (h : StandsFor group found)
    (agree : Agree group) (legible : LegibleAmong (group ++ policies)) :
    Except.Decides MergeError.IsConflict (Agree (group ++ policies)) (StandsFor (group ++ policies))
      (gather (joined merge) found policies) := by
  induction policies generalizing group found with
  | nil =>
      rw [List.append_nil]
      exact ⟨agree, h⟩
  | cons policy rest ih =>
      rw [Table.gather_cons]
      rw [← List.singleton_append, ← List.append_assoc] at legible
      have single : Agree [policy] := List.pairwise_singleton _ _
      refine (decides_joined law h agree
        (Policy.standsFor_singleton (specified policy List.mem_cons_self)) single
        (legible.sublist (List.sublist_append_left _ _))).bind (fun merged agree' holds => ?_) ?_
      · have others := ih (fun other member => specified other (List.mem_cons_of_mem policy member))
          holds agree' legible
        rwa [List.append_assoc] at others
      · intro all
        rw [← List.singleton_append, ← List.append_assoc] at all
        exact (Policy.agree_append.mp all).1

theorem decides_gather_toList (law : Reconciles merge) (h : StandsFor group found)
    (agree : Agree group) (h' : StandsFor others second) (agree' : Agree others)
    (legible : LegibleAmong (group ++ others)) :
    Except.Decides MergeError.IsConflict (Agree (group ++ others)) (StandsFor (group ++ others))
      (gather (joined merge) found second.toList) := by
  cases second with
  | none =>
      rw [show others = [] from h', List.append_nil]
      exact ⟨agree, h⟩
  | some policy =>
      rw [Option.toList_some, Table.gather_cons]
      exact (decides_joined law h agree h' agree' legible).bind
        (fun merged agree'' holds => ⟨agree'', holds⟩) id

end ByKind

end MergerRegistry

namespace Policy

variable {group others : List Policy}

def ofKind (kind : MergeKind) (group : List Policy) : List Policy :=
  group.filter fun policy => policy.kind.toOption = some kind

theorem mem_ofKind {kind : MergeKind} {policy : Policy} :
    policy ∈ ofKind kind group ↔ policy ∈ group ∧ policy.kind = .ok kind := by
  have isOfKind : policy.kind.toOption = some kind ↔ policy.kind = .ok kind := by
    cases policy.kind <;> simp [Except.toOption]
  rw [ofKind, List.mem_filter, decide_eq_true_iff, isOfKind]

theorem ofKind_append (kind : MergeKind) :
    ofKind kind (group ++ others) = ofKind kind group ++ ofKind kind others :=
  List.filter_append ..

def AgreeByKind (group : List Policy) : Prop := ∀ kind, Agree (ofKind kind group)

theorem agreeByKind_nil : AgreeByKind [] := fun _ => .nil

theorem AgreeByKind.perm (h : AgreeByKind group) (perm : group.Perm others) : AgreeByKind others :=
  fun kind => (h kind).perm (perm.filter _)

theorem AgreeByKind.sublist (h : AgreeByKind others) (sublist : group.Sublist others) :
    AgreeByKind group :=
  fun kind => (h kind).sublist (sublist.filter _)

end Policy

/-- Each entry of a table stands for the policies of its kind. -/
def PoliciesByKind.StandsFor (group : List Policy) (table : PoliciesByKind) : Prop :=
  ∀ kind, Policy.StandsFor (Policy.ofKind kind group) (table.get? kind)

theorem PoliciesByKind.standsFor_empty : PoliciesByKind.StandsFor [] .empty := fun _ => rfl

namespace MergerRegistry

open Policy (AgreeByKind LegibleAmong ofKind)

variable {group others policies : List Policy} {ancestor specific : PoliciesByKind}
  {first : Option PoliciesByKind} {second : PoliciesByKind}

/-- The merge of a level decides whether its policies agree. -/
theorem decides_mergeLevel (specified : ∀ policy ∈ policies, policy.Specified)
    (legible : LegibleAmong policies) :
    Except.Decides MergeError.IsConflict (AgreeByKind policies) (PoliciesByKind.StandsFor policies)
      (specifications.mergeLevel policies).result := by
  obtain ⟨ordered, perm, kinds, result⟩ := @result_mergeLevel specifications policies
    fun policy member => (specified policy member).exists_id
  have same : ∀ kind, (Table.valuesAt ordered kind).Perm (ofKind kind policies) := by
    intro kind
    refine List.Perm.trans (List.Perm.of_eq ?_) (perm.filter _)
    rw [List.filter_map]
    refine congrArg (List.map Prod.snd) (List.filter_congr fun entry member => ?_)
    obtain ⟨id, found, ofId⟩ := kinds entry member
    rw [Function.comp_apply, (Policy.parts_of_id found).1, ← ofId]
    exact decide_eq_decide.mpr (by simp [kindOf, Except.toOption])
  have specified' : ∀ kind, ∀ policy ∈ Table.valuesAt ordered kind, policy.Specified := by
    intro kind policy member
    exact specified policy (List.mem_filter.mp ((same kind).mem_iff.mp member)).1
  have legible' : ∀ kind, LegibleAmong ([] ++ Table.valuesAt ordered kind) := fun kind =>
    (legible.sublist List.filter_sublist).perm (same kind).symm
  rw [result]
  refine (Except.Decides.fill fun kind => decides_gather (reconciles_merge .peers)
    (specified' kind) (show Policy.StandsFor [] none from rfl) .nil (legible' kind)).congr
    (forall_congr' fun kind => ?_) fun table _ stands kind => ?_
  · rw [List.nil_append]
    exact ⟨fun agree => agree.perm (same kind), fun agree => agree.perm (same kind).symm⟩
  · exact (stands kind).perm (same kind)

section Tables

variable (legible : LegibleAmong (group ++ others))

include legible

theorem legibleAmong_ofKind (kind : MergeKind) :
    LegibleAmong (ofKind kind group ++ ofKind kind others) :=
  Policy.ofKind_append kind ▸ legible.sublist List.filter_sublist

/-- To lay one table over another is to decide whether their groups agree. -/
theorem decides_overlay (h : ancestor.StandsFor group) (agree : AgreeByKind group)
    (h' : specific.StandsFor others) (agree' : AgreeByKind others) :
    Except.Decides MergeError.IsConflict (AgreeByKind (group ++ others))
      (PoliciesByKind.StandsFor (group ++ others))
      (specifications.overlay ancestor specific).result := by
  rw [result_overlay]
  refine Except.Decides.fill fun kind => ?_
  rw [Table.valuesAt_of_perm (Entries.sorted_perm _), Policy.ofKind_append]
  exact decides_gather_toList (reconciles_merge .levels) (h kind) (agree kind) (h' kind)
    (agree' kind) (legibleAmong_ofKind legible kind)

/-- To reconcile two tables is to decide whether their groups agree. -/
theorem decides_reconcile (h : (first.getD .empty).StandsFor group) (agree : AgreeByKind group)
    (h' : second.StandsFor others) (agree' : AgreeByKind others) :
    Except.Decides MergeError.IsConflict (AgreeByKind (group ++ others))
      (PoliciesByKind.StandsFor (group ++ others))
      (specifications.reconcile first second).result := by
  rw [result_reconcile]
  refine Except.Decides.fill fun kind => ?_
  rw [Table.valuesAt_of_perm (Entries.sorted_perm _), Policy.ofKind_append]
  exact decides_gather_toList reconciles_inPrecedence (h kind) (agree kind) (h' kind) (agree' kind)
    (legibleAmong_ofKind legible kind)

end Tables

end MergerRegistry

end PolicyTopology
