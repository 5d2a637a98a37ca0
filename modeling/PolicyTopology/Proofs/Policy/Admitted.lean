import PolicyTopology.Proofs.Policy.ByKind
import PolicyTopology.Proofs.Policy.Merged

/-!
# Mergers that raise nothing but conflicts

What a merger promises, it promises for the policies that it admits, and what it makes of admitted
policies is admitted again. The registry that merges specifications admits shaped policies.
-/

namespace PolicyTopology

/-- A merge comes to a conflict or to a result of which `property` holds. -/
def Merging.Tame {α : Type} (property : α → Prop) : Except MergeError α → Prop
  | .ok value => property value
  | .error (.conflict _) => True
  | .error (.fault _) => False

namespace Merging.Tame

variable {α β : Type} {property : α → Prop} {property' : β → Prop} {result : Except MergeError α}

theorem bind {next : α → Except MergeError β} (h : Tame property result)
    (h' : ∀ value, property value → Tame property' (next value)) :
    Tame property' (result >>= next) := by
  cases result with
  | ok value => exact h' value h
  | error error =>
      cases error with
      | conflict conflict => trivial
      | fault fault => exact h

theorem imp {property' : α → Prop} (h : Tame property result)
    (h' : ∀ value, property value → property' value) : Tame property' result := by
  cases result with
  | ok value => exact h' value h
  | error error =>
      cases error with
      | conflict conflict => trivial
      | fault fault => exact h

theorem of_map {f : α → β} (h : Tame property' (f <$> result)) :
    Tame (fun value => property' (f value)) result := by
  cases result with
  | ok value => exact h
  | error error =>
      cases error with
      | conflict conflict => trivial
      | fault fault => exact h

/-- What a tame computation reads first can be read. -/
theorem exists_of_lift {reading : Except ShapeError α} {next : α → Except MergeError β}
    (h : Tame property' ((liftM reading : Except MergeError α) >>= next)) :
    ∃ value, reading = .ok value ∧ Tame property' (next value) := by
  cases reading with
  | ok value => exact ⟨value, rfl, h⟩
  | error error => exact h.elim

end Merging.Tame

/-- Every policy of a level is admitted. -/
def PoliciesByKind.All (admitted : Policy → Prop) (policies : PoliciesByKind) : Prop :=
  ∀ kind policy, policies.get? kind = some policy → admitted policy

theorem PoliciesByKind.all_empty (admitted : Policy → Prop) :
    PoliciesByKind.All admitted .empty :=
  fun _ _ found => nomatch found

/-- A merger that on admitted policies comes to admitted ones or to a conflict. -/
structure PolicyMerger.RaisesOnlyConflicts (merger : PolicyMerger) (admitted : Policy → Prop) :
    Prop where
  mergeLevel : ∀ {policies}, (∀ policy ∈ policies, admitted policy) →
    Merging.Tame (PoliciesByKind.All admitted) (merger.mergeLevel policies).result
  overlay : ∀ {ancestors specific : PoliciesByKind}, ancestors.All admitted →
    specific.All admitted →
    Merging.Tame (PoliciesByKind.All admitted) (merger.overlay ancestors specific).result
  reconcile : ∀ {first : Option PoliciesByKind} {second : PoliciesByKind},
    (∀ policies, first = some policies → policies.All admitted) → second.All admitted →
    Merging.Tame (PoliciesByKind.All admitted) (merger.reconcile first second).result

namespace PoliciesByKind.All

variable {admitted : Policy → Prop} {policies : PoliciesByKind}

theorem set (h : policies.All admitted) (kind : MergeKind) {policy : Policy}
    (h' : admitted policy) : PoliciesByKind.All admitted (policies.set kind policy) := by
  intro other found stored
  rw [Table.get?_set] at stored
  split at stored
  · cases stored
    exact h'
  · exact h other found stored

end PoliciesByKind.All

namespace MergerRegistry

variable {admitted : Policy → Prop}

/-- A table that is filled with admitted policies holds admitted ones. -/
theorem tame_fill {merge : MergeKind → Policy → Policy → Except MergeError Policy}
    (tame : ∀ kind {first second}, admitted first → admitted second →
      Merging.Tame admitted (merge kind first second))
    {items : List (MergeKind × Policy)} (items_admitted : ∀ item ∈ items, admitted item.2)
    {start : PoliciesByKind} (start_admitted : start.All admitted) :
    Merging.Tame (PoliciesByKind.All admitted)
      (Table.fill (fun kind => joined (merge kind)) items start) := by
  induction items generalizing start with
  | nil => exact start_admitted
  | cons item rest ih =>
      have others := fun other member => items_admitted other (List.mem_cons_of_mem item member)
      have first := items_admitted item List.mem_cons_self
      rw [Table.fill_cons]
      have step : Merging.Tame admitted (joined (merge item.1) (start.get? item.1) item.2) := by
        cases stored : start.get? item.1 with
        | none => exact first
        | some existing => exact tame item.1 (start_admitted item.1 existing stored) first
      exact step.bind fun policy holds => ih others (start_admitted.set item.1 holds)

/-- A merge of shaped policies comes to a shaped one or to a conflict. -/
theorem tame_merge {first second : Policy} (hf : first.Shaped) (hs : second.Shaped)
    (operation : MergeOperation) :
    Merging.Tame Policy.Shaped (KindMerger.specification.merge operation first second).result := by
  by_cases compatible : first.Compatible second
  · obtain ⟨merged, result, holds⟩ := KindMerger.merge_of_compatible hf hs compatible operation
    rw [result]
    exact holds.shaped
  · obtain ⟨conflict, result⟩ :=
      KindMerger.merge_of_not_compatible hf hs compatible operation
    rw [result]
    trivial

theorem mergeInPrecedence_of_shaped {first second : Policy} (hf : first.Shaped)
    (hs : second.Shaped) : ∃ id other, first.id = .ok id ∧ second.id = .ok other ∧
      mergeInPrecedence .specification first second =
        if id ≤ other then (KindMerger.specification.merge .peers first second).result
        else (KindMerger.specification.merge .peers second first).result := by
  obtain ⟨id, found⟩ := hf.exists_id
  obtain ⟨other, found'⟩ := hs.exists_id
  exact ⟨id, other, found, found', mergeInPrecedence_of_id found found'⟩

/-- A registry raises nothing but conflicts if its mergers do, provided that admitted policies have
identities. -/
theorem raisesOnlyConflicts {registry : MergerRegistry}
    (identified : ∀ {policy}, admitted policy → ∃ id, policy.id = .ok id)
    (tame : ∀ kind operation {first second}, admitted first → admitted second →
      Merging.Tame admitted ((registry.mergerFor kind).merge operation first second).result) :
    registry.toPolicyMerger.RaisesOnlyConflicts admitted where
  mergeLevel {policies} admits := by
    obtain ⟨ordered, perm, ids, result⟩ := @result_mergeLevel registry policies
      fun policy member => identified (admits policy member)
    change Merging.Tame _ (registry.mergeLevel policies).result
    rw [result]
    refine tame_fill (fun kind first second hf hs => tame kind .peers hf hs) ?_
      (PoliciesByKind.all_empty _)
    intro item member
    exact admits item.2 (perm.mem_iff.mp (List.mem_map_of_mem member))
  overlay {ancestors specific} hancestors hspecific := by
    change Merging.Tame _ (registry.overlay ancestors specific).result
    rw [result_overlay]
    refine tame_fill (fun kind first second hf hs => tame kind .levels hf hs) ?_ hancestors
    intro item member
    exact hspecific item.1 item.2
      (Table.mem_entries_iff.mp ((Entries.sorted_perm _).mem_iff.mp member))
  reconcile {first second} hfirst hsecond := by
    change Merging.Tame _ (registry.reconcile first second).result
    rw [result_reconcile]
    refine tame_fill (fun kind first second hf hs => ?_) ?_ ?_
    · obtain ⟨id, found⟩ := identified hf
      obtain ⟨other, found'⟩ := identified hs
      rw [mergeInPrecedence_of_id found found']
      split
      · exact tame kind .peers hf hs
      · exact tame kind .peers hs hf
    · intro item member
      exact hsecond item.1 item.2
        (Table.mem_entries_iff.mp ((Entries.sorted_perm _).mem_iff.mp member))
    · cases first with
      | none => exact PoliciesByKind.all_empty _
      | some policies => exact hfirst policies rfl

/-- The registry that merges specifications raises nothing but conflicts on shaped policies. -/
theorem specifications_raisesOnlyConflicts :
    specifications.toPolicyMerger.RaisesOnlyConflicts Policy.Shaped :=
  raisesOnlyConflicts Policy.Shaped.exists_id fun _ operation _ _ hf hs =>
    tame_merge hf hs operation

end MergerRegistry

end PolicyTopology
