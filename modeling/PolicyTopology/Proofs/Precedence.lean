import PolicyTopology.Identity
import PolicyTopology.Entries
import Mathlib.Data.List.Nodup
import Mathlib.Data.List.Sort

/-!
# The order of identities

Identities are ordered by the code points of their parts. The order is total, and two identities
that precede each other are one, so sorting leaves no choice.
-/

namespace PolicyTopology

namespace ResourceId

variable {first second third : ResourceId}

theorem le_refl (id : ResourceId) : id ≤ id :=
  List.lt_irrefl id.orderKey

theorem le_total (first second : ResourceId) : first ≤ second ∨ second ≤ first := by
  by_cases h : second.orderKey < first.orderKey
  · exact .inr (List.lt_asymm h)
  · exact .inl h

theorem le_trans (h : first ≤ second) (h' : second ≤ third) : first ≤ third := by
  -- Stated with `<`, since more than one order of lists is written `≤`.
  have transitive : ∀ {first second third : List (List Nat)},
      ¬ second < first → ¬ third < second → ¬ third < first := List.le_trans
  exact transitive h h'

theorem le_antisymm (h : first ≤ second) (h' : second ≤ first) : first = second :=
  orderKey_injective (show first.orderKey = second.orderKey from List.le_antisymm h h')

/-- Strictly before another identity. -/
def Precedes (first second : ResourceId) : Prop := first ≤ second ∧ first ≠ second

instance (first second : ResourceId) : Decidable (Precedes first second) :=
  inferInstanceAs (Decidable (_ ∧ _))

theorem Precedes.trans_le (h : Precedes first second) (h' : second ≤ third) :
    Precedes first third := by
  refine ⟨le_trans h.1 h', ?_⟩
  rintro rfl
  exact h.2 (le_antisymm h.1 h')

theorem Precedes.trans (h : Precedes first second) (h' : Precedes second third) :
    Precedes first third := h.trans_le h'.1

theorem precedes_of_not_le (h : ¬ first ≤ second) : Precedes second first := by
  refine ⟨(le_total first second).resolve_left h, ?_⟩
  rintro rfl
  exact h (le_refl _)

theorem le_of_not_precedes (h : ¬ Precedes second first) : first ≤ second :=
  Classical.byContradiction fun after => h (precedes_of_not_le after)

theorem Precedes.not_le (h : Precedes first second) : ¬ second ≤ first :=
  fun h' => h.2 (le_antisymm h.1 h')

end ResourceId

theorem sortedIds_perm (ids : List ResourceId) : (sortedIds ids).Perm ids :=
  List.mergeSort_perm _ _

@[simp] theorem mem_sortedIds {ids : List ResourceId} {id : ResourceId} :
    id ∈ sortedIds ids ↔ id ∈ ids :=
  (sortedIds_perm ids).mem_iff

theorem pairwise_sortedIds (ids : List ResourceId) : (sortedIds ids).Pairwise (· ≤ ·) := by
  have sorted : (sortedIds ids).Pairwise fun first second : ResourceId =>
      decide (first ≤ second) = true := by
    apply List.pairwise_mergeSort
    · simpa using fun _ _ _ => ResourceId.le_trans
    · simpa using ResourceId.le_total
  simpa using sorted

/-- The order of arrival leaves no trace in a sorted list. -/
theorem sortedIds_congr {ids others : List ResourceId} (perm : ids.Perm others) :
    sortedIds ids = sortedIds others :=
  List.Perm.eq_of_pairwise (fun _ _ _ _ => ResourceId.le_antisymm) (pairwise_sortedIds ids)
    (pairwise_sortedIds others)
    (((sortedIds_perm ids).trans perm).trans (sortedIds_perm others).symm)

theorem Entries.pairwise_sorted {α : Type} (entries : Entries ResourceId α) :
    (Entries.sorted entries).Pairwise fun first second => first.1 ≤ second.1 := by
  have sorted : (Entries.sorted entries).Pairwise fun first second : ResourceId × α =>
      decide (first.1 ≤ second.1) = true := by
    apply List.pairwise_mergeSort
    · simpa using fun _ _ _ _ _ _ => ResourceId.le_trans
    · simpa using fun first _ second _ => ResourceId.le_total first second
  simpa using sorted

/-- Entries of distinct identities have one ascending order. -/
theorem Entries.sorted_congr {α : Type} {entries others : Entries ResourceId α}
    (nodup : entries.keys.Nodup) (perm : others.Perm entries) :
    Entries.sorted others = Entries.sorted entries := by
  refine List.Perm.eq_of_pairwise (fun first second member member' before after => ?_)
    (pairwise_sorted others) (pairwise_sorted entries)
    (((sorted_perm others).trans perm).trans (sorted_perm entries).symm)
  exact List.inj_on_of_nodup_map nodup (perm.mem_iff.mp ((sorted_perm others).mem_iff.mp member))
    ((sorted_perm entries).mem_iff.mp member') (ResourceId.le_antisymm before after)

theorem sortedIds_eq (ids : List ResourceId) : sortedIds ids = ids.insertionSort (· ≤ ·) := by
  have : Std.Total (fun first second : ResourceId => first ≤ second) := ⟨ResourceId.le_total⟩
  have : IsTrans ResourceId (· ≤ ·) := ⟨fun _ _ _ => ResourceId.le_trans⟩
  exact List.Perm.eq_of_pairwise (fun _ _ _ _ => ResourceId.le_antisymm) (pairwise_sortedIds ids)
    (List.pairwise_insertionSort _ ids)
    ((sortedIds_perm ids).trans (List.perm_insertionSort _ ids).symm)

theorem sortedIds_of_ascending {ids : List ResourceId} (ascending : ids.Pairwise (· ≤ ·)) :
    sortedIds ids = ids :=
  List.mergeSort_of_pairwise (by simpa using ascending)

end PolicyTopology
