import PolicyTopology.Proofs.Policy.OneKind
import PolicyTopology.Proofs.Policy.Twins

/-!
# Reconciling in either order

Two tables of policies are reconciled kind by kind, in ascending order of the kinds, and the first
kind at which this fails decides the error. Where the policies of each kind can change places, so
can the tables: both orders come to the same content, or fail at the same kind with the same error.
Policies of different identities can always change places, as they are put in order of precedence
first; those of one identity can if they are twins.
-/

namespace PolicyTopology

namespace MergeKind

variable {first second third : MergeKind}

theorem orderKey_injective (h : first.orderKey = second.orderKey) : first = second := by
  have parts : first.parts = second.parts :=
    List.map_inj_right (fun _ _ => Text.codePoints_injective) |>.mp h
  obtain ⟨group, kind⟩ := first
  simp only [MergeKind.parts, List.cons.injEq, and_true] at parts
  obtain ⟨rfl, rfl⟩ := parts
  rfl

theorem le_total (first second : MergeKind) : first ≤ second ∨ second ≤ first := by
  by_cases h : second.orderKey < first.orderKey
  · exact .inr (List.lt_asymm h)
  · exact .inl h

theorem le_trans (h : first ≤ second) (h' : second ≤ third) : first ≤ third := by
  -- Stated with `<`, since more than one order of lists is written `≤`.
  have transitive : ∀ {first second third : List (List Nat)},
      ¬ second < first → ¬ third < second → ¬ third < first := List.le_trans
  exact transitive h h'

theorem le_antisymm (h : first ≤ second) (h' : second ≤ first) : first = second :=
  orderKey_injective (show first.orderKey = second.orderKey from List.le_antisymm h h')

theorem pairwise_sorted {α : Type} (entries : Entries MergeKind α) :
    (Entries.sorted entries).Pairwise fun first second => first.1 ≤ second.1 := by
  have sorted : (Entries.sorted entries).Pairwise fun first second : MergeKind × α =>
      decide (first.1 ≤ second.1) = true := by
    apply List.pairwise_mergeSort
    · simpa using fun _ _ _ _ _ _ => MergeKind.le_trans
    · simpa using fun first _ second _ => MergeKind.le_total first second
  simpa using sorted

end MergeKind

/-- A loop over distinct keys in ascending order fails as the first of the keys does at which it can
fail. -/
theorem Table.exists_least_of_fill_error {ε κ α β : Type} [DecidableEq κ] [LE κ]
    {combine : κ → Option α → β → Except ε α} {items : List (κ × β)} {start : Table κ α} {error : ε}
    (distinct : (items.map Prod.fst).Nodup)
    (ascending : items.Pairwise fun first second => first.1 ≤ second.1)
    (h : fill combine items start = .error error) :
    ∃ item ∈ items, combine item.1 (start.get? item.1) item.2 = .error error ∧
      ∀ other ∈ items, (∃ failure, combine other.1 (start.get? other.1) other.2 = .error failure) →
        item = other ∨ item.1 ≤ other.1 := by
  induction items generalizing start with
  | nil => cases h
  | cons item rest ih =>
      rw [fill_cons, Except.bind_error_iff] at h
      rw [List.map_cons, List.nodup_cons] at distinct
      rw [List.pairwise_cons] at ascending
      rcases h with failed | ⟨value, combined, h⟩
      · refine ⟨item, List.mem_cons_self, failed, fun other member _ => ?_⟩
        rcases List.mem_cons.mp member with rfl | member
        · exact .inl rfl
        · exact .inr (ascending.1 other member)
      · have untouched : ∀ other ∈ rest,
            (start.set item.1 value).get? other.1 = start.get? other.1 := by
          intro other member
          refine get?_set_ne _ _ fun same => distinct.1 ?_
          exact same ▸ List.mem_map_of_mem member
        obtain ⟨first, member, failed, least⟩ := ih distinct.2 ascending.2 h
        rw [untouched first member] at failed
        refine ⟨first, List.mem_cons_of_mem item member, failed, fun other member' fails => ?_⟩
        rcases List.mem_cons.mp member' with rfl | member'
        · obtain ⟨failure, fails⟩ := fails
          cases combined.symm.trans fails
        · rw [← untouched other member'] at fails
          exact least other member' fails

def PoliciesByKind.Same (first second : PoliciesByKind) : Prop :=
  ∀ kind, Option.Rel Policy.Same (first.get? kind) (second.get? kind)

namespace MergerRegistry

open Table (fill gather)

variable {registry : MergerRegistry} {first second : PoliciesByKind} {error : MergeError}
  {kind : MergeKind} {policy other : Policy}

/-- To reconcile two tables is, for each kind, to merge the policies that both have. -/
theorem tabulates_reconciled (first second : PoliciesByKind) :
    Except.Tabulates (fun kind => combined (mergeInPrecedence (registry.mergerFor kind))
      (first.get? kind) (second.get? kind)) Table.get?
      (registry.reconcile (some first) second).result := by
  have tabulates := @tabulates_reconcile registry (some first) second
  simp only [gather_joined_toList] at tabulates
  exact tabulates

/-- The error of two tables that cannot be reconciled is that of the least kind whose policies
cannot be merged. -/
theorem exists_least_of_reconcile_error
    (h : (registry.reconcile (some first) second).result = .error error) :
    ∃ kind policy other, first.get? kind = some policy ∧ second.get? kind = some other ∧
      mergeInPrecedence (registry.mergerFor kind) policy other = .error error ∧
      ∀ kind' policy' other', first.get? kind' = some policy' → second.get? kind' = some other' →
        (∃ failure, mergeInPrecedence (registry.mergerFor kind') policy' other' =
          .error failure) → kind = kind' ∨ kind ≤ kind' := by
  rw [result_reconcile] at h
  have perm := Entries.sorted_perm second.entries
  have distinct : ((Entries.sorted second.entries).map Prod.fst).Nodup :=
    ((perm.map Prod.fst).nodup_iff).mpr second.nodup_keys
  have listed : ∀ {kind : MergeKind} {other : Policy},
      (kind, other) ∈ Entries.sorted second.entries ↔ second.get? kind = some other :=
    perm.mem_iff.trans Table.mem_entries_iff
  obtain ⟨⟨kind, other⟩, member, failed, least⟩ :=
    Table.exists_least_of_fill_error distinct (MergeKind.pairwise_sorted _) h
  change joined _ (first.get? kind) other = .error error at failed
  cases held : first.get? kind with
  | none =>
      rw [held] at failed
      cases failed
  | some policy =>
      rw [held] at failed
      refine ⟨kind, policy, other, held, listed.mp member, failed, ?_⟩
      intro kind' policy' other' held' found' ⟨failure, fails⟩
      have fails : joined (mergeInPrecedence (registry.mergerFor kind')) (first.get? kind') other' =
          .error failure := by rw [held']; exact fails
      rcases least (kind', other') (listed.mpr found') ⟨failure, fails⟩ with same | before
      · exact .inl (congrArg Prod.fst same)
      · exact .inr before

/-- Tables that share one kind cannot be reconciled if the policies of this kind cannot. -/
theorem result_reconcile_of_error (found : first.get? kind = some policy)
    (found' : second.get? kind = some other)
    (failed : mergeInPrecedence (registry.mergerFor kind) policy other = .error error)
    (only : ∀ kind' entry', first.get? kind' = some entry' → kind' = kind) :
    (registry.reconcile (some first) second).result = .error error := by
  cases result : (registry.reconcile (some first) second).result with
  | ok table =>
      have combines := (tabulates_reconciled first second).ok result kind
      rw [found, found'] at combines
      change some <$> mergeInPrecedence (registry.mergerFor kind) policy other = _ at combines
      rw [failed] at combines
      cases combines
  | error error' =>
      obtain ⟨kind', entry, _, held, held', failed', _⟩ := exists_least_of_reconcile_error result
      cases only kind' entry held
      cases found.symm.trans held
      cases found'.symm.trans held'
      exact congrArg Except.error (Except.error.inj (failed'.symm.trans failed))

/-- Two policies that can change places when they are merged in order of precedence. -/
def Exchangeable (merger : KindMerger) (policy other : Policy) : Prop :=
  Except.Alike Policy.Same (mergeInPrecedence merger policy other)
    (mergeInPrecedence merger other policy)

section Exchange

variable (h : ∀ kind policy other, first.get? kind = some policy →
  second.get? kind = some other → Exchangeable (registry.mergerFor kind) policy other)

include h

/-- Either order comes to the same of each kind, whether both tables have it or not. -/
theorem alike_combined (kind : MergeKind) :
    Except.Alike (Option.Rel Policy.Same)
      (combined (mergeInPrecedence (registry.mergerFor kind)) (first.get? kind) (second.get? kind))
      (combined (mergeInPrecedence (registry.mergerFor kind)) (second.get? kind)
        (first.get? kind)) := by
  cases held : first.get? kind with
  | none =>
      cases second.get? kind with
      | none => exact Option.Rel.none
      | some other => exact Option.Rel.some (.refl other)
  | some policy =>
      cases found : second.get? kind with
      | none => exact Option.Rel.some (.refl policy)
      | some other => exact (h kind policy other held found).map fun _ _ same => .some same

/-- If neither order succeeds, both fail at the same kind: the least whose policies cannot be
merged. -/
theorem same_error_of_reconcile {error' : MergeError}
    (forth : (registry.reconcile (some first) second).result = .error error)
    (back : (registry.reconcile (some second) first).result = .error error') : error = error' := by
  obtain ⟨kind, policy, other, held, found, failed, least⟩ := exists_least_of_reconcile_error forth
  obtain ⟨kind', policy', other', found', held', failed', least'⟩ :=
    exists_least_of_reconcile_error back
  have fails := (h kind policy other held found).error_of_first failed
  have fails' := (h kind' other' policy' held' found').error_of_second failed'
  have same : kind = kind' := by
    rcases least kind' other' policy' held' found' ⟨error', fails'⟩ with same | before
    · exact same
    · rcases least' kind other policy found held ⟨error, fails⟩ with same | after
      · exact same.symm
      · exact MergeKind.le_antisymm before after
  subst same
  cases held.symm.trans held'
  cases found.symm.trans found'
  exact Except.error.inj (fails.symm.trans failed')

/-- Where the policies of each kind can change places, so can the tables: either order comes to the
same content, or both fail with one error. -/
theorem reconcile_comm :
    Except.Alike PoliciesByKind.Same (registry.reconcile (some first) second).result
      (registry.reconcile (some second) first).result := by
  have kindwise := alike_combined h
  have tabulates := @tabulates_reconciled registry first second
  have tabulates' := @tabulates_reconciled registry second first
  cases forth : (registry.reconcile (some first) second).result with
  | ok table =>
      cases back : (registry.reconcile (some second) first).result with
      | ok table' =>
          exact fun kind =>
            (kindwise kind).related_of_ok (tabulates.ok forth kind) (tabulates'.ok back kind)
      | error error =>
          obtain ⟨kind, failed⟩ := tabulates'.error back
          cases ((kindwise kind).error_of_second failed).symm.trans (tabulates.ok forth kind)
  | error error =>
      cases back : (registry.reconcile (some second) first).result with
      | ok table' =>
          obtain ⟨kind, failed⟩ := tabulates.error forth
          cases ((kindwise kind).error_of_first failed).symm.trans (tabulates'.ok back kind)
      | error error' => exact same_error_of_reconcile h forth back

end Exchange

end MergerRegistry

/-- One manifest policy, or two that are twins. -/
inductive Policy.Twinned : Policy → Policy → Prop
  | one (policy : ManifestPolicy) : Twinned (.manifest policy) (.manifest policy)
  | twins {first second : ManifestPolicy} (h : first.Twins second) :
      Twinned (.manifest first) (.manifest second)

namespace Policy.Twinned

variable {first second : Policy}

theorem of_eq (manifest : first.IsManifest) (h : first = second) : first.Twinned second := by
  obtain ⟨policy, rfl⟩ := manifest
  exact h ▸ .one policy

theorem symm (h : first.Twinned second) : second.Twinned first := by
  cases h with
  | one policy => exact .one policy
  | twins h => exact .twins h.symm

theorem same (h : first.Twinned second) : first.Same second := by
  cases h with
  | one policy => exact .refl _
  | twins h => exact h.same

theorem alike_peers (h : first.Twinned second) (readable : ∃ kind, first.kind = .ok kind) :
    Except.Alike Policy.Same (KindMerger.specification.merge .peers first second).result
      (KindMerger.specification.merge .peers second first).result := by
  cases h with
  | one policy => exact .of_eq Policy.Same.refl rfl
  | twins h =>
      rw [KindMerger.result_peers, KindMerger.result_peers]
      exact (h.alike_mergePeers readable).map fun _ _ twins => twins.same

end Policy.Twinned

namespace MergerRegistry

variable {policy other : Policy} {id id' : ResourceId}

/-- Policies can change places if they are twins or have different identities. -/
theorem exchangeable_of_twinned (found : policy.id = .ok id) (found' : other.id = .ok id')
    (h : id = id' → policy.Twinned other) : Exchangeable .specification policy other := by
  unfold Exchangeable
  rw [mergeInPrecedence_of_id found found', mergeInPrecedence_of_id found' found]
  by_cases same : id = id'
  · subst same
    rw [if_pos (ResourceId.le_refl id), if_pos (ResourceId.le_refl id)]
    exact (h rfl).alike_peers (Policy.exists_kind_of_id ⟨id, found⟩)
  · -- Whichever comes first, the two are merged in order of precedence.
    by_cases before : id ≤ id'
    · rw [if_pos before, if_neg fun after => same (ResourceId.le_antisymm before after)]
      exact .of_eq Policy.Same.refl rfl
    · rw [if_neg before, if_pos ((ResourceId.le_total id id').resolve_left before)]
      exact .of_eq Policy.Same.refl rfl

/-- Policies that are legible together fail to be merged only by a conflict. -/
theorem conflict_of_mergeInPrecedence {error : MergeError} (hf : policy.Specified)
    (hs : other.Specified) (legible : policy.LegibleTogether other)
    (h : mergeInPrecedence .specification policy other = .error error) :
    ∃ conflict, error = .conflict conflict := by
  obtain ⟨id, found⟩ := hf.exists_id
  obtain ⟨id', found'⟩ := hs.exists_id
  have tame := (KindMerger.tame_iff_legibleTogether hf hs).mpr legible .peers
  rw [mergeInPrecedence_of_id found found'] at h
  split at h
  · rw [h] at tame
    cases error with
    | conflict conflict => exact ⟨conflict, rfl⟩
    | fault fault => exact tame.1.elim
  · rw [h] at tame
    cases error with
    | conflict conflict => exact ⟨conflict, rfl⟩
    | fault fault => exact tame.2.elim

end MergerRegistry

end PolicyTopology
