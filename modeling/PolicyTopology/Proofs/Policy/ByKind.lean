import PolicyTopology.Proofs.Filling
import PolicyTopology.Proofs.Precedence
import PolicyTopology.Policy.Merger

/-!
# Merging kind by kind

The three operations of a registry put policies into a table, one kind at a time, and policies of
different kinds never meet. So what an operation comes to is known from what it does with the
policies of each kind.
-/

namespace PolicyTopology

namespace MergerRegistry

open Table (fill gather valuesAt)

/-- Combine a policy with the one that is there, if there is one. -/
def joined (merge : Policy → Policy → Except MergeError Policy) :
    Option Policy → Policy → Except MergeError Policy
  | none, policy => .ok policy
  | some existing, policy => merge existing policy

/-- Merge two policies as peers, the one with the smaller identity first. -/
def mergeInPrecedence (merger : KindMerger) (existing policy : Policy) :
    Except MergeError Policy := do
  let id ← existing.id
  let other ← policy.id
  if id ≤ other then (merger.merge .peers existing policy).result
  else (merger.merge .peers policy existing).result

variable {registry : MergerRegistry}

theorem result_place (result : PoliciesByKind) (kind : MergeKind) (policy : Policy)
    (combine : Policy → Merging Policy) :
    (place result kind policy combine).result =
      result.set kind <$> joined (fun existing _ => (combine existing).result)
        (result.get? kind) policy := by
  unfold place
  cases result.get? kind with
  | none => rfl
  | some existing =>
      change (combine existing >>= fun merged => pure (result.set kind merged)).result = _
      rw [bind_pure_comp, Traced.result_map]
      rfl

theorem result_overlay (ancestor specific : PoliciesByKind) :
    (registry.overlay ancestor specific).result =
      fill (fun kind => joined fun parent policy =>
        ((registry.mergerFor kind).merge .levels parent policy).result)
        (Entries.sorted specific.entries) ancestor := by
  unfold overlay
  rw [Traced.result_foldlM]
  refine Traced.foldlM_congr (fun item _ result => ?_) ancestor
  rw [result_place]
  cases result.get? item.1 <;> rfl

theorem mergeInPrecedence_eq (merger : KindMerger) (existing policy : Policy) :
    mergeInPrecedence merger existing policy = inPrecedence existing policy >>= fun ordered =>
      (merger.merge .peers ordered.1 ordered.2).result := by
  unfold mergeInPrecedence inPrecedence
  cases existing.id with
  | error error => rfl
  | ok id =>
      cases policy.id with
      | error error => rfl
      | ok other =>
          change (if id ≤ other then _ else _) =
            (merger.merge .peers (if id ≤ other then (existing, policy) else (policy, existing)).1
              (if id ≤ other then (existing, policy) else (policy, existing)).2).result
          split <;> rfl

theorem mergeInPrecedence_of_id {merger : KindMerger} {first second : Policy}
    {id other : ResourceId} (found : first.id = .ok id) (found' : second.id = .ok other) :
    mergeInPrecedence merger first second =
      if id ≤ other then (merger.merge .peers first second).result
      else (merger.merge .peers second first).result := by
  unfold mergeInPrecedence
  rw [found, found']
  rfl

theorem result_reconcile (first : Option PoliciesByKind) (second : PoliciesByKind) :
    (registry.reconcile first second).result =
      fill (fun kind => joined (mergeInPrecedence (registry.mergerFor kind)))
        (Entries.sorted second.entries) (first.getD .empty) := by
  unfold reconcile
  rw [Traced.result_foldlM]
  refine Traced.foldlM_congr (fun item _ result => ?_) _
  rw [result_place]
  cases result.get? item.1 with
  | none => rfl
  | some existing =>
      simp only [joined, Traced.result_bindM, Traced.result_lift, mergeInPrecedence_eq]

/-- What an operation on two levels leaves under a kind: the policy of the one level that has one,
or the merge of both. -/
inductive Joins (merge : Policy → Policy → Except MergeError Policy) :
    Option Policy → Option Policy → Option Policy → Prop where
  | left (first : Option Policy) : Joins merge first none first
  | right (policy : Policy) : Joins merge none (some policy) (some policy)
  | both {first second merged : Policy} : merge first second = .ok merged →
      Joins merge (some first) (some second) (some merged)

theorem joins_of_gather {merge : Policy → Policy → Except MergeError Policy}
    {first second result : Option Policy}
    (h : gather (joined merge) first second.toList = .ok result) :
    Joins merge first second result := by
  cases second with
  | none =>
      cases h
      exact .left first
  | some policy =>
      rw [Option.toList_some, Table.gather_cons, Except.bind_ok_iff] at h
      obtain ⟨merged, h, last⟩ := h
      cases last
      cases first with
      | none =>
          cases h
          exact .right policy
      | some existing => exact .both h

variable {ancestor specific table : PoliciesByKind} {first : Option PoliciesByKind}
  {second : PoliciesByKind} {error : MergeError}

theorem joins_of_overlay (h : (registry.overlay ancestor specific).result = .ok table)
    (kind : MergeKind) :
    Joins (fun parent policy => ((registry.mergerFor kind).merge .levels parent policy).result)
      (ancestor.get? kind) (specific.get? kind) (table.get? kind) := by
  rw [result_overlay] at h
  have found := Table.get?_of_fill h kind
  rw [Table.valuesAt_of_perm (Entries.sorted_perm _)] at found
  exact joins_of_gather found

theorem gather_of_reconcile (h : (registry.reconcile first second).result = .ok table)
    (kind : MergeKind) : gather (joined (mergeInPrecedence (registry.mergerFor kind)))
      ((first.getD .empty).get? kind) (second.get? kind).toList = .ok (table.get? kind) := by
  rw [result_reconcile] at h
  have found := Table.get?_of_fill h kind
  rwa [Table.valuesAt_of_perm (Entries.sorted_perm _)] at found

theorem joins_of_reconcile (h : (registry.reconcile first second).result = .ok table)
    (kind : MergeKind) :
    Joins (mergeInPrecedence (registry.mergerFor kind)) ((first.getD .empty).get? kind)
      (second.get? kind) (table.get? kind) :=
  joins_of_gather (gather_of_reconcile h kind)

end MergerRegistry

namespace Policy

variable {policies : List Policy} {ordered : Entries ResourceId Policy}

theorem mapM_identified (readable : ∀ policy ∈ policies, ∃ id, policy.id = .ok id) :
    ∃ identified : List (ResourceId × Policy),
      policies.mapM (fun policy => return (← policy.id, policy) :
        Policy → Except ShapeError (ResourceId × Policy)) = .ok identified ∧
      identified.map Prod.snd = policies ∧ ∀ entry ∈ identified, entry.2.id = .ok entry.1 := by
  induction policies with
  | nil => exact ⟨[], rfl, rfl, fun _ member => nomatch member⟩
  | cons policy rest ih =>
      obtain ⟨id, found⟩ := readable policy List.mem_cons_self
      obtain ⟨identified, mapped, same, ids⟩ :=
        ih fun other member => readable other (List.mem_cons_of_mem policy member)
      refine ⟨(id, policy) :: identified, ?_, congrArg (policy :: ·) same, ?_⟩
      · rw [List.mapM_cons, found, mapped]
        rfl
      · intro entry member
        rcases List.mem_cons.mp member with rfl | member
        · exact found
        · exact ids entry member

/-- Policies with readable identities can be put in order. -/
theorem byPrecedence_total (readable : ∀ policy ∈ policies, ∃ id, policy.id = .ok id) :
    ∃ ordered, byPrecedence (fun policy => policy) policies = .ok ordered ∧
      (ordered.map Prod.snd).Perm policies ∧ ∀ entry ∈ ordered, entry.2.id = .ok entry.1 := by
  obtain ⟨identified, mapped, same, ids⟩ := mapM_identified readable
  refine ⟨Entries.sorted identified, ?_, ?_, ?_⟩
  · unfold byPrecedence
    rw [mapped]
    rfl
  · rw [← same]
    exact (Entries.sorted_perm identified).map Prod.snd
  · exact fun entry member => ids entry ((Entries.sorted_perm identified).mem_iff.mp member)

def Distinct (policies : List Policy) : Prop :=
  policies.Pairwise fun first second => ∀ id, first.id = .ok id → second.id ≠ .ok id

theorem Distinct.perm {others : List Policy} (h : Distinct policies) (perm : others.Perm policies) :
    Distinct others :=
  (perm.pairwise_iff fun apart id found found' => apart id found' found).mpr h

theorem distinct_of_ids {ids : List ResourceId} (same : policies.map id = ids.map .ok)
    (nodup : ids.Nodup) : Distinct policies := by
  have apart : (policies.map id).Nodup := by
    rw [same]
    exact nodup.map fun _ _ => Except.ok.inj
  exact (List.pairwise_map.mp apart).imp
    fun differ _ found found' => differ (found.trans found'.symm)

/-- Policies stand under their identities, whatever order they come in. -/
theorem mem_identified {identified : List (ResourceId × Policy)}
    (same : identified.map Prod.snd = policies)
    (ids : ∀ entry ∈ identified, entry.2.id = .ok entry.1) {entry : ResourceId × Policy} :
    entry ∈ identified ↔ entry.2 ∈ policies ∧ entry.2.id = .ok entry.1 := by
  constructor
  · exact fun member => ⟨same ▸ List.mem_map_of_mem member, ids entry member⟩
  · rintro ⟨member, identity⟩
    rw [← same] at member
    obtain ⟨other, listed, policy⟩ := List.mem_map.mp member
    have key := ids other listed
    rw [policy, identity] at key
    rwa [show entry = other from Prod.ext (Except.ok.inj key) policy.symm]

theorem nodup_identified {identified : List (ResourceId × Policy)} (distinct : Distinct policies)
    (same : identified.map Prod.snd = policies)
    (ids : ∀ entry ∈ identified, entry.2.id = .ok entry.1) :
    (Entries.keys identified).Nodup := by
  rw [Distinct, ← same, List.pairwise_map] at distinct
  refine List.pairwise_map.mpr (distinct.imp_of_mem fun member member' apart equal => ?_)
  exact apart _ (ids _ member) (equal ▸ ids _ member')

/-- Distinct policies have one order of precedence, whatever order they come in. -/
theorem byPrecedence_perm {others : List Policy}
    (readable : ∀ policy ∈ policies, ∃ id, policy.id = .ok id) (distinct : Distinct policies)
    (perm : others.Perm policies) :
    byPrecedence (fun policy => policy) others = byPrecedence (fun policy => policy) policies := by
  obtain ⟨identified, mapped, same, ids⟩ := mapM_identified readable
  obtain ⟨identified', mapped', same', ids'⟩ := @mapM_identified others
    fun policy member => readable policy (perm.mem_iff.mp member)
  have keys := nodup_identified distinct same ids
  have keys' := nodup_identified (distinct.perm perm) same' ids'
  have sameEntries : identified'.Perm identified := by
    refine (List.perm_ext_iff_of_nodup keys'.of_map keys.of_map).mpr fun entry => ?_
    rw [mem_identified same ids, mem_identified same' ids', perm.mem_iff]
  unfold byPrecedence
  rw [mapped, mapped']
  exact congrArg Except.ok (Entries.sorted_congr keys sameEntries)

end Policy

namespace MergerRegistry

open Table (fill gather valuesAt)

variable {registry : MergerRegistry}

/-- The merge kind that is read off the identity of a policy. -/
def kindOf (id : ResourceId) : MergeKind := ⟨id.group, id.kind⟩

/-- The merge of a level visits its policies in order of precedence. -/
theorem result_mergeLevel_of_order {policies : List Policy} {ordered : Entries ResourceId Policy}
    (order : Policy.byPrecedence (fun policy => policy) policies = .ok ordered) :
    (registry.mergeLevel policies).result =
      fill (fun kind => joined fun existing policy =>
        ((registry.mergerFor kind).merge .peers existing policy).result)
        (ordered.map fun entry => (kindOf entry.1, entry.2)) .empty := by
  unfold mergeLevel fill
  rw [order, List.foldlM_map]
  change (ordered.foldlM _ _ : Merging PoliciesByKind).result = _
  rw [Traced.result_foldlM]
  refine Traced.foldlM_congr (fun entry _ result => ?_) _
  rw [result_place]
  change _ <$> joined _ (result.get? (kindOf entry.1)) entry.2 = _ <$> joined _ _ entry.2
  cases result.get? (kindOf entry.1) <;> rfl

theorem result_mergeLevel {policies : List Policy}
    (readable : ∀ policy ∈ policies, ∃ id, policy.id = .ok id) :
    ∃ ordered : List (MergeKind × Policy), (ordered.map Prod.snd).Perm policies ∧
      (∀ entry ∈ ordered, ∃ id, entry.2.id = .ok id ∧ kindOf id = entry.1) ∧
      (registry.mergeLevel policies).result =
        fill (fun kind => joined fun existing policy =>
          ((registry.mergerFor kind).merge .peers existing policy).result) ordered .empty := by
  obtain ⟨ordered, order, perm, ids⟩ := Policy.byPrecedence_total readable
  refine ⟨ordered.map fun entry => (kindOf entry.1, entry.2), ?_, ?_, ?_⟩
  · rwa [List.map_map]
  · intro entry member
    obtain ⟨⟨id, policy⟩, found, rfl⟩ := List.mem_map.mp member
    exact ⟨id, ids (id, policy) found, rfl⟩
  · exact result_mergeLevel_of_order order

/-- A level without policies changes nothing, and one with a single policy only its kind. -/
theorem result_overlay_empty (ancestor : PoliciesByKind) :
    (registry.overlay ancestor .empty).result = .ok ancestor := by
  have none : Entries.sorted (Table.empty : PoliciesByKind).entries = [] :=
    (Entries.sorted_perm _).eq_nil
  rw [result_overlay, none]
  rfl

theorem result_overlay_singleton (ancestor : PoliciesByKind) (kind : MergeKind) (policy : Policy) :
    (registry.overlay ancestor (Table.empty.set kind policy)).result =
      ancestor.set kind <$> joined (fun parent policy =>
        ((registry.mergerFor kind).merge .levels parent policy).result)
        (ancestor.get? kind) policy := by
  have single : Entries.sorted (Table.empty.set kind policy).entries = [(kind, policy)] :=
    List.perm_singleton.mp (Entries.sorted_perm _)
  rw [result_overlay, single, Table.fill_cons]
  cases joined _ (ancestor.get? kind) policy <;> rfl

/-- A level of distinct policies comes to the same in whatever order they come. -/
theorem mergeLevel_perm {policies others : List Policy}
    (readable : ∀ policy ∈ policies, ∃ id, policy.id = .ok id)
    (distinct : Policy.Distinct policies) (perm : others.Perm policies) :
    registry.mergeLevel others = registry.mergeLevel policies := by
  unfold mergeLevel
  rw [Policy.byPrecedence_perm readable distinct perm]

/-- The policies of a level without policies, or with one, come to these. -/
theorem result_mergeLevel_nil : (registry.mergeLevel []).result = .ok .empty := by
  obtain ⟨ordered, perm, _, result⟩ :=
    @result_mergeLevel registry [] fun _ member => nomatch member
  rw [List.map_eq_nil_iff.mp perm.eq_nil] at result
  exact result

theorem result_mergeLevel_singleton {policy : Policy} {id : ResourceId}
    (found : policy.id = .ok id) :
    (registry.mergeLevel [policy]).result = .ok (Table.empty.set (kindOf id) policy) := by
  obtain ⟨ordered, perm, kinds, result⟩ := @result_mergeLevel registry [policy]
    fun other member => ⟨id, List.mem_singleton.mp member ▸ found⟩
  obtain ⟨⟨kind, other⟩, rfl, same⟩ := List.map_eq_singleton_iff.mp (List.perm_singleton.mp perm)
  obtain ⟨id', found', ofId⟩ := kinds (kind, other) (List.mem_singleton.mpr rfl)
  cases same
  cases found.symm.trans found'
  cases ofId
  exact result

end MergerRegistry

end PolicyTopology
