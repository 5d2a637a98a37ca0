import PolicyTopology.Proofs.Policy.Group
import PolicyTopology.Proofs.Tabulation

/-!
# Merging the policies of one kind

What a registry does with the policies of one kind, without tables: the policies of a level are
merged as peers in order of precedence, an ancestor's policy is merged with a descendant's where
both exist, and policies that reach a node on several ways are merged as peers one after the other.
The operations of the registry on tables do this for every kind and nothing else: the entry of a
kind is what these come to, and they fail exactly if these do for some kind.
-/

namespace PolicyTopology

def PoliciesByKind.entry? (found : Option PoliciesByKind) (kind : MergeKind) : Option Policy :=
  found.bind (·.get? kind)

section Precedence

variable {policies : List Policy} {ordered : Entries ResourceId Policy}

theorem Entries.sorted_filter {α : Type} {entries : Entries ResourceId α}
    (nodup : entries.keys.Nodup) (keep : ResourceId × α → Bool) :
    (Entries.sorted entries).filter keep = Entries.sorted (entries.filter keep) := by
  refine List.Perm.eq_of_pairwise (fun first second member member' before after => ?_)
    ((pairwise_sorted entries).filter keep) (pairwise_sorted _)
    (((sorted_perm entries).filter keep).trans (sorted_perm _).symm)
  have listed := (sorted_perm entries).mem_iff.mp (List.mem_of_mem_filter member)
  have listed' := List.mem_of_mem_filter ((sorted_perm _).mem_iff.mp member')
  exact List.inj_on_of_nodup_map nodup listed listed' (ResourceId.le_antisymm before after)

/-- The order of precedence of some policies is that of all policies, with the others left out. -/
theorem Policy.byPrecedence_filter (readable : ∀ policy ∈ policies, ∃ id, policy.id = .ok id)
    (distinct : Policy.Distinct policies) (keep : Policy → Bool)
    (order : byPrecedence (fun policy => policy) policies = .ok ordered) :
    byPrecedence (fun policy => policy) (policies.filter keep) =
      .ok (ordered.filter fun entry => keep entry.2) := by
  obtain ⟨identified, mapped, same, ids⟩ := mapM_identified readable
  obtain ⟨kept, mapped', same', ids'⟩ := @mapM_identified (policies.filter keep)
    fun policy member => readable policy (List.mem_of_mem_filter member)
  have keys := nodup_identified distinct same ids
  have keys' := nodup_identified (List.Pairwise.filter keep distinct) same' ids'
  have perm : kept.Perm (identified.filter fun entry => keep entry.2) := by
    refine (List.perm_ext_iff_of_nodup keys'.of_map (keys.of_map.filter _)).mpr fun entry => ?_
    rw [mem_identified same' ids', List.mem_filter, List.mem_filter, mem_identified same ids]
    exact and_right_comm
  unfold byPrecedence at order ⊢
  rw [mapped] at order
  rw [mapped']
  cases order
  have sublist : (Entries.keys (identified.filter fun entry => keep entry.2)).Nodup :=
    keys.sublist (List.filter_sublist.map Prod.fst)
  exact congrArg Except.ok ((Entries.sorted_congr sublist perm).trans
    (Entries.sorted_filter keys fun entry => keep entry.2).symm)

theorem Policy.byPrecedence_ascending
    (order : byPrecedence (fun policy => policy) policies = .ok ordered) :
    ordered.Pairwise fun first second => first.1 ≤ second.1 := by
  unfold byPrecedence at order
  obtain ⟨identified, _, same⟩ := Except.bind_ok_iff.mp order
  cases same
  exact Entries.pairwise_sorted identified

end Precedence

namespace MergerRegistry

open Policy (ofKind)
open Table (fill gather valuesAt)

variable {registry : MergerRegistry} {kind : MergeKind}

/-- The policies of a kind among those of one level, merged as peers in order of precedence; none if
there are none. -/
def peers (registry : MergerRegistry) (kind : MergeKind) (policies : List Policy) :
    Except MergeError (Option Policy) := do
  let ordered ← (Policy.byPrecedence (fun policy => policy) (ofKind kind policies) :
    Except MergeError (Entries ResourceId Policy))
  gather (joined fun existing policy =>
    ((registry.mergerFor kind).merge .peers existing policy).result) none (ordered.map Prod.snd)

/-- Each of the policies of a kind is merged with what those before it came to, in an order in which
no identity follows a greater one. -/
theorem exists_peers_eq_gather {policies : List Policy}
    (readable : ∀ policy ∈ ofKind kind policies, ∃ id, policy.id = .ok id) :
    ∃ ordered : List Policy, ordered.Perm (ofKind kind policies) ∧
      (ordered.Pairwise fun first second =>
        ∃ id other, first.id = .ok id ∧ second.id = .ok other ∧ id ≤ other) ∧
      registry.peers kind policies = gather (joined fun existing policy =>
        ((registry.mergerFor kind).merge .peers existing policy).result) none ordered := by
  obtain ⟨ordered, order, perm, ids⟩ := Policy.byPrecedence_total readable
  refine ⟨ordered.map Prod.snd, perm, ?_, ?_⟩
  · refine List.pairwise_map.mpr ((Policy.byPrecedence_ascending order).imp_of_mem ?_)
    intro first second member member' le
    exact ⟨first.1, second.1, ids first member, ids second member', le⟩
  · unfold peers
    rw [order]
    rfl

def combined (merge : Policy → Policy → Except MergeError Policy) :
    Option Policy → Option Policy → Except MergeError (Option Policy)
  | some first, some second => some <$> merge first second
  | none, second => .ok second
  | first, none => .ok first

def chain (registry : MergerRegistry) (kind : MergeKind) :
    Option Policy → Option Policy → Except MergeError (Option Policy) :=
  combined fun ancestor descendant =>
    ((registry.mergerFor kind).merge .levels ancestor descendant).result

/-- Policies that reach a node on several ways, merged as peers one after the other, each with what
the ones before came to. -/
def reunited (registry : MergerRegistry) (kind : MergeKind) (policies : List Policy) :
    Except MergeError (Option Policy) :=
  gather (joined (mergeInPrecedence (registry.mergerFor kind))) none policies

theorem gather_joined_toList (merge : Policy → Policy → Except MergeError Policy)
    (first second : Option Policy) :
    gather (joined merge) first second.toList = combined merge first second := by
  cases second with
  | none => cases first <;> rfl
  | some policy =>
      rw [Option.toList_some, Table.gather_cons]
      cases first with
      | none => rfl
      | some existing =>
          change (merge existing policy >>= fun merged => .ok (some merged)) =
            some <$> merge existing policy
          cases merge existing policy <;> rfl

/-- A merge comes to a policy that has an identity, or to none. -/
def Identifies (result : Except MergeError (Option Policy)) : Prop :=
  ∃ found, result = .ok found ∧ ∀ policy, found = some policy → ∃ id, policy.id = .ok id

/-- Of any two policies that have identities the mergers make one that has an identity. -/
def Unfailing (registry : MergerRegistry) : Prop :=
  ∀ kind operation {first second : Policy}, (∃ id, first.id = .ok id) →
    (∃ id, second.id = .ok id) → ∃ merged,
      ((registry.mergerFor kind).merge operation first second).result = .ok merged ∧
        ∃ id, merged.id = .ok id

namespace Identifies

variable {result : Except MergeError (Option Policy)}

theorem bind {next : Option Policy → Except MergeError (Option Policy)} (h : Identifies result)
    (h' : ∀ found, (∀ policy, found = some policy → ∃ id, policy.id = .ok id) →
      Identifies (next found)) : Identifies (result >>= next) := by
  obtain ⟨found, rfl, identified⟩ := h
  exact h' found identified

theorem gather {merge : Policy → Policy → Except MergeError Policy} {found : Option Policy}
    {policies : List Policy}
    (merges : ∀ {first second : Policy}, (∃ id, first.id = .ok id) → (∃ id, second.id = .ok id) →
      ∃ merged, merge first second = .ok merged ∧ ∃ id, merged.id = .ok id)
    (start : ∀ policy, found = some policy → ∃ id, policy.id = .ok id)
    (identified : ∀ policy ∈ policies, ∃ id, policy.id = .ok id) :
    Identifies (Table.gather (joined merge) found policies) := by
  induction policies generalizing found with
  | nil => exact ⟨found, rfl, start⟩
  | cons policy rest ih =>
      have here := identified policy List.mem_cons_self
      have later := fun other member => identified other (List.mem_cons_of_mem policy member)
      rw [Table.gather_cons]
      cases found with
      | none =>
          refine ih (fun other same => ?_) later
          cases same
          exact here
      | some existing =>
          obtain ⟨merged, result, identity⟩ := merges (start existing rfl) here
          rw [joined, result]
          refine ih (fun other same => ?_) later
          cases same
          exact identity

end Identifies

namespace Unfailing

variable (unfailing : registry.Unfailing) {first second : Option Policy} {policies : List Policy}

include unfailing

theorem chain (h : ∀ policy, first = some policy → ∃ id, policy.id = .ok id)
    (h' : ∀ policy, second = some policy → ∃ id, policy.id = .ok id) :
    Identifies (registry.chain kind first second) := by
  unfold MergerRegistry.chain
  rw [← gather_joined_toList]
  refine .gather (unfailing kind .levels) h fun policy member => ?_
  exact h' policy (Option.mem_toList.mp member)

theorem reunited (h : ∀ policy ∈ policies, ∃ id, policy.id = .ok id) :
    Identifies (registry.reunited kind policies) := by
  refine .gather (fun {first second} hfirst hsecond => ?_) nofun h
  obtain ⟨id, found⟩ := hfirst
  obtain ⟨other, found'⟩ := hsecond
  rw [mergeInPrecedence_of_id found found']
  split
  · exact unfailing kind .peers ⟨id, found⟩ ⟨other, found'⟩
  · exact unfailing kind .peers ⟨other, found'⟩ ⟨id, found⟩

end Unfailing

section Presence

variable {policies : List Policy} {first second result : Option Policy}

/-- There is a policy of a kind if there is one among those of the level. -/
theorem isSome_of_peers (readable : ∀ policy ∈ policies, ∃ id, policy.id = .ok id)
    (h : registry.peers kind policies = .ok result) :
    result.isSome = true ↔ ∃ policy ∈ policies, policy.kind = .ok kind := by
  obtain ⟨ordered, perm, _, gathers⟩ := @exists_peers_eq_gather registry kind policies
    fun policy member => readable policy (Policy.mem_ofKind.mp member).1
  rw [gathers] at h
  have listed : ordered ≠ [] ↔ ∃ policy, policy ∈ ofKind kind policies := by
    rw [← List.isEmpty_eq_false_iff, List.isEmpty_eq_false_iff_exists_mem]
    exact exists_congr fun _ => perm.mem_iff
  rw [Table.isSome_of_gather h, listed]
  simp [Policy.mem_ofKind]

theorem isSome_of_chain (h : registry.chain kind first second = .ok result) :
    result.isSome = true ↔ first.isSome = true ∨ second.isSome = true := by
  unfold chain at h
  rw [← gather_joined_toList] at h
  rw [Table.isSome_of_gather h]
  cases second <;> simp

theorem isSome_of_reunited (h : registry.reunited kind policies = .ok result) :
    result.isSome = true ↔ policies ≠ [] := by
  rw [Table.isSome_of_gather h]
  simp

end Presence

/-- The merge of a level is that of the policies of each kind. -/
theorem tabulates_mergeLevel {policies : List Policy}
    (readable : ∀ policy ∈ policies, ∃ id, policy.id = .ok id)
    (distinct : Policy.Distinct policies) :
    Except.Tabulates (fun kind => registry.peers kind policies) Table.get?
      (registry.mergeLevel policies).result := by
  obtain ⟨ordered, order, _, ids⟩ := Policy.byPrecedence_total readable
  have peersAt : ∀ kind, registry.peers kind policies =
      gather (joined fun existing policy =>
        ((registry.mergerFor kind).merge .peers existing policy).result) none
        (valuesAt (ordered.map fun entry => (kindOf entry.1, entry.2)) kind) := by
    intro kind
    unfold peers ofKind
    rw [Policy.byPrecedence_filter readable distinct _ order, valuesAt, List.filter_map,
      List.map_map]
    refine congrArg (fun among : Entries ResourceId Policy => gather _ none (among.map Prod.snd))
      (List.filter_congr fun entry member => ?_)
    rw [Function.comp_apply, (Policy.parts_of_id (ids entry member)).1]
    exact decide_eq_decide.mpr (by simp [kindOf, Except.toOption])
  rw [result_mergeLevel_of_order order, funext peersAt]
  exact .fill ..

theorem tabulates_overlay (ancestor specific : PoliciesByKind) :
    Except.Tabulates (fun kind => registry.chain kind (ancestor.get? kind) (specific.get? kind))
      Table.get? (registry.overlay ancestor specific).result := by
  rw [result_overlay]
  have filled := Except.Tabulates.fill (fun kind => joined fun parent policy =>
    ((registry.mergerFor kind).merge .levels parent policy).result)
    (Entries.sorted specific.entries) ancestor
  simp only [Table.valuesAt_of_perm (Entries.sorted_perm specific.entries),
    gather_joined_toList] at filled
  exact filled

theorem tabulates_reconcile (first : Option PoliciesByKind) (second : PoliciesByKind) :
    Except.Tabulates (fun kind => gather (joined (mergeInPrecedence (registry.mergerFor kind)))
      ((first.getD .empty).get? kind) (second.get? kind).toList)
      Table.get? (registry.reconcile first second).result := by
  rw [result_reconcile]
  have filled := Except.Tabulates.fill
    (fun kind => joined (mergeInPrecedence (registry.mergerFor kind)))
    (Entries.sorted second.entries) (first.getD .empty)
  simp only [Table.valuesAt_of_perm (Entries.sorted_perm second.entries)] at filled
  exact filled

/-- To reconcile tables one after the other is to reunite their policies of each kind. -/
theorem tabulates_gather_reconcile (tables : List PoliciesByKind) (found : Option PoliciesByKind) :
    Except.Tabulates (fun kind => gather (joined (mergeInPrecedence (registry.mergerFor kind)))
        (PoliciesByKind.entry? found kind) (tables.filterMap (·.get? kind)))
      PoliciesByKind.entry?
      (gather (fun found policies => (registry.reconcile found policies).result) found tables) := by
  induction tables generalizing found with
  | nil => exact fun _ => rfl
  | cons policies rest ih =>
      have split : ∀ kind, (policies :: rest).filterMap (·.get? kind) =
          (policies.get? kind).toList ++ rest.filterMap (·.get? kind) := by
        intro kind
        rw [List.filterMap_cons]
        cases policies.get? kind <;> rfl
      have start : ∀ kind, PoliciesByKind.entry? found kind = (found.getD .empty).get? kind := by
        intro kind
        cases found <;> rfl
      simp only [split, start, Table.gather_append]
      rw [Table.gather_cons]
      exact (tabulates_reconcile found policies).bind _ fun next _ => ih (some next)

end MergerRegistry

end PolicyTopology
