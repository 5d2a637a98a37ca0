import PolicyTopology.Proofs.Policy.OneKind
import PolicyTopology.Proofs.Topology.Reachable
import Mathlib.Data.List.Sort

/-!
# The policies of a level

A level of a node is what is attached to one target. The work on a node finds it through the index
at that target and then puts it in order. Here it is read off the attached policies themselves, in
the order of their identities, and what the policies of each kind come to is said without tables. In
every topology that can be reached both ways lead to the same.
-/

namespace PolicyTopology

namespace Topology

open MergerRegistry (joined)
open Policy (ofKind)
open Table (gather)

variable {topology : Topology} {target : Option ResourceId} {policy : Policy} {kind : MergeKind}

/-- No policy is indexed twice at its target. -/
def IndexedOnce (topology : Topology) : Prop := ∀ target, (topology.policyIdsOn target).Nodup

theorem IndexedOnce.survivesOperations : SurvivesOperations IndexedOnce where
  record _ h := h
  leaveOut _ h := h
  hold {topology id policy attachment} h _ _ other := by
    simp only [policyIdsOn, hold, Table.get?_set]
    split
    · exact nodup_addMissing (h attachment.target) _
    · exact h other
  effective _ h := h
  partitions _ h := h
  insert _ h := h
  link _ _ _ h := h
  inherited _ h := h

theorem Reachable.indexedOnce (h : topology.Reachable) : topology.IndexedOnce :=
  IndexedOnce.survivesOperations.of_reachable (fun _ => List.nodup_nil) h

/-- What is attached to a target, under its identities and in their order. -/
def attachedEntries (topology : Topology) (target : Option ResourceId) :
    Entries ResourceId Attachment :=
  (topology.policies.entries.filter fun entry => some entry.2.target = target).insertionSort
    fun first second => first.1 ≤ second.1

/-- The policies attached to a target, in the order of their identities. -/
def attachedTo (topology : Topology) (target : Option ResourceId) : List Policy :=
  (topology.attachedEntries target).map fun entry => entry.2.policy

def kindOn (topology : Topology) (kind : MergeKind) (target : Option ResourceId) : List Policy :=
  ofKind kind (topology.attachedTo target)

/-- What the policies of a kind at a target come to: each is merged as a peer with what those before
it came to. -/
def peersOn (registry : MergerRegistry) (topology : Topology) (kind : MergeKind)
    (target : Option ResourceId) : Except MergeError (Option Policy) :=
  gather (joined fun existing policy =>
    ((registry.mergerFor kind).merge .peers existing policy).result) none
    (topology.kindOn kind target)

/-- A table holds for each kind what the policies of this kind at a target come to. -/
def IsLevel (registry : MergerRegistry) (topology : Topology) (target : Option ResourceId)
    (table : PoliciesByKind) : Prop :=
  ∀ kind, peersOn registry topology kind target = .ok (table.get? kind)

theorem mem_attachedEntries {id : ResourceId} {attachment : Attachment} :
    (id, attachment) ∈ topology.attachedEntries target ↔
      topology.policies.get? id = some attachment ∧ some attachment.target = target := by
  rw [attachedEntries, List.mem_insertionSort, List.mem_filter, Table.mem_entries_iff,
    decide_eq_true_iff]

theorem mem_attachedTo : policy ∈ topology.attachedTo target ↔
    ∃ id attachment, topology.policies.get? id = some attachment ∧ attachment.policy = policy ∧
      some attachment.target = target := by
  simp only [attachedTo, List.mem_map, Prod.exists, mem_attachedEntries]
  grind

theorem attachedTo_none (topology : Topology) : topology.attachedTo none = [] :=
  List.eq_nil_iff_forall_not_mem.mpr fun policy member => by
    obtain ⟨_, _, _, _, absent⟩ := mem_attachedTo.mp member
    cases absent

theorem peersOn_none (registry : MergerRegistry) (topology : Topology) (kind : MergeKind) :
    peersOn registry topology kind none = .ok none := by
  rw [peersOn, kindOn, attachedTo_none]
  rfl

theorem mem_kindOn : policy ∈ topology.kindOn kind target ↔
    (∃ id attachment, topology.policies.get? id = some attachment ∧ attachment.policy = policy ∧
      some attachment.target = target) ∧ policy.kind = .ok kind := by
  rw [kindOn, Policy.mem_ofKind, mem_attachedTo]

theorem pairwise_attachedEntries (topology : Topology) (target : Option ResourceId) :
    (topology.attachedEntries target).Pairwise fun first second => first.1 ≤ second.1 := by
  have : Std.Total fun first second : ResourceId × Attachment => first.1 ≤ second.1 :=
    ⟨fun first second => ResourceId.le_total first.1 second.1⟩
  have : IsTrans (ResourceId × Attachment) fun first second => first.1 ≤ second.1 :=
    ⟨fun _ _ _ => ResourceId.le_trans⟩
  exact List.pairwise_insertionSort _ _

theorem nodup_attachedEntries (topology : Topology) (target : Option ResourceId) :
    (topology.attachedEntries target).keys.Nodup := by
  have perm := (List.perm_insertionSort (fun first second : ResourceId × Attachment =>
    first.1 ≤ second.1) (topology.policies.entries.filter fun entry =>
      some entry.2.target = target)).map Prod.fst
  exact perm.nodup_iff.mpr (topology.policies.nodup_keys.sublist (List.filter_sublist.map _))

theorem SameGraph.attachedTo {before after : Topology} (h : before.SameGraph after)
    (target : Option ResourceId) : after.attachedTo target = before.attachedTo target := by
  unfold Topology.attachedTo attachedEntries
  rw [h.policies]

theorem SameGraph.kindOn {before after : Topology} (h : before.SameGraph after) (kind : MergeKind)
    (target : Option ResourceId) : after.kindOn kind target = before.kindOn kind target := by
  unfold Topology.kindOn
  rw [h.attachedTo]

theorem SameGraph.peersOn {before after : Topology} (h : before.SameGraph after)
    (registry : MergerRegistry) (kind : MergeKind) (target : Option ResourceId) :
    Topology.peersOn registry after kind target =
      Topology.peersOn registry before kind target := by
  unfold Topology.peersOn
  rw [h.kindOn]

section Coherent

variable (coherent : topology.Coherent)

include coherent

theorem Coherent.readable_policiesOn (target : Option ResourceId) :
    ∀ policy ∈ topology.policiesOn target, ∃ id, policy.id = .ok id := by
  intro policy member
  cases target with
  | none => cases member
  | some target =>
      obtain ⟨id, _, found⟩ := List.mem_filterMap.mp member
      obtain ⟨attachment, held, rfl⟩ := Option.map_eq_some_iff.mp found
      exact ⟨id, (coherent.readable held).1⟩

theorem Coherent.distinct_policiesOn (once : topology.IndexedOnce) (target : Option ResourceId) :
    Policy.Distinct (topology.policiesOn target) := by
  cases target with
  | none => exact .nil
  | some target =>
      refine List.pairwise_filterMap.mpr ((once target).imp fun {id other} apart => ?_)
      intro policy member policy' member' identity found found'
      obtain ⟨attachment, held, rfl⟩ := Option.map_eq_some_iff.mp member
      obtain ⟨attachment', held', rfl⟩ := Option.map_eq_some_iff.mp member'
      have same := found.symm.trans (coherent.readable held).1
      have same' := found'.symm.trans (coherent.readable held').1
      exact apart (Except.ok.inj (same.symm.trans same'))

theorem Coherent.id_of_attachedEntries {entry : ResourceId × Attachment}
    (member : entry ∈ topology.attachedEntries target) : entry.2.policy.id = .ok entry.1 :=
  (coherent.readable (mem_attachedEntries.mp member).1).1

theorem Coherent.eq_of_id {first second : Policy} {id : ResourceId}
    (member : first ∈ topology.attachedTo target) (member' : second ∈ topology.attachedTo target)
    (found : first.id = .ok id) (found' : second.id = .ok id) : first = second := by
  obtain ⟨key, attachment, stored, rfl, _⟩ := mem_attachedTo.mp member
  obtain ⟨key', attachment', stored', rfl, _⟩ := mem_attachedTo.mp member'
  cases found.symm.trans (coherent.readable stored).1
  cases found'.symm.trans (coherent.readable stored').1
  cases stored.symm.trans stored'
  rfl

/-- The index at a target lists what is attached to it. -/
theorem Coherent.policyIdsOn_perm (once : topology.IndexedOnce) (target : ResourceId) :
    (topology.policyIdsOn target).Perm (topology.attachedEntries (some target)).keys := by
  refine (List.perm_ext_iff_of_nodup (once target) (nodup_attachedEntries ..)).mpr fun id => ?_
  simp only [Entries.keys, List.mem_map, Prod.exists, mem_attachedEntries, coherent.attached_iff]
  grind

theorem Coherent.policiesOn_perm (once : topology.IndexedOnce) (target : Option ResourceId) :
    (topology.policiesOn target).Perm (topology.attachedTo target) := by
  cases target with
  | none =>
      rw [attachedTo_none]
      exact .refl _
  | some target =>
      refine ((coherent.policyIdsOn_perm once target).filterMap _).trans (.of_eq ?_)
      rw [Entries.keys, List.filterMap_map, attachedTo, ← List.filterMap_eq_map]
      refine List.filterMap_congr fun entry member => ?_
      have stored := (mem_attachedEntries.mp (show (entry.1, entry.2) ∈ _ from member)).1
      rw [Function.comp_apply, stored]
      rfl

theorem Coherent.pairwise_kindOn (kind : MergeKind) (target : Option ResourceId) :
    (topology.kindOn kind target).Pairwise fun first second =>
      ∃ id other, first.id = .ok id ∧ second.id = .ok other ∧ id ≤ other := by
  refine List.Pairwise.filter _ (List.pairwise_map.mpr ?_)
  refine (pairwise_attachedEntries topology target).imp_of_mem ?_
  intro first second member member' le
  exact ⟨_, _, coherent.id_of_attachedEntries member, coherent.id_of_attachedEntries member', le⟩

/-- What is attached to a target has one order of precedence. -/
theorem Coherent.eq_attachedTo (once : topology.IndexedOnce) {ordered : List Policy}
    (perm : ordered.Perm (ofKind kind (topology.policiesOn target)))
    (ascending : ordered.Pairwise fun first second =>
      ∃ id other, first.id = .ok id ∧ second.id = .ok other ∧ id ≤ other) :
    ordered = topology.kindOn kind target := by
  refine List.Perm.eq_of_pairwise ?_ ascending (coherent.pairwise_kindOn kind target)
    (perm.trans ((coherent.policiesOn_perm once target).filter _))
  intro first second member member' before after
  obtain ⟨id, other, found, found', le⟩ := before
  obtain ⟨_, _, again, again', ge⟩ := after
  cases found'.symm.trans again
  cases found.symm.trans again'
  cases ResourceId.le_antisymm le ge
  have attached : first ∈ topology.attachedTo target :=
    (coherent.policiesOn_perm once target).mem_iff.mp
      (Policy.mem_ofKind.mp (perm.mem_iff.mp member)).1
  exact coherent.eq_of_id attached (List.mem_of_mem_filter member') found found'

/-- The merge of a level comes to what the policies of each kind that are attached to its target
come to. -/
theorem Coherent.peers_eq (once : topology.IndexedOnce) (registry : MergerRegistry)
    (kind : MergeKind) (target : Option ResourceId) :
    registry.peers kind (topology.policiesOn target) = peersOn registry topology kind target := by
  obtain ⟨ordered, perm, ascending, gathers⟩ := @MergerRegistry.exists_peers_eq_gather registry kind
    (topology.policiesOn target) fun policy member =>
      coherent.readable_policiesOn target policy (Policy.mem_ofKind.mp member).1
  rw [gathers, coherent.eq_attachedTo once perm ascending]
  rfl

theorem Coherent.tabulates_level (once : topology.IndexedOnce) (registry : MergerRegistry)
    (target : Option ResourceId) :
    Except.Tabulates (fun kind => peersOn registry topology kind target) Table.get?
      (registry.mergeLevel (topology.policiesOn target)).result := by
  rw [← funext fun kind => coherent.peers_eq once registry kind target]
  exact MergerRegistry.tabulates_mergeLevel (coherent.readable_policiesOn target)
    (coherent.distinct_policiesOn once target)

/-- The merge of a level that comes to a table comes for each kind to what the policies of this kind
at its target come to. -/
theorem Coherent.isLevel (once : topology.IndexedOnce) {registry : MergerRegistry}
    {table : PoliciesByKind}
    (h : (registry.mergeLevel (topology.policiesOn target)).result = .ok table) :
    IsLevel registry topology target table :=
  (coherent.tabulates_level once registry target).ok h

end Coherent

end Topology

end PolicyTopology
