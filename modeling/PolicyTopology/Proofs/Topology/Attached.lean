import PolicyTopology.Proofs.Topology.BothEnds
import PolicyTopology.Proofs.Topology.DiscoveryOrder
import Mathlib.Data.List.TakeWhile

/-!
# Attached policies under any operations

Only attachments touch policies, whatever else is done in between, and they never replace one. So
the attached policies are the first offers of their identities: the first attempts to attach a
policy of that identity to a node that was there at the time. Each is held at one node, the one that
its reference names, and the nodes hold no others.
-/

namespace PolicyTopology

namespace NodeKind

/-- The kinds of nodes that carry policies. -/
def carriers : List NodeKind := [.gatewayClass, .nameSpace, .gateway, .httpRoute, .backend]

end NodeKind

theorem TargetKind.nodes_mem_carriers (kind : TargetKind) :
    kind.resolver.nodes ∈ NodeKind.carriers := by
  cases kind <;> decide

theorem TargetKind.backReference_eq (kind : TargetKind) : kind.resolver.backReference = kind := by
  cases kind <;> rfl

/-- A policy is attached to the node that its reference names, by the back-reference for the kind of
target that the reference names and by no other. -/
def Attachment.AsNamed (attachment : Attachment) : Prop :=
  ∃ reference kind, attachment.policy.target = .ok reference ∧ reference.targetKind? = some kind ∧
    attachment = .single attachment.policy kind.resolver.backReference
      (kind.resolver.targetId reference)

namespace Attachment.AsNamed

variable {attachment : Attachment}

theorem exists_carrier (h : attachment.AsNamed) : ∃ reference,
    attachment.policy.target = .ok reference ∧ reference.carrier? = some attachment.target := by
  obtain ⟨reference, kind, reading, found, single⟩ := h
  refine ⟨reference, reading, ?_⟩
  rw [single, target_single, ObjectRef.carrier?, found]
  rfl

theorem nodeKind_mem (h : attachment.AsNamed) :
    attachment.target.nodeKind ∈ NodeKind.carriers := by
  obtain ⟨reference, kind, _, _, single⟩ := h
  rw [single, target_single, kind.nodeKind_targetId]
  exact kind.nodes_mem_carriers

/-- Exactly one back-reference is set, and it holds the target. -/
theorem exists_reference (h : attachment.AsNamed) : ∃ reference kind,
    attachment.policy.target = .ok reference ∧ reference.targetKind? = some kind ∧
      ∀ other node, attachment.references.get? other = some node ↔
        other = kind ∧ node = attachment.target := by
  obtain ⟨reference, kind, reading, found, single⟩ := h
  refine ⟨reference, kind, reading, found, fun other node => ?_⟩
  rw [single, get?_references_single, target_single, kind.backReference_eq]

end Attachment.AsNamed

namespace Topology

variable {topology : Topology} {offers : Entries ResourceId Attachment} {policy : Policy}
  {id target : ResourceId}

/-- A policy with its identity and its target, if the node that it refers to is there. -/
def offer? (topology : Topology) (policy : Policy) : Option (ResourceId × Attachment) :=
  match topology.placement policy with
  | .ok (id, .ok attachment) => some (id, attachment)
  | _ => none

/-- The offers of a batch: it ends at the first policy that cannot be read. -/
def offersOf (topology : Topology) (policies : List Policy) : Entries ResourceId Attachment :=
  (policies.takeWhile (decide ·.Readable)).filterMap topology.offer?

theorem offer?_congr {first second : Topology}
    (nodes : ∀ id, second.nodes.get? id = first.nodes.get? id) : second.offer? = first.offer? := by
  funext policy
  rw [offer?, placement_congr nodes]
  rfl

theorem offersOf_congr {first second : Topology}
    (nodes : ∀ id, second.nodes.get? id = first.nodes.get? id) (policies : List Policy) :
    second.offersOf policies = first.offersOf policies := by
  rw [offersOf, offer?_congr nodes, offersOf]

/-- What a batch leaves behind is what its policies do, up to the first that cannot be read, and an
entry of the batch. -/
theorem snd_run_attachAll (policies : List Policy) (topology : Topology) :
    ∃ events, ((attachAll policies).run topology).2 =
      (topology.offerEach (policies.takeWhile (decide ·.Readable))).record events := by
  by_cases readable : ∀ policy ∈ policies, policy.Readable
  · obtain ⟨events, run⟩ := run_attachAll_of_readable readable topology
    rw [run, List.takeWhile_eq_self_iff.mpr (by simpa using readable)]
    exact ⟨events, rfl⟩
  · obtain ⟨former, policy, rest, rfl, readable, unreadable⟩ :=
      Policy.exists_first_unreadable (by simpa using readable)
    obtain ⟨error, _, run⟩ := run_attachAll_of_unreadable readable unreadable rest topology
    rw [run, List.takeWhile_append_of_pos (by simpa using readable),
      List.takeWhile_cons_of_neg (by simpa using unreadable), List.append_nil]
    exact ⟨[], by simp [record]⟩

end Topology

namespace Operation

def offers (topology : Topology) : Operation → Entries ResourceId Attachment
  | .attach policy => (topology.offer? policy).toList
  | .attachAll policies => topology.offersOf policies
  | _ => []

def allOffers (topology : Topology) : List Operation → Entries ResourceId Attachment
  | [] => []
  | operation :: rest => operation.offers topology ++ allOffers (operation.apply topology) rest

end Operation

namespace Topology

variable {topology : Topology} {offers : Entries ResourceId Attachment} {policy : Policy}
  {id target : ResourceId}

/-! ### First offers -/

/-- The attached policies are the first offers of their identities. -/
def HoldsFirst (topology : Topology) (offers : Entries ResourceId Attachment) : Prop :=
  ∀ id, topology.policies.get? id = offers.get? id

namespace HoldsFirst

theorem empty : HoldsFirst .empty [] := fun _ => rfl

theorem unchanged {after : Topology} (h : HoldsFirst topology offers)
    (policies : after.policies = topology.policies) : HoldsFirst after (offers ++ []) := by
  rw [List.append_nil]
  exact fun id => policies ▸ h id

theorem attach (h : HoldsFirst topology offers) (policy : Policy) :
    HoldsFirst ((Topology.attach policy).run topology).2
      (offers ++ (topology.offer? policy).toList) := by
  rw [run_attach, offer?]
  rcases topology.placement policy with error | ⟨own, diagnostic | attachment⟩
  · exact h.unchanged rfl
  · exact h.unchanged rfl
  · dsimp only
    intro id
    rw [Option.toList_some, Entries.get?_append, ← h id, Entries.get?_cons, Entries.get?_nil]
    split
    · next present =>
      -- the identity is taken, so the new offer is hidden by a former one
      rw [Table.contains_eq_isSome, Option.isSome_iff_exists] at present
      obtain ⟨former, held⟩ := present
      change topology.policies.get? id = _
      by_cases same : own = id
      · rw [← same, held, Option.some_or]
      · simp [same]
    · next absent =>
      have fresh : topology.policies.get? own = none := by
        simpa [Table.contains_eq_isSome] using absent
      change (topology.policies.set own attachment).get? id = _
      rw [Table.get?_set]
      by_cases same : own = id
      · simp [← same, fresh]
      · simp [same]

/-- Offers that can all be read come after those before them. -/
theorem offerEach (h : HoldsFirst topology offers) (policies : List Policy) :
    HoldsFirst (topology.offerEach policies) (offers ++ policies.filterMap topology.offer?) := by
  induction policies generalizing topology offers with
  | nil => exact h.unchanged rfl
  | cons policy rest ih =>
      have same : ((Topology.attach policy).run topology).2.offer? = topology.offer? :=
        offer?_congr fun id => by rw [(SameWiring.attach policy topology).nodes]
      have later := ih (h.attach policy)
      rw [same, List.append_assoc] at later
      rw [List.filterMap_cons]
      generalize topology.offer? policy = offer at later ⊢
      cases offer <;> exact later

theorem attachAll (h : HoldsFirst topology offers) (policies : List Policy) :
    HoldsFirst ((Topology.attachAll policies).run topology).2
      (offers ++ topology.offersOf policies) := by
  obtain ⟨events, left⟩ := snd_run_attachAll policies topology
  rw [left]
  exact h.offerEach _

theorem connect (h : HoldsFirst topology offers) (edge : Edge) (source target : ResourceId) :
    HoldsFirst (topology.connect edge source target) offers :=
  @connect_keeps (fun topology => HoldsFirst topology offers) topology (fun _ h => h)
    (fun _ _ _ h => h) h edge source target

theorem survivesResolution (offers : Entries ResourceId Attachment) :
    SurvivesResolution fun topology => HoldsFirst topology offers where
  record _ h := h
  effective _ h := h
  partitions _ h := h

theorem apply (h : HoldsFirst topology offers) (operation : Operation) :
    HoldsFirst (operation.apply topology) (offers ++ operation.offers topology) := by
  cases operation with
  | insert resource => exact h.unchanged rfl
  | connect edge source target => exact (h.connect edge source target).unchanged rfl
  | note event => exact h.unchanged rfl
  | attach policy => exact h.attach policy
  | attachAll policies => exact h.attachAll policies
  | resolve merger mode =>
      exact ((survivesResolution offers).resolve merger mode topology h).unchanged rfl
  | inherit =>
      have kept : HoldsFirst topology.inherit offers :=
        @inherit_keeps (fun topology => HoldsFirst topology offers) topology (fun _ h => h)
          (fun _ h => h) h
      exact kept.unchanged rfl

theorem applyAll (h : HoldsFirst topology offers) (operations : List Operation) :
    HoldsFirst (operations.foldl Operation.apply topology)
      (offers ++ Operation.allOffers topology operations) := by
  induction operations generalizing topology offers with
  | nil => exact h.unchanged rfl
  | cons operation rest ih =>
      rw [Operation.allOffers, ← List.append_assoc]
      exact ih (h.apply operation)

end HoldsFirst

/-! ### Places -/

/-- The place of a policy is the node that its reference names, and this node is there. -/
def PlacedAt (topology : Topology) (policy : Policy) (target : ResourceId) : Prop :=
  (∃ reference, policy.target = .ok reference ∧ reference.carrier? = some target) ∧
    topology.nodes.contains target = true

def Placed (topology : Topology) : Prop :=
  ∀ id attachment, topology.policies.get? id = some attachment →
    attachment.AsNamed ∧ topology.nodes.contains attachment.target = true

theorem asNamed_of_placement {attachment : Attachment}
    (placed : topology.placement policy = .ok (id, .ok attachment)) :
    attachment.AsNamed ∧ topology.nodes.contains attachment.target = true := by
  obtain ⟨reference, kind, reading, found, present, rfl⟩ := exists_of_placement placed
  refine ⟨⟨reference, kind, reading, found, by rw [Attachment.policy_single]⟩, ?_⟩
  rwa [Attachment.target_single]

theorem placedAt_of_placement {attachment : Attachment}
    (placed : topology.placement policy = .ok (id, .ok attachment)) :
    topology.PlacedAt policy attachment.target := by
  obtain ⟨named, present⟩ := asNamed_of_placement placed
  exact ⟨policy_of_placement placed ▸ named.exists_carrier, present⟩

namespace Placed

theorem survivesOperations : SurvivesOperations fun topology => topology.Placed where
  record _ h := h
  leaveOut _ h := h
  hold {topology id policy attachment} h placed _ := by
    intro other stored held
    simp only [Topology.hold, Table.get?_set] at held
    split at held
    · cases held
      exact asNamed_of_placement placed
    · exact h other stored held
  effective _ h := h
  partitions _ h := h
  insert {topology} resource h := by
    intro id attachment held
    obtain ⟨named, present⟩ := h id attachment held
    refine ⟨named, ?_⟩
    rw [Table.contains_eq_isSome, Option.isSome_iff_exists] at present ⊢
    obtain ⟨former, stored⟩ := present
    exact ⟨former, get?_nodes_apply (.insert resource) stored⟩
  link _ _ _ h := h
  inherited _ h := h

end Placed

theorem Reachable.placed (h : topology.Reachable) : topology.Placed :=
  Placed.survivesOperations.of_reachable (fun _ _ held => nomatch held) h

/-! ### The attached policies -/

/-- How the attached policies of a topology, the nodes that hold them and the offers that were made
belong together. -/
structure AttachedInPlace (offers : Entries ResourceId Attachment) (topology : Topology) :
    Prop where
  /-- The attached policies are those that some target holds. -/
  union : ∀ {id target}, id ∈ topology.policyIdsOn target ↔
    ∃ attachment, topology.policies.get? id = some attachment ∧ attachment.target = target
  /-- No two targets hold one policy. -/
  disjoint : ∀ {id target other}, id ∈ topology.policyIdsOn target →
    id ∈ topology.policyIdsOn other → target = other
  /-- No target holds a policy twice. -/
  once : ∀ target, (topology.policyIdsOn target).Nodup
  /-- Every policy is kept under its own identity. -/
  own_id : ∀ {id attachment}, topology.policies.get? id = some attachment →
    attachment.policy.id = .ok id
  /-- The target is what the policy's reference names. -/
  carrier : ∀ {id attachment}, topology.policies.get? id = some attachment →
    ∃ reference, attachment.policy.target = .ok reference ∧
      reference.carrier? = some attachment.target
  /-- Of the back-references of a policy exactly one is set: the one for the kind of target that the
  policy's reference names. It holds the target. -/
  back_reference : ∀ {id attachment}, topology.policies.get? id = some attachment →
    ∃ reference kind, attachment.policy.target = .ok reference ∧
      reference.targetKind? = some kind ∧ ∀ other node,
        attachment.references.get? other = some node ↔ other = kind ∧ node = attachment.target
  /-- The target is a node of exactly one of the kinds that carry policies. -/
  node : ∀ {id attachment}, topology.policies.get? id = some attachment →
    ∃! kind, kind ∈ NodeKind.carriers ∧ topology.HasFiled kind attachment.target
  /-- No two policies at a target take the same precedence. -/
  distinct : ∀ target, ((topology.policiesOn (some target)).map Policy.id).Nodup
  /-- A policy is attached exactly if one of its identity was offered to a node that was there. -/
  offered : ∀ id, topology.policies.contains id = true ↔ id ∈ offers.keys
  /-- The attached policy is the one of the first such offer. -/
  first : ∀ id, topology.policies.get? id = offers.get? id

theorem Coherent.nodup_ids_policiesOn (coherent : topology.Coherent) (once : topology.IndexedOnce)
    (target : ResourceId) : ((topology.policiesOn (some target)).map Policy.id).Nodup := by
  rw [List.Nodup, List.pairwise_map]
  refine (coherent.distinct_policiesOn once (some target)).imp_of_mem ?_
  intro first second member member' apart same
  obtain ⟨id, identity⟩ := coherent.readable_policiesOn (some target) first member
  exact apart id identity (same ▸ identity)

/-- After any operations, each attached policy is held by exactly the node that it refers to, and it
is the first one of its identity that was offered to a node. -/
theorem applyAll_attached_in_place (operations : List Operation) :
    AttachedInPlace (Operation.allOffers .empty operations)
      (operations.foldl Operation.apply .empty) := by
  have reachable := Reachable.empty.applyAll operations
  have first : HoldsFirst (operations.foldl Operation.apply .empty)
      (Operation.allOffers .empty operations) := HoldsFirst.empty.applyAll operations
  generalize operations.foldl Operation.apply .empty = final at reachable first
  have coherent := reachable.coherent
  exact {
    union := coherent.attached_iff
    disjoint := by
      intro id target other member member'
      obtain ⟨attachment, held, rfl⟩ := coherent.attached_iff.mp member
      obtain ⟨attachment', held', rfl⟩ := coherent.attached_iff.mp member'
      cases held.symm.trans held'
      rfl
    once := reachable.indexedOnce
    own_id := fun held => (coherent.readable held).1
    carrier := fun held => (reachable.placed _ _ held).1.exists_carrier
    back_reference := fun held => (reachable.placed _ _ held).1.exists_reference
    node := by
      intro id attachment held
      obtain ⟨named, present⟩ := reachable.placed id attachment held
      have node : final.hasNode attachment.target.nodeKind attachment.target = true := by
        simpa [hasNode] using present
      refine ⟨_, ⟨named.nodeKind_mem, reachable.hasFiled node⟩, ?_⟩
      rintro kind ⟨_, filed⟩
      exact filed.1.symm
    distinct := coherent.nodup_ids_policiesOn reachable.indexedOnce
    offered := fun id => by
      rw [← Entries.contains_iff, Table.contains_eq_isSome, first id]
      rfl
    first := first }

/-- A policy is offered before its target is there, then again, and then with another target. -/
def offeredAgain : List Operation :=
  [.insert (.gatewayClass ⟨"c", ""⟩), .attach (quotaOn toNameSpace "p"),
    .insert (.nameSpace ⟨"n", []⟩), .attach (quotaOn toNameSpace "p"),
    .attach (quotaOn toClass "p")]

example : ((offeredAgain.foldl Operation.apply .empty).policies.get?
    (.policy "example.com" "Quota" "n" "p")).map (·.references.entries) =
      some [(.nameSpace, .ofNamespace "n")] := by
  rfl

example : (Operation.allOffers .empty offeredAgain).map (·.2.target) =
    [.ofNamespace "n", .gatewayClass "c"] := by
  rfl

end Topology

end PolicyTopology
