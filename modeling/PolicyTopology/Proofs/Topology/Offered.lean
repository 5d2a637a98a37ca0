import PolicyTopology.Proofs.Policy.ByKind
import PolicyTopology.Proofs.Topology.Alike
import PolicyTopology.Proofs.Topology.Edges

/-!
# Batches of policies

Where a policy of a batch is placed depends on the nodes alone, so the other policies matter only if
they have its identity or cannot be read. If all policies of a batch can be read and no two have one
identity, each is held or left out as it would be alone. A policy that cannot be read ends the
batch.
-/

namespace PolicyTopology

namespace Policy

def Readable (policy : Policy) : Prop :=
  (∃ id, policy.id = .ok id) ∧ ∃ reference, policy.target = .ok reference

instance (policy : Policy) : Decidable policy.Readable :=
  decidable_of_iff (policy.id.isOk ∧ policy.target.isOk) <| by
    unfold Readable
    cases policy.id <;> cases policy.target <;> simp [Except.isOk, Except.toBool]

/-- Of policies that cannot all be read there is a first one. -/
theorem exists_first_unreadable {policies : List Policy}
    (unreadable : ∃ policy ∈ policies, ¬ policy.Readable) :
    ∃ former policy rest, policies = former ++ policy :: rest ∧
      (∀ other ∈ former, other.Readable) ∧ ¬ policy.Readable := by
  have some : (policies.find? fun policy => ¬ policy.Readable).isSome := by
    simpa [List.find?_isSome] using unreadable
  obtain ⟨policy, found⟩ := Option.isSome_iff_exists.mp some
  obtain ⟨unread, former, rest, split, readable⟩ := List.find?_eq_some_iff_append.mp found
  exact ⟨former, policy, rest, split, by simpa using readable, by simpa using unread⟩

end Policy

namespace Topology

variable {first second before middle after : Topology} {policies more : List Policy}
  {policy : Policy} {id : ResourceId}

theorem placement_congr (nodes : ∀ id, second.nodes.get? id = first.nodes.get? id) :
    second.placement = first.placement := by
  have contains : second.nodes.contains = first.nodes.contains := by
    funext id
    rw [Table.contains_eq_isSome, Table.contains_eq_isSome, nodes]
  funext policy
  simp only [placement, place, contains]

theorem readable_iff :
    policy.Readable ↔ ∃ id place, before.placement policy = .ok (id, place) := by
  constructor
  · rintro ⟨⟨id, identity⟩, reference, reading⟩
    exact ⟨id, _, placement_of_readable before reading identity⟩
  · rintro ⟨id, place, placed⟩
    obtain ⟨identity, reading⟩ := readable_of_placement placed
    exact ⟨⟨id, identity⟩, reading⟩

/-- Nothing has been resolved yet. -/
structure Unresolved (topology : Topology) : Prop where
  effective : topology.effective = .empty
  partitions : topology.partitions = .empty
  inherited : topology.inherited = .empty

theorem Unresolved.survivesAttachment : SurvivesAttachment Unresolved where
  record _ h := ⟨h.effective, h.partitions, h.inherited⟩
  leaveOut _ h := ⟨h.effective, h.partitions, h.inherited⟩
  hold h _ _ := ⟨h.effective, h.partitions, h.inherited⟩

/-- As long as nothing is resolved, nodes, edges and policies make two topologies alike. -/
theorem alike_of_unresolved {links links' : List Link} (linked : first.HasLinks links)
    (linked' : second.HasLinks links')
    (nodes : ∀ id, second.nodes.get? id = first.nodes.get? id) (edges : SameEdges first second)
    (policies : ∀ id, second.policies.get? id = first.policies.get? id)
    (policyIdsOn : ∀ target, (second.policyIdsOn target).Perm (first.policyIdsOn target))
    (unresolved : first.Unresolved) (unresolved' : second.Unresolved) : Alike first second where
  nodes := nodes
  targets := edges.targets
  sources := edges.sources
  target? := linked.target?_of_sameEdges linked' edges
  policies := policies
  policyIdsOn := policyIdsOn
  effective _ := by rw [unresolved.effective, unresolved'.effective]
  partitions _ := by rw [unresolved.partitions, unresolved'.partitions]
  inherited _ := by
    rw [unresolved.inherited, unresolved'.inherited]
    exact .none

/-! ### Batches in topologies with the same nodes -/

/-- Two topologies with the same nodes that hold the same policies. -/
structure SameHolding (first second : Topology) : Prop where
  nodes : ∀ id, second.nodes.get? id = first.nodes.get? id
  policies : second.policies = first.policies
  attached : second.attached = first.attached

namespace SameHolding

theorem policyIdsOn (h : SameHolding first second) (target : ResourceId) :
    second.policyIdsOn target = first.policyIdsOn target := by
  rw [Topology.policyIdsOn, h.attached]
  rfl

theorem policiesOn (h : SameHolding first second) (target : Option ResourceId) :
    second.policiesOn target = first.policiesOn target := by
  cases target with
  | none => rfl
  | some target => simp only [Topology.policiesOn, h.policyIdsOn, h.policies]

theorem hold (h : SameHolding first second) (id : ResourceId) (attachment : Attachment) :
    SameHolding (first.hold id attachment) (second.hold id attachment) where
  nodes := h.nodes
  policies := by rw [Topology.hold, h.policies]; rfl
  attached := by rw [Topology.hold, h.attached, h.policyIdsOn]; rfl

theorem attach (policy : Policy) : Assembly.Respects SameHolding (Topology.attach policy) := by
  intro first second h
  rw [run_attach, run_attach, placement_congr h.nodes, h.policies]
  split
  · exact ⟨rfl, h⟩
  · exact ⟨rfl, ⟨h.nodes, h.policies, h.attached⟩⟩
  · split
    · exact ⟨rfl, ⟨h.nodes, h.policies, h.attached⟩⟩
    · exact ⟨rfl, h.hold ..⟩

theorem attachAll (policies : List Policy) :
    Assembly.Respects SameHolding (Topology.attachAll policies) := by
  intro first second h
  unfold Topology.attachAll
  rw [Assembly.run_bind, Assembly.run_bind, Assembly.run_get, Assembly.run_get]
  dsimp only
  rw [h.policies]
  refine Assembly.Respects.bind (.mapM attach policies) (fun outcomes => ?_) _ _ h
  exact fun _ _ h => ⟨rfl, h.nodes, h.policies, h.attached⟩

end SameHolding

/-! ### Batches of distinct policies -/

/-- What becomes of a policy of which none of its identity is held. -/
def outcomeOf (topology : Topology) (policy : Policy) : AttachOutcome :=
  match topology.placement policy with
  | .ok (id, .ok _) => .attached id
  | _ => .dropped

def omissionOf? (topology : Topology) (policy : Policy) : Option Diagnostic :=
  match topology.placement policy with
  | .ok (_, .error diagnostic) => some diagnostic
  | _ => none

def eventOf? (topology : Topology) (policy : Policy) : Option Event :=
  match topology.placement policy with
  | .ok (id, .ok attachment) => some (.attached id attachment.target)
  | .ok (_, .error diagnostic) => some (.omitted diagnostic)
  | .error _ => none

section Congr

variable (nodes : ∀ id, second.nodes.get? id = first.nodes.get? id)
include nodes

theorem outcomeOf_congr : second.outcomeOf = first.outcomeOf := by
  funext policy
  rw [outcomeOf, placement_congr nodes]
  rfl

theorem omissionOf?_congr : second.omissionOf? = first.omissionOf? := by
  funext policy
  rw [omissionOf?, placement_congr nodes]
  rfl

theorem eventOf?_congr : second.eventOf? = first.eventOf? := by
  funext policy
  rw [eventOf?, placement_congr nodes]
  rfl

end Congr

/-- What a batch leads to: those with a place are held there, the others are left out, and nothing
else changes. -/
structure Offers (policies : List Policy) (before after : Topology) : Prop where
  held : ∀ {id attachment}, after.policies.get? id = some attachment ↔
    before.policies.get? id = some attachment ∨ attachment.policy ∈ policies ∧
      before.placement attachment.policy = .ok (id, .ok attachment)
  rest : after = { before with
    policies := after.policies
    attached := after.attached
    diagnostics := before.diagnostics ++ policies.filterMap before.omissionOf?
    journal := before.journal ++ policies.filterMap before.eventOf? }

namespace Offers

theorem nil (topology : Topology) : Offers [] topology topology where
  held := by simp
  rest := by simp

theorem nodes (h : Offers policies before after) (id : ResourceId) :
    after.nodes.get? id = before.nodes.get? id := by
  rw [h.rest]

theorem append (h : Offers policies before middle) (h' : Offers more middle after) :
    Offers (policies ++ more) before after where
  held := by
    intro id attachment
    rw [h'.held, h.held, placement_congr h.nodes, List.mem_append]
    grind
  rest := by
    have rest := h'.rest
    rw [omissionOf?_congr h.nodes, eventOf?_congr h.nodes, h.rest] at rest
    simpa [List.filterMap_append, List.append_assoc] using rest

/-- A policy without a place is left out. -/
theorem leaveOut {diagnostic : Diagnostic}
    (placed : before.placement policy = .ok (id, .error diagnostic)) :
    Offers [policy] before (before.leaveOut diagnostic) where
  held := by
    intro other attachment
    constructor
    · exact .inl
    · rintro (held | ⟨same, place⟩)
      · exact held
      · rw [List.mem_singleton.mp same, placed] at place
        cases place
  rest := by simp [Topology.leaveOut, omissionOf?, eventOf?, placed]

/-- A policy with a place is held there, if none of its identity is held. -/
theorem hold {attachment : Attachment} (placed : before.placement policy = .ok (id, .ok attachment))
    (fresh : before.policies.get? id = none) :
    Offers [policy] before (before.hold id attachment) where
  held := by
    intro other stored
    change (before.policies.set id attachment).get? other = some stored ↔ _
    rw [Table.get?_set, List.mem_singleton]
    constructor
    · intro held
      split at held
      · next here =>
        cases held
        exact .inr ⟨policy_of_placement placed, policy_of_placement placed ▸ here ▸ placed⟩
      · exact .inl held
    · rintro (held | ⟨same, place⟩)
      · have ne : id ≠ other := by
          rintro rfl
          rw [fresh] at held
          cases held
        rwa [if_neg ne]
      · rw [same, placed] at place
        cases place
        rw [if_pos rfl]
  rest := by simp [Topology.hold, omissionOf?, eventOf?, placed]

end Offers

theorem run_attach_of_fresh (readable : policy.Readable)
    (fresh : ∀ id, policy.id = .ok id → before.policies.get? id = none) :
    ∃ after, (attach policy).run before = (.ok (before.outcomeOf policy), after) ∧
      Offers [policy] before after := by
  obtain ⟨id, place, placed⟩ := readable_iff.mp readable
  have none := fresh id (readable_of_placement placed).1
  rw [run_attach, outcomeOf, placed]
  cases place with
  | error diagnostic => exact ⟨_, rfl, .leaveOut placed⟩
  | ok target =>
      simp only [Table.contains_eq_isSome, none, Option.isSome_none, Bool.false_eq_true, if_false]
      exact ⟨_, rfl, .hold placed none⟩

theorem run_mapM_attach (readable : ∀ policy ∈ policies, policy.Readable)
    (distinct : Policy.Distinct policies)
    (fresh : ∀ policy ∈ policies, ∀ id, policy.id = .ok id → before.policies.get? id = none) :
    ∃ after, (policies.mapM attach).run before = (.ok (policies.map before.outcomeOf), after) ∧
      Offers policies before after := by
  induction policies generalizing before with
  | nil => exact ⟨before, rfl, .nil before⟩
  | cons policy rest ih =>
      rw [Policy.Distinct, List.pairwise_cons] at distinct
      obtain ⟨middle, run, offered⟩ := run_attach_of_fresh (readable policy List.mem_cons_self)
        (fresh policy List.mem_cons_self)
      have fresh' : ∀ other ∈ rest, ∀ id, other.id = .ok id → middle.policies.get? id = none := by
        intro other member id identity
        rw [Option.eq_none_iff_forall_ne_some]
        intro attachment held
        rcases offered.held.mp held with held | ⟨same, placed⟩
        · rw [fresh other (List.mem_cons_of_mem _ member) id identity] at held
          cases held
        · rw [List.mem_singleton.mp same] at placed
          exact distinct.1 other member id (readable_of_placement placed).1 identity
      obtain ⟨after, run', offered'⟩ :=
        ih (fun other member => readable other (List.mem_cons_of_mem _ member)) distinct.2 fresh'
      refine ⟨after, ?_, offered.append offered'⟩
      rw [List.mapM_cons, Assembly.run_bind, run]
      dsimp only
      rw [Assembly.run_bind, run', outcomeOf_congr offered.nodes]
      rfl

/-- A batch offers its policies and enters what came of them, unless one of them ended it. -/
theorem run_attachAll_eq (policies : List Policy) (before : Topology) :
    (attachAll policies).run before =
      match (policies.mapM attach).run before with
      | (.ok outcomes, after) => (.ok (), after.record
          [.batchAttached (after.policies.size - before.policies.size)
            (policies.length - (after.policies.size - before.policies.size) -
              outcomes.count .dropped) (outcomes.count .dropped) after.policies.size])
      | (.error error, after) => (.error error, after) := by
  unfold attachAll
  rw [Assembly.run_bind, Assembly.run_get]
  dsimp only
  rw [Assembly.run_bind]
  rcases (policies.mapM attach).run before with ⟨_ | outcomes, after⟩ <;> rfl

/-- A batch of distinct policies that can be read is worked off. -/
theorem run_attachAll (readable : ∀ policy ∈ policies, policy.Readable)
    (distinct : Policy.Distinct policies)
    (fresh : ∀ policy ∈ policies, ∀ id, policy.id = .ok id → before.policies.get? id = none) :
    ∃ after, (attachAll policies).run before = (.ok (), after.record
        [.batchAttached (after.policies.size - before.policies.size)
          (policies.length - (after.policies.size - before.policies.size) -
            (policies.map before.outcomeOf).count .dropped)
          ((policies.map before.outcomeOf).count .dropped) after.policies.size]) ∧
      Offers policies before after := by
  obtain ⟨after, run, offered⟩ := run_mapM_attach readable distinct fresh
  exact ⟨after, by rw [run_attachAll_eq, run], offered⟩

/-! ### Batches of any policies -/

/-- What offering policies one after the other leaves behind. -/
def offerEach (topology : Topology) (policies : List Policy) : Topology :=
  policies.foldl (fun topology policy => ((attach policy).run topology).2) topology

/-- A policy that can be read is attached or dropped. -/
theorem run_attach_of_readable (readable : policy.Readable) (topology : Topology) :
    ∃ outcome, (attach policy).run topology =
      (.ok outcome, ((attach policy).run topology).2) := by
  obtain ⟨id, place, placed⟩ := readable_iff.mp readable
  rw [run_attach, placed]
  cases place with
  | error diagnostic => exact ⟨_, rfl⟩
  | ok target =>
      dsimp only
      split <;> exact ⟨_, rfl⟩

theorem run_mapM_attach_of_readable (readable : ∀ policy ∈ policies, policy.Readable)
    (topology : Topology) :
    ∃ outcomes, (policies.mapM attach).run topology =
      (.ok outcomes, topology.offerEach policies) := by
  induction policies generalizing topology with
  | nil => exact ⟨[], rfl⟩
  | cons policy rest ih =>
      obtain ⟨outcome, run⟩ :=
        run_attach_of_readable (readable policy List.mem_cons_self) topology
      obtain ⟨outcomes, run'⟩ :=
        ih (fun other member => readable other (List.mem_cons_of_mem _ member))
          ((attach policy).run topology).2
      refine ⟨outcome :: outcomes, ?_⟩
      rw [List.mapM_cons, Assembly.run_bind, run]
      dsimp only
      rw [Assembly.run_bind, run']
      rfl

/-- A batch of policies that can all be read is worked off. -/
theorem run_attachAll_of_readable (readable : ∀ policy ∈ policies, policy.Readable)
    (topology : Topology) :
    ∃ events, (attachAll policies).run topology =
      (.ok (), (topology.offerEach policies).record events) := by
  obtain ⟨outcomes, run⟩ := run_mapM_attach_of_readable readable topology
  rw [run_attachAll_eq, run]
  exact ⟨_, rfl⟩

/-- A batch ends at the first policy that cannot be read, for the reason that it cannot. -/
theorem run_attachAll_of_unreadable (readable : ∀ policy ∈ policies, policy.Readable)
    (unreadable : ¬ policy.Readable) (rest : List Policy) (topology : Topology) :
    ∃ error, (topology.offerEach policies).placement policy = .error error ∧
      (attachAll (policies ++ policy :: rest)).run topology =
        (.error error, topology.offerEach policies) := by
  obtain ⟨outcomes, run⟩ := run_mapM_attach_of_readable readable topology
  cases placed : (topology.offerEach policies).placement policy with
  | ok place => exact absurd (readable_iff.mpr ⟨place.1, place.2, placed⟩) unreadable
  | error error =>
      refine ⟨error, rfl, ?_⟩
      rw [run_attachAll_eq, List.mapM_append, Assembly.run_bind, run]
      dsimp only
      rw [Assembly.run_bind, List.mapM_cons, Assembly.run_bind, run_attach, placed]

end Topology

end PolicyTopology
