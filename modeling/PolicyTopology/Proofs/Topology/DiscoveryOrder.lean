import PolicyTopology.Proofs.Topology.Build
import PolicyTopology.Proofs.Topology.LevelPolicies

/-!
# The order of discovery

A snapshot lists its resources and policies in the order in which they were discovered. If no two of
a kind have one identity and all policies can be read, a build comes to the same in every order. A
policy that cannot be read ends the build where it stands, so the order then shows in which policies
are attached; but no policies are resolved, and the nodes and edges are the same nevertheless.
-/

namespace PolicyTopology

namespace Snapshot

/-- The same resources and policies, discovered in another order. -/
structure Reordered (first second : Snapshot) : Prop where
  gatewayClasses : second.gatewayClasses.Perm first.gatewayClasses
  nameSpaces : second.nameSpaces.Perm first.nameSpaces
  gateways : second.gateways.Perm first.gateways
  httpRoutes : second.httpRoutes.Perm first.httpRoutes
  backends : second.backends.Perm first.backends
  referenceGrants : second.referenceGrants.Perm first.referenceGrants
  policies : second.policies.Perm first.policies

/-- No two resources or policies of a kind have one identity. -/
structure DistinctIds (snapshot : Snapshot) : Prop extends DistinctResources snapshot where
  policies : Policy.Distinct snapshot.policies

variable {first second : Snapshot} {backends others : List Backend}

theorem DistinctResources.reordered (h : first.DistinctResources) (order : first.Reordered second) :
    second.DistinctResources where
  gatewayClasses := (order.gatewayClasses.map _).nodup_iff.mpr h.gatewayClasses
  nameSpaces := (order.nameSpaces.map _).nodup_iff.mpr h.nameSpaces
  gateways := (order.gateways.map _).nodup_iff.mpr h.gateways
  httpRoutes := (order.httpRoutes.map _).nodup_iff.mpr h.httpRoutes
  backends := (order.backends.map _).nodup_iff.mpr h.backends
  referenceGrants := (order.referenceGrants.map _).nodup_iff.mpr h.referenceGrants

namespace Reordered

theorem resources (h : first.Reordered second) : second.resources.Perm first.resources :=
  ((((((h.gatewayClasses.map _).append (h.nameSpaces.map _)).append (h.gateways.map _)).append
    (h.httpRoutes.map _)).append (h.backends.map _)).append (h.referenceGrants.map _))

theorem declaredBy (h : others.Perm backends) (resource : Resource) :
    (Snapshot.declaredBy others resource).Perm (Snapshot.declaredBy backends resource) := by
  cases resource with
  | referenceGrant grant => exact (h.filter _).map _
  | _ => exact .refl _

/-- The same is declared, in another order. -/
theorem declarations (h : first.Reordered second) :
    second.declarations.Perm first.declarations := by
  rw [declarations_eq, declarations_eq]
  exact h.resources.flatMap fun resource _ => declaredBy h.backends resource

theorem nodes (h : first.Reordered second) (distinct : first.DistinctResources) (id : ResourceId) :
    second.graph.nodes.get? id = first.graph.nodes.get? id := by
  refine Option.ext fun resource => ?_
  rw [(distinct.reordered h).get?_nodes_iff, distinct.get?_nodes_iff, h.resources.mem_iff]

theorem contains (h : first.Reordered second) (distinct : first.DistinctResources)
    (id : ResourceId) : second.graph.nodes.contains id = first.graph.nodes.contains id := by
  rw [Table.contains_eq_isSome, Table.contains_eq_isSome, h.nodes distinct]

theorem sameEdges (h : first.Reordered second) (distinct : first.DistinctResources) :
    Topology.SameEdges first.graph second.graph := by
  refine Topology.HasLinks.sameEdges first.hasLinks_graph second.hasLinks_graph (fun link => ?_)
    distinct.oneTarget
  obtain ⟨edge, source, target⟩ := link
  rw [mem_links_iff, mem_links_iff, h.declarations.mem_iff, h.contains distinct]

theorem diagnostics (h : first.Reordered second) (distinct : first.DistinctResources) :
    second.graph.diagnostics.Perm first.graph.diagnostics := by
  rw [graph_eq, graph_eq first]
  dsimp only
  rw [Declaration.diagnostic?_congr (h.nodes distinct)]
  exact h.declarations.filterMap _

theorem journal (h : first.Reordered second) (distinct : first.DistinctResources) :
    second.graph.journal.Perm first.graph.journal := by
  rw [graph_eq, graph_eq first]
  dsimp only
  rw [Declaration.event?_congr (h.nodes distinct)]
  exact h.declarations.filterMap _

end Reordered

end Snapshot

namespace Topology

variable {first second after after' : Topology} {policies others : List Policy}

/-- Batches of the same policies leave the same policies held, left out and entered. -/
theorem Offers.reordered (h : Offers policies first after) (h' : Offers others second after')
    (perm : others.Perm policies) (nodes : ∀ id, second.nodes.get? id = first.nodes.get? id)
    (held : ∀ id, second.policies.get? id = first.policies.get? id)
    (diagnostics : second.diagnostics.Perm first.diagnostics)
    (journal : second.journal.Perm first.journal) :
    (∀ id, after'.policies.get? id = after.policies.get? id) ∧
      after'.diagnostics.Perm after.diagnostics ∧ after'.journal.Perm after.journal := by
  refine ⟨fun id => Option.ext fun attachment => ?_, ?_, ?_⟩
  · rw [h'.held, h.held, held, placement_congr nodes, perm.mem_iff]
  · rw [h.rest, h'.rest, omissionOf?_congr nodes]
    exact diagnostics.append (perm.filterMap _)
  · rw [h.rest, h'.rest, eventOf?_congr nodes]
    exact journal.append (perm.filterMap _)

theorem policyIdsOn_perm (coherent : first.Coherent) (coherent' : second.Coherent)
    (once : first.IndexedOnce) (once' : second.IndexedOnce)
    (held : ∀ id, second.policies.get? id = first.policies.get? id) (target : ResourceId) :
    (second.policyIdsOn target).Perm (first.policyIdsOn target) := by
  refine (List.perm_ext_iff_of_nodup (once' target) (once target)).mpr fun id => ?_
  rw [coherent'.attached_iff, coherent.attached_iff, held]

theorem Alike.policiesOn (h : Alike first second) (target : Option ResourceId) :
    (second.policiesOn target).Perm (first.policiesOn target) := by
  cases target with
  | none => exact .refl _
  | some target =>
      simp only [Topology.policiesOn, h.policies]
      exact (h.policyIdsOn target).filterMap _

/-- A registry makes the same of the policies at each target, whatever order they came in. -/
theorem Alike.sameLevels (h : Alike first second) (coherent : first.Coherent)
    (once : first.IndexedOnce) (registry : MergerRegistry) :
    SameLevels registry.toPolicyMerger first second := fun target =>
  MergerRegistry.mergeLevel_perm (coherent.readable_policiesOn target)
    (coherent.distinct_policiesOn once target) (h.policiesOn target)

end Topology

namespace Snapshot

open PolicyTopology.Topology

variable {first second : Snapshot}

theorem indexedOnce_graph (snapshot : Snapshot) : snapshot.graph.IndexedOnce := by
  intro target
  rw [policyIdsOn, attached_graph]
  exact List.nodup_nil

/-- What the attachment of a snapshot's policies leaves behind, however it ends. -/
structure Attached (snapshot : Snapshot) (after : Topology) : Prop where
  wiring : SameWiring snapshot.graph after
  coherent : after.Coherent
  once : after.IndexedOnce
  unresolved : after.Unresolved

theorem attached_of_attachAll (snapshot : Snapshot) :
    snapshot.Attached ((attachAll snapshot.policies).run snapshot.graph).2 where
  wiring := .attachAll ..
  coherent := Coherent.attachAll _ _ snapshot.reachable_graph.coherent
  once := IndexedOnce.survivesOperations.attachAll _ _ snapshot.indexedOnce_graph
  unresolved := Unresolved.survivesAttachment.attachAll _ _ snapshot.unresolved_graph

/-- Distinct policies that can be read are attached in every order. -/
theorem Reordered.attachAll (order : first.Reordered second) (distinct : first.DistinctIds)
    (readable : ∀ policy ∈ first.policies, policy.Readable) :
    ∃ after after', (Topology.attachAll first.policies).run first.graph = (.ok (), after) ∧
      (Topology.attachAll second.policies).run second.graph = (.ok (), after') ∧
      first.Attached after ∧ second.Attached after' ∧
      (∀ id, after'.policies.get? id = after.policies.get? id) ∧
      after'.diagnostics.Perm after.diagnostics ∧ after'.journal.Perm after.journal := by
  have fresh : ∀ snapshot : Snapshot, ∀ policy ∈ snapshot.policies, ∀ id, policy.id = .ok id →
      snapshot.graph.policies.get? id = none := by
    intro snapshot _ _ id _
    rw [policies_graph]
    rfl
  have attached := first.attached_of_attachAll
  have attached' := second.attached_of_attachAll
  obtain ⟨after, run, offered⟩ := run_attachAll readable distinct.policies (fresh first)
  obtain ⟨after', run', offered'⟩ := run_attachAll
    (fun policy member => readable policy (order.policies.mem_iff.mp member))
    (distinct.policies.perm order.policies) (fresh second)
  obtain ⟨held, diagnostics, journal⟩ := offered.reordered offered' order.policies
    (order.nodes distinct.toDistinctResources)
    (fun id => by rw [policies_graph, policies_graph])
    (order.diagnostics distinct.toDistinctResources) (order.journal distinct.toDistinctResources)
  rw [run] at attached
  rw [run'] at attached'
  refine ⟨_, _, run, run', attached, attached', held, diagnostics, ?_⟩
  rw [Table.size_congr held, policies_graph, policies_graph,
    outcomeOf_congr (order.nodes distinct.toDistinctResources), order.policies.length_eq,
    (order.policies.map first.graph.outcomeOf).count_eq]
  exact journal.append_right _

/-- As long as the same policies are held, attachment leaves topologies behind that are alike. -/
theorem Reordered.alike (order : first.Reordered second) (distinct : first.DistinctResources)
    {after after' : Topology} (attached : first.Attached after) (attached' : second.Attached after')
    (held : ∀ id, after'.policies.get? id = after.policies.get? id) : Alike after after' :=
  alike_of_unresolved (attached.wiring.hasLinks first.hasLinks_graph)
    (attached'.wiring.hasLinks second.hasLinks_graph)
    (fun id => by rw [attached.wiring.nodes, attached'.wiring.nodes, order.nodes distinct])
    ((sameEdges_congr attached.wiring attached'.wiring).mpr (order.sameEdges distinct)) held
    (policyIdsOn_perm attached.coherent attached'.coherent attached.once attached'.once held)
    attached.unresolved attached'.unresolved

end Snapshot

/-- How the ends of two builds from the resources and policies of a snapshot, in two orders,
compare. -/
structure OrderFree (snapshot : Snapshot)
    (run run' : Except ResolutionError ResolutionReport × Topology) : Prop where
  /-- If all policies can be read, only the order differs. -/
  same : (∀ policy ∈ snapshot.policies, policy.Readable) → Topology.SameButOrder run run'
  counters : (∀ policy ∈ snapshot.policies, policy.Readable) → ∀ (counter : Counter) label,
    counter.total label run'.2.journal = counter.total label run.2.journal
  /-- If some cannot, both builds fail before anything is resolved. -/
  malformed : (∃ policy ∈ snapshot.policies, ¬ policy.Readable) →
    (∃ error, run.1 = .error (.fault (.malformed error))) ∧
      (∃ error, run'.1 = .error (.fault (.malformed error))) ∧
      (∀ id, run'.2.nodes.get? id = run.2.nodes.get? id) ∧ Topology.SameEdges run.2 run'.2 ∧
      run.2.Unresolved ∧ run'.2.Unresolved

namespace Topology

open Snapshot

variable {first second : Snapshot}

theorem build_sameButOrder (distinct : first.DistinctIds) (order : first.Reordered second)
    (registry : MergerRegistry) (mode : ResolutionMode)
    (readable : ∀ policy ∈ first.policies, policy.Readable) :
    SameButOrder ((build first registry.toPolicyMerger mode).run .empty)
      ((build second registry.toPolicyMerger mode).run .empty) := by
  obtain ⟨after, after', run, run', attached, attached', held, diagnostics, journal⟩ :=
    order.attachAll distinct readable
  have alike := order.alike distinct.toDistinctResources attached attached' held
  rw [run_build, run_build, run, run']
  exact complete_sameButOrder alike (alike.sameLevels attached.coherent attached.once registry)
    attached.coherent attached'.coherent mode diagnostics journal

theorem run_build_of_unreadable {snapshot : Snapshot}
    (unreadable : ∃ policy ∈ snapshot.policies, ¬ policy.Readable) (merger : PolicyMerger)
    (mode : ResolutionMode) :
    ∃ error after, (build snapshot merger mode).run .empty =
      (.error (.fault (.malformed error)), after) ∧ snapshot.Attached after := by
  have attached := snapshot.attached_of_attachAll
  obtain ⟨former, policy, rest, split, readable, unread⟩ :=
    Policy.exists_first_unreadable unreadable
  obtain ⟨error, _, run⟩ := run_attachAll_of_unreadable readable unread rest snapshot.graph
  rw [← split] at run
  rw [run] at attached
  refine ⟨error, _, ?_, attached⟩
  rw [run_build, run]

/-- A build does not depend on the order of discovery, as far as policies can be read. -/
theorem build_order_free (distinct : first.DistinctIds) (order : first.Reordered second)
    (registry : MergerRegistry) (mode : ResolutionMode) :
    OrderFree first ((build first registry.toPolicyMerger mode).run .empty)
      ((build second registry.toPolicyMerger mode).run .empty) where
  same := build_sameButOrder distinct order registry mode
  counters readable counter label :=
    (build_sameButOrder distinct order registry mode readable).journal.countP_eq _
  malformed unreadable := by
    have unreadable' : ∃ policy ∈ second.policies, ¬ policy.Readable := by
      obtain ⟨policy, member, unread⟩ := unreadable
      exact ⟨policy, order.policies.mem_iff.mpr member, unread⟩
    obtain ⟨error, after, run, attached⟩ :=
      run_build_of_unreadable unreadable registry.toPolicyMerger mode
    obtain ⟨error', after', run', attached'⟩ :=
      run_build_of_unreadable unreadable' registry.toPolicyMerger mode
    rw [run, run']
    refine ⟨⟨error, rfl⟩, ⟨error', rfl⟩, fun id => ?_, ?_, attached.unresolved,
      attached'.unresolved⟩
    · rw [attached.wiring.nodes, attached'.wiring.nodes,
        order.nodes distinct.toDistinctResources]
    · exact (sameEdges_congr attached.wiring attached'.wiring).mpr
        (order.sameEdges distinct.toDistinctResources)

def quotaOn (reference : Document) (name : String) : Policy :=
  .manifest {
    manifest := .object [("apiVersion", .string "example.com/v1"), ("kind", .string "Quota"),
      ("metadata", .object [("name", .string name), ("namespace", .string "n")]),
      ("spec", .object [("targetRef", reference)])]
    inherited := true }

def toNameSpace : Document := .object [("kind", .string "Namespace"), ("name", .string "n")]

def toClass : Document :=
  .object [("group", .string gatewayGroup), ("kind", .string "GatewayClass"), ("name", .string "c")]

def toBackend : Document := .object [("kind", .string "Service"), ("name", .string "b")]

def governed (gateways : List Gateway) (policies : List Policy) : Snapshot where
  gatewayClasses := [⟨"c", ""⟩]
  nameSpaces := [⟨"n", []⟩]
  gateways := gateways
  httpRoutes := []
  backends := []
  referenceGrants := []
  policies := policies

theorem distinctIds_governed {gateways : List Gateway} (nodup : (gateways.map Gateway.id).Nodup)
    {first second : Policy} {id other : ResourceId} (identity : first.id = .ok id)
    (identity' : second.id = .ok other) (apart : id ≠ other) :
    (governed gateways [first, second]).DistinctIds where
  gatewayClasses := List.pairwise_singleton _ _
  nameSpaces := List.pairwise_singleton _ _
  gateways := nodup
  httpRoutes := .nil
  backends := .nil
  referenceGrants := .nil
  policies := by
    refine .cons (fun policy member id found found' => ?_) (List.pairwise_singleton _ _)
    rw [identity] at found
    rw [List.mem_singleton.mp member, identity'] at found'
    exact apart ((Except.ok.inj found).trans (Except.ok.inj found').symm)

theorem reordered_governed {gateways gateways' : List Gateway} {policies policies' : List Policy}
    (perm : gateways'.Perm gateways) (perm' : policies'.Perm policies) :
    (governed gateways policies).Reordered (governed gateways' policies') :=
  ⟨.refl _, .refl _, perm, .refl _, .refl _, .refl _, perm'⟩

theorem build_order_free_governed :
    SameButOrder
      ((build (governed [⟨"n", "g", "c"⟩, ⟨"n", "h", "c"⟩]
          [quotaOn toNameSpace "p", quotaOn toNameSpace "q"])
        MergerRegistry.specifications.toPolicyMerger .bestEffort).run .empty)
      ((build (governed [⟨"n", "h", "c"⟩, ⟨"n", "g", "c"⟩]
          [quotaOn toNameSpace "q", quotaOn toNameSpace "p"])
        MergerRegistry.specifications.toPolicyMerger .bestEffort).run .empty) := by
  have identity : (quotaOn toNameSpace "p").id = .ok (.policy "example.com" "Quota" "n" "p") := rfl
  have identity' : (quotaOn toNameSpace "q").id = .ok (.policy "example.com" "Quota" "n" "q") := rfl
  refine (build_order_free (distinctIds_governed (by decide) identity identity' (by decide))
    (reordered_governed (.swap _ _ _) (.swap _ _ _)) _ _).same fun policy member => ?_
  rcases List.mem_cons.mp member with rfl | member
  · exact ⟨⟨_, identity⟩, _, rfl⟩
  · cases List.mem_singleton.mp member
    exact ⟨⟨_, identity'⟩, _, rfl⟩

/-- A policy whose reference is no object ends the build before or after the other is attached. -/
theorem governed_malformed_order_shows :
    (governed [] [quotaOn (.string "n") "p", quotaOn toNameSpace "q"]).DistinctIds ∧
      (governed [] [quotaOn (.string "n") "p", quotaOn toNameSpace "q"]).Reordered
        (governed [] [quotaOn toNameSpace "q", quotaOn (.string "n") "p"]) ∧
      ((build (governed [] [quotaOn (.string "n") "p", quotaOn toNameSpace "q"])
        MergerRegistry.specifications.toPolicyMerger .bestEffort).run .empty).2.policies.keys =
          [] ∧
      ((build (governed [] [quotaOn toNameSpace "q", quotaOn (.string "n") "p"])
        MergerRegistry.specifications.toPolicyMerger .bestEffort).run .empty).2.policies.keys =
          [.policy "example.com" "Quota" "n" "q"] := by
  have identity : (quotaOn (.string "n") "p").id = .ok (.policy "example.com" "Quota" "n" "p") :=
    rfl
  have identity' : (quotaOn toNameSpace "q").id = .ok (.policy "example.com" "Quota" "n" "q") := rfl
  refine ⟨distinctIds_governed (by decide) identity identity' (by decide),
    reordered_governed (.refl _) (.swap _ _ _), ?_, ?_⟩
  · rw [run_build]
    rfl
  · rw [run_build]
    rfl

end Topology

end PolicyTopology
