import PolicyTopology.Proofs.Topology.Levels
import PolicyTopology.Proofs.Topology.Reachable
import PolicyTopology.Proofs.Topology.Totality

/-!
# The failed nodes of a best-effort resolution

Which nodes fail, and why, can be read off the topology that a best-effort resolution leaves behind.
A gateway fails on account of its own policies only. A route fails on account of the least of its
gateways that failed, whatever its other gateways come to, and otherwise only on account of its own
policies; a backend fails in the same way with its routes. Every other node has effective policies,
unless it is a gateway without a class.
-/

namespace PolicyTopology

/-- Why a node that depends on others fails: the least of them that failed, or else the conflict
that its own work comes to. -/
def Failure.Explains {α : Type} (failed dependencies : List ResourceId)
    (own : Except NodeError α) : Failure → Prop
  | .dependency id =>
    id ∈ dependencies ∧ id ∈ failed ∧ ∀ other ∈ dependencies, other ∈ failed → id ≤ other
  | .conflict found =>
    (∀ id ∈ dependencies, id ∉ failed) ∧ own = .error (.failure (.conflict found))

/-- Which nodes failed in a resolution that led from `before` to `after`, and what the others
have. -/
structure FailureClosure (merger : PolicyMerger) (before after : Topology)
    (report : ResolutionReport) : Prop where
  gateway_failure : ∀ id ∈ before.idsOf .gateway, ∀ failure, ⟨id, failure⟩ ∈ report.failures ↔
    before.target? .gatewayClass id ≠ none ∧ ∃ conflict, failure = .conflict conflict ∧
      (before.gatewayPolicies merger id).result = .error (.failure (.conflict conflict))
  route_failure : ∀ id ∈ before.idsOf .httpRoute, ∀ failure, ⟨id, failure⟩ ∈ report.failures ↔
    failure.Explains report.failedIds (before.targets .routeGateway id)
      (after.routePartitions merger [] id).result
  backend_failure : ∀ id ∈ before.idsOf .backend, ∀ failure, ⟨id, failure⟩ ∈ report.failures ↔
    failure.Explains report.failedIds (before.sources .routeBackend id)
      (after.backendPartitions merger [] id).result
  /-- The failed nodes are gateways, then routes, then backends, each in order of identity. -/
  failed_order : ∃ gateways routes backends : List ResourceId,
    report.failedIds = gateways ++ routes ++ backends ∧
    (∀ id ∈ gateways, id ∈ before.idsOf .gateway) ∧ gateways.Pairwise ResourceId.Precedes ∧
    (∀ id ∈ routes, id ∈ before.idsOf .httpRoute) ∧ routes.Pairwise ResourceId.Precedes ∧
    (∀ id ∈ backends, id ∈ before.idsOf .backend) ∧ backends.Pairwise ResourceId.Precedes
  failed_nodup : report.failedIds.Nodup
  gateway_unresolved : ∀ id ∈ before.idsOf .gateway, after.effective.get? id = none ↔
    id ∈ report.failedIds ∨ before.target? .gatewayClass id = none
  route_unresolved : ∀ id ∈ before.idsOf .httpRoute,
    after.partitions.get? id = none ↔ id ∈ report.failedIds
  backend_unresolved : ∀ id ∈ before.idsOf .backend,
    after.partitions.get? id = none ↔ id ∈ report.failedIds
  gateway_resolved : ∀ id ∈ before.idsOf .gateway, id ∉ report.failedIds →
    (before.gatewayPolicies merger id).result = .ok (after.effective.get? id)
  route_resolved : ∀ id ∈ before.idsOf .httpRoute, id ∉ report.failedIds →
    (after.routePartitions merger [] id).result.map some = .ok (after.partitions.get? id)
  backend_resolved : ∀ id ∈ before.idsOf .backend, id ∉ report.failedIds →
    (after.backendPartitions merger [] id).result.map some = .ok (after.partitions.get? id)
  gateway_count : report.gateways.resolved + report.gateways.skipped +
    report.failures.countP (·.node.nodeKind = .gateway) = (before.idsOf .gateway).length
  route_count : report.routes.resolved + report.routes.skipped +
    report.failures.countP (·.node.nodeKind = .httpRoute) = (before.idsOf .httpRoute).length
  backend_count : report.backends.resolved + report.backends.skipped +
    report.failures.countP (·.node.nodeKind = .backend) = (before.idsOf .backend).length

section Among

variable {α : Type} {mode : ResolutionMode} {ids : List ResourceId}
  {outcome : ResourceId → Outcome α}

/-- Failures keep the order of the nodes. -/
theorem sublist_failuresAmong (ids : List ResourceId) (outcome : ResourceId → Outcome α) :
    ((failuresAmong ids outcome).map (·.node)).Sublist ids := by
  induction ids with
  | nil => exact .slnil
  | cons id rest ih =>
      unfold failuresAmong
      rw [List.filterMap_cons]
      cases (outcome id).failure? with
      | none => exact ih.cons id
      | some failure => exact ih.cons_cons id

/-- Among nodes of one kind, all failures are of that kind. -/
theorem countP_failuresAmong {kind : NodeKind} (ofKind : ∀ id ∈ ids, id.nodeKind = kind)
    (other : NodeKind) : (failuresAmong ids outcome).countP (·.node.nodeKind = other) =
      if kind = other then (failuresAmong ids outcome).length else 0 := by
  have nodes : ∀ entry ∈ failuresAmong ids outcome, entry.node.nodeKind = kind :=
    fun entry member => ofKind _ (mem_failuresAmong.mp member).1
  split
  · next same =>
    refine List.countP_eq_length.mpr fun entry member => ?_
    simpa [same] using nodes entry member
  · next differ =>
    refine List.countP_eq_zero.mpr fun entry member => ?_
    simpa [nodes entry member] using differ

/-- Each visited node is resolved, skipped or failed. -/
theorem Settled.count {before after : ResourceId → Option α} {tally : Tally}
    (h : Settled mode ids outcome before after tally) :
    tally.resolved + tally.skipped + (failuresAmong ids outcome).length = ids.length := by
  have passes := h.passes
  rw [h.resolved, h.skipped]
  clear h
  induction ids with
  | nil => rfl
  | cons id rest ih =>
      have first := passes id List.mem_cons_self
      have others := ih fun other member => passes other (List.mem_cons_of_mem id member)
      unfold failuresAmong at others ⊢
      rw [List.filterMap_cons]
      generalize found : outcome id = result at first
      rcases result with (failure | fault) | _ | policies
      · simp [found]
        omega
      · cases first
      · simp [found]
        omega
      · simp [found]
        omega

end Among

theorem Topology.nodup_idsOf (topology : Topology) (kind : NodeKind) :
    (topology.idsOf kind).Nodup :=
  topology.nodes.nodup_keys.filter _

theorem sortedIds_precedes {ids : List ResourceId} (h : ids.Nodup) :
    (sortedIds ids).Pairwise ResourceId.Precedes :=
  (pairwise_sortedIds ids).and ((sortedIds_perm ids).nodup_iff.mpr h)

section Least

variable {dependencies failed : List ResourceId} {id : ResourceId}

/-- The first failed one among sorted nodes is the least one. -/
theorem least_of_find?_sortedIds (found : (sortedIds dependencies).find? (· ∈ failed) = some id) :
    id ∈ dependencies ∧ id ∈ failed ∧ ∀ other ∈ dependencies, other ∈ failed → id ≤ other := by
  obtain ⟨failing, first, rest, split, sound⟩ := List.find?_eq_some_iff_append.mp found
  have sorted := pairwise_sortedIds dependencies
  rw [split, List.pairwise_append, List.pairwise_cons] at sorted
  refine ⟨mem_sortedIds.mp (List.mem_of_find?_eq_some found), by simpa using failing, ?_⟩
  intro other member failed'
  rw [← mem_sortedIds, split, List.mem_append, List.mem_cons] at member
  rcases member with before | rfl | after
  · exact absurd failed' (by simpa using sound other before)
  · exact ResourceId.le_refl other
  · exact sorted.2.1.1 other after

theorem find?_sortedIds_eq_some_iff :
    (sortedIds dependencies).find? (· ∈ failed) = some id ↔
      id ∈ dependencies ∧ id ∈ failed ∧ ∀ other ∈ dependencies, other ∈ failed → id ≤ other := by
  constructor
  · exact least_of_find?_sortedIds
  · rintro ⟨member, failing, least⟩
    obtain ⟨first, found⟩ : ∃ first, (sortedIds dependencies).find? (· ∈ failed) = some first := by
      rw [← Option.isSome_iff_exists, List.find?_isSome]
      exact ⟨id, mem_sortedIds.mpr member, by simpa using failing⟩
    obtain ⟨member', failing', least'⟩ := least_of_find?_sortedIds found
    rw [found, ResourceId.le_antisymm (least' id member failing) (least first member' failing')]

/-- A node that looks for failed dependencies before it does work of its own fails as explained. -/
theorem explains_iff {α : Type} {property : α → Prop} {own : Except NodeError α} {failure : Failure}
    (tame : (∀ id ∈ dependencies, id ∉ failed) → NodeWork.Tame property own) :
    Topology.awaiting failed dependencies own = .error (.failure failure) ↔
      failure.Explains failed dependencies own := by
  cases found : (sortedIds dependencies).find? (· ∈ failed) with
  | some first =>
      rw [Topology.awaiting, found]
      cases failure with
      | dependency id =>
          rw [Failure.Explains, ← find?_sortedIds_eq_some_iff, found]
          simp
      | conflict conflict =>
          obtain ⟨member, failing, _⟩ := least_of_find?_sortedIds found
          simp only [Failure.Explains, Except.error.injEq, NodeError.failure.injEq, reduceCtorEq,
            false_iff, not_and]
          exact fun sound => absurd failing (sound first member)
  | none =>
      have sound : ∀ id ∈ dependencies, id ∉ failed := by simpa using found
      have tame := tame sound
      rw [Topology.awaiting_of_sound sound]
      cases failure with
      | dependency id =>
          have ne : own.map some ≠ .error (.failure (.dependency id)) := by
            intro same
            rw [Except.map_error_iff.mp same] at tame
            exact tame
          simp only [ne, false_iff]
          exact fun explains => sound id explains.1 explains.2.1
      | conflict conflict =>
          exact Except.map_error_iff.trans (and_iff_right sound).symm

end Least

namespace Resolution

variable {merger : PolicyMerger} {mode : ResolutionMode} {before after : Topology}
  {report : ResolutionReport} {id : ResourceId}

/-- The failures of a resolution of the nodes of one kind are those among these nodes. -/
theorem countP_failures (h : Resolution merger mode before after report) (kind : NodeKind) :
    report.failures.countP (·.node.nodeKind = kind) =
      (if .gateway = kind then (failuresAmong (sortedIds (after.idsOf .gateway))
        ((Pass.gateways merger).outcome after report.failedIds)).length else 0) +
      (if .httpRoute = kind then (failuresAmong (sortedIds (after.idsOf .httpRoute))
        ((Pass.routes merger).outcome after report.failedIds)).length else 0) +
      (if .backend = kind then (failuresAmong (sortedIds (after.idsOf .backend))
        ((Pass.backends merger).outcome after report.failedIds)).length else 0) := by
  have ofKind : ∀ kind, ∀ id ∈ sortedIds (after.idsOf kind), id.nodeKind = kind :=
    fun _ _ member => Topology.nodeKind_of_mem_idsOf (mem_sortedIds.mp member)
  rw [h.failures, List.countP_append, List.countP_append, countP_failuresAmong (ofKind _),
    countP_failuresAmong (ofKind _), countP_failuresAmong (ofKind _)]

theorem failed_order (h : Resolution merger mode before after report) :
    ∃ gateways routes backends : List ResourceId,
      report.failedIds = gateways ++ routes ++ backends ∧
      (∀ id ∈ gateways, id ∈ after.idsOf .gateway) ∧ gateways.Pairwise ResourceId.Precedes ∧
      (∀ id ∈ routes, id ∈ after.idsOf .httpRoute) ∧ routes.Pairwise ResourceId.Precedes ∧
      (∀ id ∈ backends, id ∈ after.idsOf .backend) ∧ backends.Pairwise ResourceId.Precedes := by
  have members : ∀ (kind : NodeKind) {α : Type} (outcome : ResourceId → Outcome α),
      ∀ id ∈ (failuresAmong (sortedIds (after.idsOf kind)) outcome).map (·.node),
        id ∈ after.idsOf kind := by
    intro kind α outcome id member
    exact mem_sortedIds.mp ((sublist_failuresAmong _ outcome).subset member)
  have ascending : ∀ (kind : NodeKind) {α : Type} (outcome : ResourceId → Outcome α),
      ((failuresAmong (sortedIds (after.idsOf kind)) outcome).map (·.node)).Pairwise
        ResourceId.Precedes := by
    intro kind α outcome
    exact (sortedIds_precedes (after.nodup_idsOf kind)).sublist (sublist_failuresAmong _ outcome)
  have split := congrArg (List.map NodeFailure.node) h.failures
  rw [List.map_append, List.map_append] at split
  exact ⟨_, _, _, split, members _ _, ascending _ _, members _ _, ascending _ _, members _ _,
    ascending _ _⟩

theorem failed_nodup (h : Resolution merger mode before after report) : report.failedIds.Nodup := by
  obtain ⟨gateways, routes, backends, split, ofGateways, gatewaysAscend, ofRoutes, routesAscend,
    ofBackends, backendsAscend⟩ := h.failed_order
  have distinct : ∀ {ids : List ResourceId}, ids.Pairwise ResourceId.Precedes → ids.Nodup :=
    fun ascend => ascend.imp fun precedes => precedes.2
  rw [split, List.nodup_append, List.nodup_append]
  refine ⟨⟨distinct gatewaysAscend, distinct routesAscend, ?_⟩, distinct backendsAscend, ?_⟩
  · rintro gateway member route member' rfl
    exact Topology.not_mem_idsOf (ofGateways _ member) (by decide) (ofRoutes _ member')
  · rintro id member backend member' rfl
    rcases List.mem_append.mp member with member | member
    · exact Topology.not_mem_idsOf (ofGateways _ member) (by decide) (ofBackends _ member')
    · exact Topology.not_mem_idsOf (ofRoutes _ member) (by decide) (ofBackends _ member')

theorem gateway_count (h : Resolution merger mode before after report) :
    report.gateways.resolved + report.gateways.skipped +
      report.failures.countP (·.node.nodeKind = .gateway) = (after.idsOf .gateway).length := by
  rw [h.countP_failures, ← (sortedIds_perm (after.idsOf .gateway)).length_eq, ← h.gateways.count]
  simp

theorem route_count (h : Resolution merger mode before after report) :
    report.routes.resolved + report.routes.skipped +
      report.failures.countP (·.node.nodeKind = .httpRoute) = (after.idsOf .httpRoute).length := by
  rw [h.countP_failures, ← (sortedIds_perm (after.idsOf .httpRoute)).length_eq, ← h.routes.count]
  simp

theorem backend_count (h : Resolution merger mode before after report) :
    report.backends.resolved + report.backends.skipped +
      report.failures.countP (·.node.nodeKind = .backend) = (after.idsOf .backend).length := by
  rw [h.countP_failures, ← (sortedIds_perm (after.idsOf .backend)).length_eq, ← h.backends.count]
  simp

/-- A node that held nothing before still holds nothing if it failed or came to nothing. -/
theorem unresolved_iff {α : Type} {ids : List ResourceId} {outcome : ResourceId → Outcome α}
    {start finish : ResourceId → Option α} {tally : Tally}
    (h : Settled mode ids outcome start finish tally) (empty : start id = none) (member : id ∈ ids)
    (failures : ∀ {failure}, ⟨id, failure⟩ ∈ report.failures ↔
      outcome id = .error (.failure failure)) :
    finish id = none ↔ id ∈ report.failedIds ∨ outcome id = .ok none := by
  rw [mem_failedIds_iff, h.held id member, empty, Option.or_none]
  simp only [failures]
  have passes := h.passes id member
  rcases found : outcome id with (failure | fault) | _ | policies
  · simp
  · rw [found] at passes
    cases passes
  · simp
  · simp

theorem gateway_unresolved (h : Resolution merger mode before after report)
    (empty : ∀ id, before.effective.get? id = none) (member : id ∈ after.idsOf .gateway) :
    after.effective.get? id = none ↔
      id ∈ report.failedIds ∨ after.target? .gatewayClass id = none := by
  rw [unresolved_iff h.gateways (empty id) (mem_sortedIds.mpr member)
    (h.gateway_failure_iff member)]
  exact or_congr_right
    ⟨Topology.classless_of_gatewayPolicies, Topology.gatewayPolicies_of_classless⟩

theorem route_unresolved (h : Resolution merger mode before after report)
    (empty : ∀ id, before.partitions.get? id = none) (member : id ∈ after.idsOf .httpRoute) :
    after.partitions.get? id = none ↔ id ∈ report.failedIds := by
  rw [unresolved_iff h.routes (empty id) (mem_sortedIds.mpr member) (h.route_failure_iff member),
    Topology.outcome_routes]
  exact or_iff_left Topology.awaiting_ne_none

theorem backend_unresolved (h : Resolution merger mode before after report)
    (empty : ∀ id, before.partitions.get? id = none) (member : id ∈ after.idsOf .backend) :
    after.partitions.get? id = none ↔ id ∈ report.failedIds := by
  rw [unresolved_iff h.backends (empty id) (mem_sortedIds.mpr member)
    (h.backend_failure_iff member), Topology.outcome_backends]
  exact or_iff_left Topology.awaiting_ne_none

end Resolution

namespace Topology

variable {merger : PolicyMerger} {admitted : Policy → Prop} {before : Topology}

/-- A gateway that fails has a class, and it fails for a conflict of its own. -/
theorem gatewayPolicies_failure_iff {topology : Topology} {id : ResourceId} {failure : Failure}
    (law : merger.RaisesOnlyConflicts admitted) (admits : topology.Admits admitted) :
    (topology.gatewayPolicies merger id).result = .error (.failure failure) ↔
      topology.target? .gatewayClass id ≠ none ∧ ∃ conflict, failure = .conflict conflict ∧
        (topology.gatewayPolicies merger id).result = .error (.failure (.conflict conflict)) := by
  constructor
  · intro failed
    refine ⟨fun classless => ?_, ?_⟩
    · rw [gatewayPolicies_of_classless classless] at failed
      cases failed
    · have tame := tame_gatewayPolicies law admits id
      rw [failed] at tame
      cases failure with
      | conflict conflict => exact ⟨conflict, rfl, failed⟩
      | dependency other => exact tame.elim
  · rintro ⟨_, conflict, rfl, failed⟩
    exact failed

/-- A best-effort resolution of a topology in which nothing is resolved yet comes to an end, and
exactly the nodes fail that have a conflict of their own or depend on a failed one. -/
theorem resolve_failure_closure (reachable : before.Reachable)
    (law : merger.RaisesOnlyConflicts admitted) (admits : before.Admits admitted)
    (noEffective : ∀ id, before.effective.get? id = none)
    (noPartitions : ∀ id, before.partitions.get? id = none) :
    ∃ report after, (resolve merger .bestEffort).run before = (.ok report, after) ∧
      FailureClosure merger before after report := by
  have coherent := reachable.coherent
  obtain ⟨report, after, run⟩ := resolve_bestEffort_total law coherent admits
  have h := resolution_of_run coherent run
  have nodes : ∀ kind, before.idsOf kind = after.idsOf kind := fun kind => (h.graph.idsOf kind).symm
  have work : ∀ id, before.gatewayPolicies merger id = after.gatewayPolicies merger id :=
    fun id => (gatewayPolicies_congr merger h.graph id).symm
  have classes : ∀ id, before.target? .gatewayClass id = after.target? .gatewayClass id :=
    fun id => (h.graph.target? _ id).symm
  refine ⟨report, after, run, ?_⟩
  exact {
    gateway_failure := by
      intro id member failure
      rw [nodes] at member
      rw [h.gateway_failure_iff member, classes, work]
      exact gatewayPolicies_failure_iff law (h.admits admits)
    route_failure := by
      intro id member failure
      rw [nodes] at member
      rw [h.route_failure_iff member, outcome_routes, ← h.graph.targets]
      exact explains_iff (h.tame_route law coherent admits)
    backend_failure := by
      intro id member failure
      rw [nodes] at member
      rw [h.backend_failure_iff member, outcome_backends, ← h.graph.sources]
      exact explains_iff (h.tame_backend law coherent admits)
    failed_order := by
      simp only [nodes]
      exact h.failed_order
    failed_nodup := h.failed_nodup
    gateway_unresolved := by
      intro id member
      rw [classes]
      exact h.gateway_unresolved noEffective (nodes _ ▸ member)
    route_unresolved := fun id member => h.route_unresolved noPartitions (nodes _ ▸ member)
    backend_unresolved := fun id member => h.backend_unresolved noPartitions (nodes _ ▸ member)
    gateway_resolved := by
      intro id member sound
      rw [work]
      exact h.gateway_of_sound coherent (nodes _ ▸ member) sound
    route_resolved := by
      intro id member sound
      obtain ⟨partitions, found, held, _⟩ := h.route_of_sound (nodes _ ▸ member) sound
      rw [found, held]
      rfl
    backend_resolved := by
      intro id member sound
      obtain ⟨partitions, found, held, _⟩ := h.backend_of_sound (nodes _ ▸ member) sound
      rw [found, held]
      rfl
    gateway_count := nodes _ ▸ h.gateway_count
    route_count := nodes _ ▸ h.route_count
    backend_count := nodes _ ▸ h.backend_count }

def quotaKind : MergeKind := ⟨"example.com", "Quota"⟩

def quotaFor (name targetKind target : String) (limit : Document) : Policy :=
  .manifest {
    manifest := .object [("apiVersion", .string "example.com/v1"), ("kind", .string "Quota"),
      ("metadata", .object [("name", .string name), ("namespace", .string "n")]),
      ("spec", .object [("targetRef", .object [("group", .string gatewayGroup),
        ("kind", .string targetKind), ("name", .string target)]), ("limit", limit)])]
    inherited := false }

theorem shaped_quotaFor (name targetKind target : String) (limit : Document) :
    (quotaFor name targetKind target limit).Shaped :=
  ⟨⟨_, rfl⟩, rfl, nofun⟩

def onlyQuota (policy : Policy) : PoliciesByKind := Table.empty.set quotaKind policy

def classQuota : Policy := quotaFor "p" "GatewayClass" "c" (.int 1)

def quotaClash : MergeConflict := ⟨quotaKind, .clash ⟨[.string "limit"], .int 1, .int 2⟩⟩

/-- A class with a quota that the last of its gateways contradicts, and a gateway without a class. A
route leads to the two sound gateways, another one to the last, and both to a backend. -/
def sharedRoute : Topology :=
  [Operation.insert (.gatewayClass ⟨"c", ""⟩), .insert (.gateway ⟨"n", "g", "c"⟩),
    .insert (.gateway ⟨"n", "h", "d"⟩), .insert (.gateway ⟨"n", "k", "c"⟩),
    .insert (.httpRoute ⟨"n", "r", [], []⟩), .insert (.httpRoute ⟨"n", "s", [], []⟩),
    .insert (.backend ⟨"n", "b", "", "Service"⟩),
    .connect .gatewayClass (.gateway "n" "g") (.gatewayClass "c"),
    .connect .gatewayClass (.gateway "n" "k") (.gatewayClass "c"),
    .connect .routeGateway (.httpRoute "n" "r") (.gateway "n" "h"),
    .connect .routeGateway (.httpRoute "n" "r") (.gateway "n" "g"),
    .connect .routeGateway (.httpRoute "n" "s") (.gateway "n" "k"),
    .connect .routeBackend (.httpRoute "n" "r") (.backend "" "Service" "n" "b"),
    .connect .routeBackend (.httpRoute "n" "s") (.backend "" "Service" "n" "b"),
    .attach classQuota, .attach (quotaFor "q" "Gateway" "k" (.int 2))].foldl Operation.apply .empty

theorem shaped_sharedRoute : sharedRoute.Admits Policy.Shaped := by
  intro id attachment stored
  have member := List.mem_map_of_mem (f := fun entry => entry.2.policy)
    (Table.mem_entries_iff.mpr stored)
  change attachment.policy ∈ [classQuota, quotaFor "q" "Gateway" "k" (.int 2)] at member
  simp only [List.mem_cons, List.not_mem_nil, or_false] at member
  rcases member with same | same
  · rw [same]
    exact shaped_quotaFor ..
  · rw [same]
    exact shaped_quotaFor ..

/-- A gateway fails that contradicts the quota of its class. -/
theorem gatewayPolicies_conflict {topology : Topology} {gateway gatewayClass : ResourceId}
    {policy : Policy} {name : String}
    (classed : topology.target? .gatewayClass gateway = some gatewayClass)
    (ofClass : topology.policiesOn (some gatewayClass) = [classQuota])
    (ofNameSpace : topology.policiesOn (topology.nameSpace? gateway) = [])
    (own : topology.policiesOn (some gateway) = [policy])
    (found : policy.id = .ok (.policy "example.com" "Quota" "n" name))
    (clashes : (KindMerger.specification.merge .levels classQuota policy).result =
      .error (.conflict quotaClash)) :
    (topology.gatewayPolicies MergerRegistry.specifications.toPolicyMerger gateway).result =
      .error (.failure (.conflict quotaClash)) := by
  rw [result_gatewayPolicies classed, levelOn_of_singleton ofClass rfl, levelOn_of_nil ofNameSpace,
    levelOn_of_singleton own found]
  change some <$> layered _ (onlyQuota classQuota) _ (onlyQuota policy) = _
  unfold onlyQuota
  rw [layered_singleton, Table.get?_set_self]
  change some <$> (_ <$> (KindMerger.specification.merge .levels classQuota _).result).mapError _ =
    _
  rw [clashes]
  rfl

theorem resolved_sharedRoute :
    (sharedRoute.gatewayPolicies MergerRegistry.specifications.toPolicyMerger
      (.gateway "n" "g")).result = .ok (some (onlyQuota classQuota)) := by
  have classed : sharedRoute.target? .gatewayClass (.gateway "n" "g") =
    some (.gatewayClass "c") := rfl
  have ofClass : sharedRoute.policiesOn (some (.gatewayClass "c")) = [classQuota] := rfl
  exact gatewayPolicies_of_class classed ofClass rfl rfl rfl

section SharedRoute

variable {after : Topology} {report : ResolutionReport} {mode : ResolutionMode}
  (h : Resolution MergerRegistry.specifications.toPolicyMerger mode sharedRoute after report)

include h

theorem outcome_gateway_sharedRoute (gateway : ResourceId) :
    (Pass.gateways MergerRegistry.specifications.toPolicyMerger).outcome after report.failedIds
      gateway = (sharedRoute.gatewayPolicies MergerRegistry.specifications.toPolicyMerger
        gateway).result := by
  rw [← gatewayPolicies_congr _ h.graph]
  rfl

/-- The last gateway is the first node that fails. -/
theorem failures_sharedRoute :
    ∃ rest, report.failures = ⟨.gateway "n" "k", .conflict quotaClash⟩ :: rest := by
  have gateways : (sharedRoute.idsOf .gateway).insertionSort (· ≤ ·) =
      [.gateway "n" "g", .gateway "n" "h", .gateway "n" "k"] := by decide
  have skipped := @gatewayPolicies_of_classless
    MergerRegistry.specifications.toPolicyMerger sharedRoute (.gateway "n" "h") rfl
  have classed : sharedRoute.target? .gatewayClass (.gateway "n" "k") =
    some (.gatewayClass "c") := rfl
  have own : sharedRoute.policiesOn (some (.gateway "n" "k")) =
    [quotaFor "q" "Gateway" "k" (.int 2)] := rfl
  have failed := gatewayPolicies_conflict classed rfl rfl own rfl rfl
  rw [h.failures, h.graph.idsOf, sortedIds_eq, gateways, failuresAmong]
  simp only [List.filterMap_cons, outcome_gateway_sharedRoute h, resolved_sharedRoute, skipped,
    failed]
  exact ⟨_, rfl⟩

/-- The other gateways do not fail. The one of the class holds its quota, and the one without a
class nothing. -/
theorem gateways_sharedRoute :
    (.gateway "n" "g" ∉ report.failedIds ∧
      after.effective.get? (.gateway "n" "g") = some (onlyQuota classQuota)) ∧
    .gateway "n" "h" ∉ report.failedIds ∧ after.effective.get? (.gateway "n" "h") = none := by
  have coherent : sharedRoute.Coherent := (Reachable.applyAll .empty _).coherent
  exact ⟨h.gateway_of_ok coherent (by decide) resolved_sharedRoute,
    h.gateway_of_ok coherent (by decide) (gatewayPolicies_of_classless rfl)⟩

/-- The route of the sound gateways gets the quota. -/
theorem partitions_sharedRoute : .httpRoute "n" "r" ∉ report.failedIds ∧
    after.partitions.get? (.httpRoute "n" "r") =
      some (Table.empty.set (.gateway "n" "g") (onlyQuota classQuota)) := by
  obtain ⟨⟨alive, resolved⟩, alive', skipped⟩ := gateways_sharedRoute h
  have gateways : (sharedRoute.targets .routeGateway (.httpRoute "n" "r")).insertionSort (· ≤ ·) =
      [.gateway "n" "g", .gateway "n" "h"] := by decide
  have items : after.gatewayItems (.httpRoute "n" "r") =
      [(.gateway "n" "g", onlyQuota classQuota)] := by
    rw [gatewayItems, h.graph.targets, sortedIds_eq, gateways]
    simp [resolved, skipped]
  have ofNameSpace : after.policiesOn (after.nameSpace? (.httpRoute "n" "r")) = [] := by
    rw [h.graph.policiesOn, h.graph.nameSpace?]
    rfl
  have own : after.policiesOn (some (.httpRoute "n" "r")) = [] := by
    rw [h.graph.policiesOn]
    rfl
  have parts := @routePartitions_of_singleton _ MergerRegistry.specifications _ _ _ _ items
    ofNameSpace (levelOn_of_nil own)
  rw [layered_empty] at parts
  refine h.route_of_ok (by decide) (fun gateway target => ?_) parts
  rw [← List.mem_insertionSort (· ≤ ·), gateways] at target
  simp only [List.mem_cons, List.not_mem_nil, or_false] at target
  rcases target with rfl | rfl
  · exact alive
  · exact alive'

end SharedRoute

/-- The gateway that contradicts its class fails for this conflict, its route and the backend on
account of it. The others come to the quota of the class or are skipped. -/
theorem resolve_failure_closure_sharedRoute : ∃ report after,
    (resolve MergerRegistry.specifications.toPolicyMerger .bestEffort).run sharedRoute =
      (.ok report, after) ∧
    FailureClosure MergerRegistry.specifications.toPolicyMerger sharedRoute after report ∧
    ⟨.gateway "n" "k", .conflict quotaClash⟩ ∈ report.failures ∧
    ⟨.httpRoute "n" "s", .dependency (.gateway "n" "k")⟩ ∈ report.failures ∧
    ⟨.backend "" "Service" "n" "b", .dependency (.httpRoute "n" "s")⟩ ∈ report.failures ∧
    after.effective.get? (.gateway "n" "g") = some (onlyQuota classQuota) ∧
    (.gateway "n" "h" ∉ report.failedIds ∧ after.effective.get? (.gateway "n" "h") = none) ∧
    after.partitions.get? (.httpRoute "n" "r") =
      some (Table.empty.set (.gateway "n" "g") (onlyQuota classQuota)) := by
  have reachable : sharedRoute.Reachable := .applyAll .empty _
  obtain ⟨report, after, run, closure⟩ := resolve_failure_closure reachable
    MergerRegistry.specifications_raisesOnlyConflicts shaped_sharedRoute (fun _ => rfl) fun _ => rfl
  have h := resolution_of_run reachable.coherent run
  obtain ⟨rest, failures⟩ := failures_sharedRoute h
  obtain ⟨⟨_, resolved⟩, skipped⟩ := gateways_sharedRoute h
  obtain ⟨alive, partitions⟩ := partitions_sharedRoute h
  have gateway : ⟨.gateway "n" "k", .conflict quotaClash⟩ ∈ report.failures := by
    rw [failures]
    exact List.mem_cons_self
  have route : ⟨.httpRoute "n" "s", .dependency (.gateway "n" "k")⟩ ∈ report.failures := by
    refine (closure.route_failure _ (by decide) _).mpr ⟨by decide, ?_, fun other member _ => ?_⟩
    · exact Resolution.mem_failedIds_iff.mpr ⟨_, gateway⟩
    · exact List.mem_singleton.mp member ▸ ResourceId.le_refl _
  have backend : ⟨.backend "" "Service" "n" "b", .dependency (.httpRoute "n" "s")⟩ ∈
      report.failures := by
    refine (closure.backend_failure _ (by decide) _).mpr ⟨by decide, ?_, fun other member failed =>
      ?_⟩
    · exact Resolution.mem_failedIds_iff.mpr ⟨_, route⟩
    · have member : other ∈ [ResourceId.httpRoute "n" "r", .httpRoute "n" "s"] := member
      simp only [List.mem_cons, List.not_mem_nil, or_false] at member
      rcases member with rfl | rfl
      · exact absurd failed alive
      · exact ResourceId.le_refl _
  exact ⟨report, after, run, closure, gateway, route, backend, resolved, skipped,
    partitions⟩

end Topology

end PolicyTopology
