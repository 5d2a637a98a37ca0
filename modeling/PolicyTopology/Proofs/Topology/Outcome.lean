import PolicyTopology.Proofs.Topology.Pass
import PolicyTopology.Proofs.Topology.Reads

/-!
# Outcomes of nodes

What the work on a gateway, route or backend depends on, and how it begins. Each of the three passes
is lawful: it reads results of the pass before it only. A node that depends on failed ones fails on
account of the least of them; otherwise it comes to what its own policies make of the results that
it reads.
-/

namespace PolicyTopology

namespace Topology

variable {before after : Topology} {failed failed' : List ResourceId}

theorem SameGraph.sameLevel (h : before.SameGraph after) (merger : PolicyMerger)
    (target : Option ResourceId) : SameLevel merger before after target :=
  congrArg merger.mergeLevel (h.policiesOn target)

theorem SameGraph.nodeAgrees (h : before.SameGraph after) (merger : PolicyMerger)
    (id : ResourceId) : NodeAgrees (SameLevel merger before after) before after id :=
  ⟨h.nameSpace? id, h.sameLevel merger _, h.sameLevel merger _⟩

theorem gatewayPolicies_congr (merger : PolicyMerger) (h : before.SameGraph after)
    (gateway : ResourceId) :
    after.gatewayPolicies merger gateway = before.gatewayPolicies merger gateway :=
  gatewayPolicies_of_agrees ⟨h.nodeAgrees merger gateway, h.target? _ _, h.sameLevel merger _⟩

theorem routePartitions_congr (merger : PolicyMerger) (coherent : before.Coherent)
    (h : before.AgreeOn .gateway failed after failed') (route : ResourceId) :
    after.routePartitions merger failed' route = before.routePartitions merger failed route := by
  have ofKind : ∀ gateway ∈ before.targets .routeGateway route, gateway.nodeKind = .gateway :=
    fun gateway member =>
      nodeKind_of_mem_idsOf (coherent.gateway_of_target member)
  exact routePartitions_of_agrees (h.nodeAgrees merger route) (.of_eq (h.targets _ _))
    (fun gateway member => h.failed (ofKind gateway member))
    fun gateway member => h.effective (ofKind gateway member)

theorem backendPartitions_congr (merger : PolicyMerger) (coherent : before.Coherent)
    (h : before.AgreeOn .httpRoute failed after failed') (backend : ResourceId) :
    after.backendPartitions merger failed' backend =
      before.backendPartitions merger failed backend := by
  have ofKind : ∀ route ∈ before.sources .routeBackend backend, route.nodeKind = .httpRoute :=
    fun route member =>
      nodeKind_of_mem_idsOf (coherent.route_of_source member)
  exact backendPartitions_of_agrees (h.nodeAgrees merger backend) (.of_eq (h.sources _ _))
    (fun route member => h.failed (ofKind route member))
    fun route member => h.partitions (ofKind route member)

end Topology

namespace Pass

def heldEffective (topology : Topology) (id : ResourceId) : Option PoliciesByKind :=
  topology.effective.get? id

def heldPartitions (topology : Topology) (id : ResourceId) : Option Partitions :=
  topology.partitions.get? id

theorem gateways_lawful (merger : PolicyMerger) :
    (gateways merger).Lawful .gatewayClass heldEffective where
  reads_ne := show NodeKind.gatewayClass ≠ .gateway by decide
  held_record _ _ := rfl
  held_store _ _ _ _ := Table.get?_set ..
  storedAt topology id policies ofKind := by
    refine ⟨⟨rfl, rfl, rfl, rfl, rfl⟩, fun other => ?_, fun _ => rfl⟩
    exact Table.get?_set_ne _ _ fun same => other (same ▸ ofKind)
  coherent {topology failed id policies} coherent h := by
    refine { coherent with effective_classed := fun {gateway} stored => ?_ }
    change (topology.effective.set id policies).get? gateway ≠ none at stored
    rw [Table.get?_set] at stored
    split at stored
    · next same =>
      subst same
      intro (classless : topology.target? .gatewayClass id = none)
      change (topology.gatewayPolicies merger id).result = _ at h
      unfold Topology.gatewayPolicies at h
      rw [classless] at h
      cases h
    · exact coherent.effective_classed stored
  compute_congr _ h := congrArg _ (Topology.gatewayPolicies_congr merger h.toSameGraph _)

theorem storePartitions_storedAt (kind : NodeKind) (topology : Topology) {id : ResourceId}
    (partitions : Partitions) (ofKind : id.nodeKind = kind) :
    topology.StoredAt kind (storePartitions topology id partitions) := by
  refine ⟨⟨rfl, rfl, rfl, rfl, rfl⟩, fun _ => rfl, fun other => ?_⟩
  exact Table.get?_set_ne _ _ fun same => other (same ▸ ofKind)

theorem routes_lawful (merger : PolicyMerger) : (routes merger).Lawful .gateway heldPartitions where
  reads_ne := show NodeKind.gateway ≠ .httpRoute by decide
  held_record _ _ := rfl
  held_store _ _ _ _ := Table.get?_set ..
  storedAt topology _ partitions ofKind := storePartitions_storedAt _ topology partitions ofKind
  coherent coherent _ := coherent.congr ..
  compute_congr coherent h :=
    congrArg (fun work => (some <$> work : NodeWork _).result)
      (Topology.routePartitions_congr merger coherent h _)

theorem backends_lawful (merger : PolicyMerger) :
    (backends merger).Lawful .httpRoute heldPartitions where
  reads_ne := show NodeKind.httpRoute ≠ .backend by decide
  held_record _ _ := rfl
  held_store _ _ _ _ := Table.get?_set ..
  storedAt topology _ partitions ofKind := storePartitions_storedAt _ topology partitions ofKind
  coherent coherent _ := coherent.congr ..
  compute_congr coherent h :=
    congrArg (fun work => (some <$> work : NodeWork _).result)
      (Topology.backendPartitions_congr merger coherent h _)

end Pass

namespace Topology

variable {merger : PolicyMerger} {topology : Topology} {failed : List ResourceId} {id : ResourceId}

theorem requireSound_of_sound {dependencies : List ResourceId}
    (sound : ∀ id ∈ dependencies, id ∉ failed) : requireSound failed dependencies = pure () := by
  unfold requireSound
  rw [List.find?_eq_none.mpr (by simpa using sound)]

theorem requireSound_of_failed {dependencies : List ResourceId}
    (found : dependencies.find? (· ∈ failed) = some id) :
    requireSound failed dependencies = Traced.fail (.failure (.dependency id)) := by
  unfold requireSound
  rw [found]

/-- The work on a route is that without failed nodes, once its gateways are found sound. -/
theorem routePartitions_eq (route : ResourceId) :
    topology.routePartitions merger failed route =
      requireSound failed (sortedIds (topology.targets .routeGateway route)) >>= fun _ =>
        topology.routePartitions merger [] route := by
  unfold routePartitions
  dsimp only
  rw [requireSound_of_sound fun _ _ => List.not_mem_nil, pure_bind]

/-- The work on a backend is that without failed nodes, once its routes are found sound. -/
theorem backendPartitions_eq (backend : ResourceId) :
    topology.backendPartitions merger failed backend =
      requireSound failed (sortedIds (topology.sources .routeBackend backend)) >>= fun _ =>
        topology.backendPartitions merger [] backend := by
  unfold backendPartitions
  dsimp only
  rw [requireSound_of_sound fun _ _ => List.not_mem_nil, pure_bind]

theorem gatewayPolicies_of_classless {gateway : ResourceId}
    (h : topology.target? .gatewayClass gateway = none) :
    (topology.gatewayPolicies merger gateway).result = .ok none := by
  unfold gatewayPolicies
  rw [h]
  rfl

/-- Only a gateway without a class comes to nothing. -/
theorem classless_of_gatewayPolicies {gateway : ResourceId}
    (h : (topology.gatewayPolicies merger gateway).result = .ok none) :
    topology.target? .gatewayClass gateway = none := by
  unfold gatewayPolicies at h
  cases classes : topology.target? .gatewayClass gateway with
  | none => rfl
  | some gatewayClass =>
      rw [classes] at h
      simp only [Traced.result_bindM, Except.bind_ok_iff, Traced.result_map, Except.map_ok_iff] at h
      obtain ⟨_, _, _, _, _, _, _, _, impossible⟩ := h
      cases impossible

/-- What a node comes to that depends on others: the first of these that failed, or else what the
work of its own comes to. -/
def awaiting {α : Type} (failed dependencies : List ResourceId) (own : Except NodeError α) :
    Outcome α :=
  match (sortedIds dependencies).find? (· ∈ failed) with
  | some id => .error (.failure (.dependency id))
  | none => own.map some

section Awaiting

variable {α : Type} {dependencies : List ResourceId} {own : Except NodeError α}

theorem awaiting_of_sound (sound : ∀ id ∈ dependencies, id ∉ failed) :
    awaiting failed dependencies own = own.map some := by
  have none : (sortedIds dependencies).find? (· ∈ failed) = none := by simpa using sound
  rw [awaiting, none]

theorem awaiting_ok_iff {result : Option α} : awaiting failed dependencies own = .ok result ↔
    (∀ id ∈ dependencies, id ∉ failed) ∧ ∃ value, own = .ok value ∧ some value = result := by
  cases found : (sortedIds dependencies).find? (· ∈ failed) with
  | some id =>
      have member := mem_sortedIds.mp (List.mem_of_find?_eq_some found)
      have among : id ∈ failed := by simpa using List.find?_some found
      rw [awaiting, found]
      exact ⟨nofun, fun h => absurd among (h.1 id member)⟩
  | none =>
      have sound : ∀ id ∈ dependencies, id ∉ failed := by simpa using found
      rw [awaiting_of_sound sound]
      exact Except.map_ok_iff.trans (and_iff_right sound).symm

theorem awaiting_ne_none : awaiting failed dependencies own ≠ .ok none := by
  intro none
  obtain ⟨_, _, _, impossible⟩ := awaiting_ok_iff.mp none
  cases impossible

/-- A conflict is one of the work of its own. -/
theorem sound_of_awaiting_conflict {conflict : MergeConflict}
    (h : awaiting failed dependencies own = .error (.failure (.conflict conflict))) :
    ∀ id ∈ dependencies, id ∉ failed := by
  unfold awaiting at h
  split at h
  · cases h
  · next none => simpa using none

theorem awaiting_congr {failed' dependencies' : List ResourceId} {own' : Except NodeError α}
    (perm : dependencies'.Perm dependencies)
    (failed_iff : ∀ id ∈ dependencies, id ∈ failed' ↔ id ∈ failed)
    (own_eq : (∀ id ∈ dependencies, id ∉ failed) → own' = own) :
    awaiting failed' dependencies' own' = awaiting failed dependencies own := by
  unfold awaiting
  rw [sortedIds_congr perm, List.find?_congr fun id member =>
    decide_eq_decide.mpr (failed_iff id (mem_sortedIds.mp member))]
  cases found : (sortedIds dependencies).find? (· ∈ failed) with
  | some id => rfl
  | none => rw [own_eq (by simpa using found)]

theorem result_of_requireSound (work : NodeWork α) :
    (some <$> (requireSound failed (sortedIds dependencies) >>= fun _ => work)).result =
      awaiting failed dependencies work.result := by
  rw [Traced.result_map, Traced.result_bindM, awaiting]
  cases found : (sortedIds dependencies).find? (· ∈ failed) with
  | some id =>
      rw [requireSound_of_failed found]
      rfl
  | none =>
      rw [requireSound_of_sound (by simpa using found)]
      rfl

end Awaiting

/-- A route comes to what its own policies make of those of its gateways. -/
theorem outcome_routes (topology : Topology) (route : ResourceId) :
    (Pass.routes merger).outcome topology failed route =
      awaiting failed (topology.targets .routeGateway route)
        (topology.routePartitions merger [] route).result := by
  change (some <$> topology.routePartitions merger failed route : NodeWork _).result = _
  rw [routePartitions_eq]
  exact result_of_requireSound _

/-- A backend comes to what its own policies make of those of its routes. -/
theorem outcome_backends (topology : Topology) (backend : ResourceId) :
    (Pass.backends merger).outcome topology failed backend =
      awaiting failed (topology.sources .routeBackend backend)
        (topology.backendPartitions merger [] backend).result := by
  change (some <$> topology.backendPartitions merger failed backend : NodeWork _).result = _
  rw [backendPartitions_eq]
  exact result_of_requireSound _

end Topology

end PolicyTopology
