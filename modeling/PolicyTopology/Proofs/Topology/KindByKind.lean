import PolicyTopology.Proofs.Topology.LevelPolicies
import PolicyTopology.Proofs.Topology.RouteOrder

/-!
# Resolution kind by kind

What the policies of one kind come to at a gateway, for a route and for a backend can be said
without the other kinds: levels are merged as peers, descendants are merged with what reaches them,
and a backend first reunites what its routes have. With any registry the work on a node does this
for each kind and nothing else, and it fails exactly if it fails for some kind.
-/

namespace PolicyTopology

namespace Topology

open MergerRegistry (joined mergeInPrecedence)
open Table (fill gather valuesAt)

variable {registry : MergerRegistry} {topology : Topology} {kind : MergeKind}
  {gatewayClass gateway route backend : ResourceId} {policies : PoliciesByKind}

/-- For one kind, what the two levels of a node over that of its ancestors come to. -/
def layersOf (registry : MergerRegistry) (kind : MergeKind)
    (ancestor ofNameSpace own : Option Policy) : Except MergeError (Option Policy) := do
  registry.chain kind (← registry.chain kind ancestor ofNameSpace) own

def gatewayPolicy (registry : MergerRegistry) (topology : Topology)
    (gatewayClass gateway : ResourceId) (kind : MergeKind) :
    Except MergeError (Option Policy) := do
  let ofClass ← peersOn registry topology kind (some gatewayClass)
  let ofNameSpace ← peersOn registry topology kind (topology.nameSpace? gateway)
  let own ← peersOn registry topology kind (some gateway)
  layersOf registry kind ofClass ofNameSpace own

def routePolicy (registry : MergerRegistry) (topology : Topology) (route : ResourceId)
    (policies : PoliciesByKind) (kind : MergeKind) : Except MergeError (Option Policy) := do
  let ofNameSpace ← peersOn registry topology kind (topology.nameSpace? route)
  let own ← peersOn registry topology kind (some route)
  layersOf registry kind (policies.get? kind) ofNameSpace own

def backendPolicy (registry : MergerRegistry) (topology : Topology) (backend gateway : ResourceId)
    (kind : MergeKind) : Except MergeError (Option Policy) := do
  let ofNameSpace ← peersOn registry topology kind (topology.nameSpace? backend)
  let own ← peersOn registry topology kind (some backend)
  let reunited ← registry.reunited kind (topology.peersAt backend gateway kind)
  layersOf registry kind reunited ofNameSpace own

def partEntry (partitions : Partitions) (key : ResourceId × MergeKind) : Option Policy :=
  PoliciesByKind.entry? (partitions.get? key.1) key.2

section Levels

theorem tabulates_layered (ancestors ofNameSpace own : PoliciesByKind) :
    Except.Tabulates (fun kind => (layersOf registry kind (ancestors.get? kind)
        (ofNameSpace.get? kind) (own.get? kind)).mapError MergeError.atNode) Table.get?
      (layered registry.toPolicyMerger ancestors ofNameSpace own) := by
  rw [layered_eq, Merging.result_atNode]
  simp only [Merging.result_atNode, ← Except.mapError_bind]
  refine .mapError _ ?_
  exact (MergerRegistry.tabulates_overlay ancestors ofNameSpace).bind _ fun middle _ =>
    MergerRegistry.tabulates_overlay middle own

theorem tabulates_layered_all (reconciled : Partitions) (ofNameSpace own : PoliciesByKind) :
    Except.Tabulates (fun gateway => (reconciled.get? gateway).elim (.ok none) fun base =>
        some <$> layered registry.toPolicyMerger base ofNameSpace own) Table.get?
      (fill (fun _ _ policies => layered registry.toPolicyMerger policies ofNameSpace own)
        reconciled.entries reconciled) := by
  refine .fill_const (fun gateway base => ?_) fun _ absent => absent
  rw [Table.valuesAt_of_perm (.refl _), Option.mem_toList]

/-- What the routes of a backend have for a gateway is reunited if there is some. -/
theorem tabulates_reunited (backend gateway : ResourceId)
    (reached : topology.visits backend gateway ≠ []) (ofNameSpace own : PoliciesByKind) :
    Except.Tabulates (fun kind => (do
        let reunited ← registry.reunited kind (topology.peersAt backend gateway kind)
        layersOf registry kind reunited (ofNameSpace.get? kind) (own.get? kind)).mapError
          MergeError.atNode)
      PoliciesByKind.entry?
      (gather (fun found policies =>
          (Merging.atNode (registry.toPolicyMerger.reconcile found policies)).result) none
          ((topology.visits backend gateway).map Prod.snd) >>= fun found =>
        found.elim (.ok none) fun base =>
          some <$> layered registry.toPolicyMerger base ofNameSpace own) := by
  simp only [Merging.result_atNode, Table.gather_mapError, Except.mapError_bind]
  have entries : ∀ kind, ((topology.visits backend gateway).map Prod.snd).filterMap (·.get? kind) =
      topology.peersAt backend gateway kind := fun kind => List.filterMap_map ..
  have reunites := @MergerRegistry.tabulates_gather_reconcile registry
    ((topology.visits backend gateway).map Prod.snd) none
  simp only [entries] at reunites
  refine (reunites.mapError _).bind _ fun found came => ?_
  obtain ⟨base, rfl⟩ := Table.exists_of_gather (by simpa using reached)
    (Except.mapError_ok_iff.mp came)
  exact (tabulates_layered base ofNameSpace own).map fun _ => rfl

variable (coherent : topology.Coherent) (once : topology.IndexedOnce)

include coherent once

theorem tabulates_levelOn (target : Option ResourceId) :
    Except.Tabulates (fun kind => (peersOn registry topology kind target).mapError
      MergeError.atNode) Table.get? (levelOn registry.toPolicyMerger topology target) := by
  unfold levelOn
  rw [Merging.result_atNode]
  exact (coherent.tabulates_level once registry target).mapError _

theorem tabulates_gateway (h : topology.target? .gatewayClass gateway = some gatewayClass) :
    Except.Tabulates (fun kind => (gatewayPolicy registry topology gatewayClass gateway
        kind).mapError MergeError.atNode) PoliciesByKind.entry?
      (topology.gatewayPolicies registry.toPolicyMerger gateway).result := by
  rw [result_gatewayPolicies h]
  unfold gatewayPolicy
  simp only [Except.mapError_bind]
  refine (tabulates_levelOn coherent once _).bind _ fun ofClass _ => ?_
  refine (tabulates_levelOn coherent once _).bind _ fun ofNameSpace _ => ?_
  refine (tabulates_levelOn coherent once _).bind _ fun own _ => ?_
  exact (tabulates_layered ofClass ofNameSpace own).map fun _ => rfl

/-- The levels of a node are read for every kind, whether or not there is anything below them. -/
theorem tabulates_levels (node : ResourceId)
    {rest : PoliciesByKind → PoliciesByKind → Except NodeError Partitions}
    {entry : ResourceId × MergeKind → Option Policy → Option Policy →
      Except MergeError (Option Policy)}
    (h : ∀ ofNameSpace own, Except.Tabulates (fun key => (entry key (ofNameSpace.get? key.2)
      (own.get? key.2)).mapError MergeError.atNode) partEntry (rest ofNameSpace own)) :
    Except.Tabulates (fun key => (do
        let ofNameSpace ← peersOn registry topology key.2 (topology.nameSpace? node)
        let own ← peersOn registry topology key.2 (some node)
        entry key ofNameSpace own).mapError MergeError.atNode) partEntry
      (levelOn registry.toPolicyMerger topology (topology.nameSpace? node) >>= fun ofNameSpace =>
        levelOn registry.toPolicyMerger topology (some node) >>= fun own =>
          rest ofNameSpace own) := by
  simp only [Except.mapError_bind]
  have surjective : (Prod.snd : ResourceId × MergeKind → MergeKind).Surjective :=
    fun kind => ⟨(node, kind), rfl⟩
  refine ((tabulates_levelOn coherent once _).comap surjective).bind _ fun ofNameSpace _ => ?_
  exact ((tabulates_levelOn coherent once _).comap surjective).bind _ fun own _ => h ofNameSpace own

theorem tabulates_route :
    Except.Tabulates (fun key => (do
        let ofNameSpace ← peersOn registry topology key.2 (topology.nameSpace? route)
        let own ← peersOn registry topology key.2 (some route)
        (topology.parentPolicies route key.1).elim (.ok none) fun policies =>
          layersOf registry key.2 (policies.get? key.2) ofNameSpace own).mapError MergeError.atNode)
      partEntry (topology.routePartitions registry.toPolicyMerger [] route).result := by
  rw [result_routePartitions]
  refine tabulates_levels coherent once route fun ofNameSpace own => ?_
  have values : ∀ gateway policies,
      policies ∈ valuesAt (topology.gatewayItems route) gateway ↔
        topology.parentPolicies route gateway = some policies := by
    intro gateway policies
    rw [Table.mem_valuesAt, mem_gatewayItems, parentPolicies_eq_some_iff]
  refine (Except.Tabulates.fill_const values fun _ _ => Table.get?_empty _).nest
    (fun gateway kind => ((topology.parentPolicies route gateway).elim (.ok none) fun policies =>
      layersOf registry kind (policies.get? kind) (ofNameSpace.get? kind)
        (own.get? kind)).mapError MergeError.atNode)
    PoliciesByKind.entry? fun gateway => ?_
  cases topology.parentPolicies route gateway with
  | none => exact fun _ => rfl
  | some policies => exact (tabulates_layered policies ofNameSpace own).map fun _ => rfl

theorem tabulates_backend :
    Except.Tabulates (fun key => (do
        let ofNameSpace ← peersOn registry topology key.2 (topology.nameSpace? backend)
        let own ← peersOn registry topology key.2 (some backend)
        if topology.visits backend key.1 = [] then .ok none else do
          let reunited ← registry.reunited key.2 (topology.peersAt backend key.1 key.2)
          layersOf registry key.2 reunited ofNameSpace own).mapError MergeError.atNode)
      partEntry (topology.backendPartitions registry.toPolicyMerger [] backend).result := by
  rw [result_backendPartitions]
  refine tabulates_levels coherent once backend fun ofNameSpace own => ?_
  have visited := Except.Tabulates.fill (fun _ found policies =>
    (Merging.atNode (registry.toPolicyMerger.reconcile found policies)).result)
    (topology.routeItems backend) .empty
  simp only [valuesAt_routeItems] at visited
  have parts := visited.bind (fun _ found => found.elim (.ok none) fun base =>
    some <$> layered registry.toPolicyMerger base ofNameSpace own) fun reconciled _ =>
      tabulates_layered_all reconciled ofNameSpace own
  refine parts.nest (fun gateway kind => (if topology.visits backend gateway = [] then
      (.ok none : Except MergeError (Option Policy)) else do
        let reunited ← registry.reunited kind (topology.peersAt backend gateway kind)
        layersOf registry kind reunited (ofNameSpace.get? kind) (own.get? kind)).mapError
      MergeError.atNode) PoliciesByKind.entry? fun gateway => ?_
  by_cases reached : topology.visits backend gateway = []
  · simp only [reached, if_true]
    exact fun _ => rfl
  · simp only [reached, if_false]
    exact tabulates_reunited backend gateway reached ofNameSpace own

end Levels

/-- The policies of a kind at one of the two levels of a node cannot be merged. -/
def LevelsFail (registry : MergerRegistry) (topology : Topology) (node : ResourceId)
    (kind : MergeKind) : Prop :=
  (∃ error, peersOn registry topology kind (topology.nameSpace? node) = .error error) ∨
    ∃ error, peersOn registry topology kind (some node) = .error error

/-- The work on nodes is the work on each kind: it fails exactly if the work on some kind fails, and
otherwise comes to what the work on each kind comes to. -/
structure KindByKind (registry : MergerRegistry) (topology : Topology) : Prop where
  gateway_fails_iff : ∀ {gateway gatewayClass},
    topology.target? .gatewayClass gateway = some gatewayClass →
      ((∃ error, (topology.gatewayPolicies registry.toPolicyMerger gateway).result =
          .error error) ↔
        ∃ kind error, gatewayPolicy registry topology gatewayClass gateway kind = .error error)
  gateway_entry : ∀ {gateway gatewayClass held},
    topology.target? .gatewayClass gateway = some gatewayClass →
      (topology.gatewayPolicies registry.toPolicyMerger gateway).result = .ok held →
        ∃ policies, held = some policies ∧
          ∀ kind, gatewayPolicy registry topology gatewayClass gateway kind =
            .ok (policies.get? kind)
  route_fails_iff : ∀ {failed route},
    (∃ error, (topology.routePartitions registry.toPolicyMerger failed route).result =
        .error error) ↔
      (∃ gateway ∈ topology.targets .routeGateway route, gateway ∈ failed) ∨
      (∃ kind, LevelsFail registry topology route kind) ∨
      ∃ gateway ∈ topology.targets .routeGateway route, ∃ policies,
        topology.effective.get? gateway = some policies ∧
          ∃ kind error, routePolicy registry topology route policies kind = .error error
  route_part_iff : ∀ {failed route partitions gateway},
    (topology.routePartitions registry.toPolicyMerger failed route).result = .ok partitions →
      ((∃ part, partitions.get? gateway = some part) ↔
        gateway ∈ topology.targets .routeGateway route ∧
          ∃ policies, topology.effective.get? gateway = some policies)
  route_entry : ∀ {failed route partitions gateway part policies},
    (topology.routePartitions registry.toPolicyMerger failed route).result = .ok partitions →
      partitions.get? gateway = some part → topology.effective.get? gateway = some policies →
        ∀ kind, routePolicy registry topology route policies kind = .ok (part.get? kind)
  backend_fails_iff : ∀ {failed backend},
    (∃ error, (topology.backendPartitions registry.toPolicyMerger failed backend).result =
        .error error) ↔
      (∃ route ∈ topology.sources .routeBackend backend, route ∈ failed) ∨
      (∃ kind, LevelsFail registry topology backend kind) ∨
      ∃ gateway, topology.RouteHasPart backend gateway ∧
        ∃ kind error, backendPolicy registry topology backend gateway kind = .error error
  backend_part_iff : ∀ {failed backend partitions gateway},
    (topology.backendPartitions registry.toPolicyMerger failed backend).result = .ok partitions →
      ((∃ part, partitions.get? gateway = some part) ↔ topology.RouteHasPart backend gateway)
  backend_entry : ∀ {failed backend partitions gateway part},
    (topology.backendPartitions registry.toPolicyMerger failed backend).result = .ok partitions →
      partitions.get? gateway = some part →
        ∀ kind, backendPolicy registry topology backend gateway kind = .ok (part.get? kind)

section Nodes

variable {α : Type} {failed dependencies : List ResourceId} {work : NodeWork α}

theorem fails_requireSound_iff :
    (∃ error, (requireSound failed (sortedIds dependencies) >>= fun _ => work).result =
        .error error) ↔
      (∃ id ∈ dependencies, id ∈ failed) ∨ ∃ error, work.result = .error error := by
  cases found : (sortedIds dependencies).find? (· ∈ failed) with
  | some id =>
      rw [requireSound_of_failed found]
      have member := mem_sortedIds.mp (List.mem_of_find?_eq_some found)
      have among : id ∈ failed := by simpa using List.find?_some found
      exact ⟨fun _ => .inl ⟨id, member, among⟩, fun _ => ⟨_, rfl⟩⟩
  | none =>
      have sound : ∀ id ∈ sortedIds dependencies, id ∉ failed := by simpa using found
      rw [requireSound_of_sound sound, pure_bind]
      refine ⟨.inr, fun h => h.resolve_left ?_⟩
      rintro ⟨id, member, among⟩
      exact sound id (mem_sortedIds.mpr member) among

theorem ok_of_requireSound {value : α}
    (h : (requireSound failed (sortedIds dependencies) >>= fun _ => work).result = .ok value) :
    work.result = .ok value := by
  rw [Traced.result_bindM] at h
  obtain ⟨_, _, found⟩ := Except.bind_ok_iff.mp h
  exact found

theorem levels_error_iff {first second : Except MergeError (Option Policy)} :
    (∃ error, (first >>= fun _ => second >>= fun _ => .ok none :
        Except MergeError (Option Policy)) = .error error) ↔
      (∃ error, first = .error error) ∨ ∃ error, second = .error error := by
  cases first with
  | error error => exact ⟨fun _ => .inl ⟨error, rfl⟩, fun _ => ⟨error, rfl⟩⟩
  | ok _ =>
      cases second with
      | error error => exact ⟨fun _ => .inr ⟨error, rfl⟩, fun _ => ⟨error, rfl⟩⟩
      | ok _ =>
          constructor
          · exact fun ⟨_, failed⟩ => nomatch failed
          · exact fun failed => failed.elim (fun ⟨_, failed⟩ => nomatch failed)
              fun ⟨_, failed⟩ => nomatch failed

theorem error_of_levels {first second : Except MergeError (Option Policy)}
    {rest : Option Policy → Option Policy → Except MergeError (Option Policy)}
    (h : (∃ error, first = .error error) ∨ ∃ error, second = .error error) :
    ∃ error, (first >>= fun ofNameSpace => second >>= fun own => rest ofNameSpace own) =
      .error error := by
  rcases h with ⟨error, rfl⟩ | ⟨error, rfl⟩
  · exact ⟨error, rfl⟩
  · cases first with
    | error error => exact ⟨error, rfl⟩
    | ok _ => exact ⟨error, rfl⟩

variable (coherent : topology.Coherent) (once : topology.IndexedOnce)

include coherent once

theorem route_fails_iff : (∃ error,
    (topology.routePartitions registry.toPolicyMerger [] route).result = .error error) ↔
      (∃ kind, LevelsFail registry topology route kind) ∨
      ∃ gateway ∈ topology.targets .routeGateway route, ∃ policies,
        topology.effective.get? gateway = some policies ∧
          ∃ kind error, routePolicy registry topology route policies kind = .error error := by
  rw [(tabulates_route coherent once).error_iff_of_mapError]
  constructor
  · rintro ⟨⟨gateway, kind⟩, failed⟩
    cases found : topology.parentPolicies route gateway with
    | none =>
        simp only [found, Option.elim_none] at failed
        exact .inl ⟨kind, levels_error_iff.mp failed⟩
    | some policies =>
        obtain ⟨target, held⟩ := parentPolicies_eq_some_iff.mp found
        simp only [found, Option.elim_some] at failed
        exact .inr ⟨gateway, target, policies, held, kind, failed⟩
  · rintro (⟨kind, failed⟩ | ⟨gateway, target, policies, held, kind, failed⟩)
    · exact ⟨(route, kind), error_of_levels failed⟩
    · refine ⟨(gateway, kind), ?_⟩
      simp only [parentPolicies_eq_some_iff.mpr ⟨target, held⟩, Option.elim_some]
      exact failed

theorem backend_fails_iff : (∃ error,
    (topology.backendPartitions registry.toPolicyMerger [] backend).result = .error error) ↔
      (∃ kind, LevelsFail registry topology backend kind) ∨
      ∃ gateway, topology.RouteHasPart backend gateway ∧
        ∃ kind error, backendPolicy registry topology backend gateway kind = .error error := by
  simp only [(tabulates_backend coherent once).error_iff_of_mapError, ← visits_ne_nil_iff]
  constructor
  · rintro ⟨⟨gateway, kind⟩, failed⟩
    by_cases reached : topology.visits backend gateway = []
    · simp only [reached, if_true] at failed
      exact .inl ⟨kind, levels_error_iff.mp failed⟩
    · simp only [reached, if_false] at failed
      exact .inr ⟨gateway, reached, kind, failed⟩
  · rintro (⟨kind, failed⟩ | ⟨gateway, reached, kind, failed⟩)
    · exact ⟨(backend, kind), error_of_levels failed⟩
    · refine ⟨(gateway, kind), ?_⟩
      simp only [reached, if_false]
      exact failed

/-- What is worked out in any topology is worked out kind by kind. -/
theorem kindByKind (registry : MergerRegistry) : KindByKind registry topology where
  gateway_fails_iff classed := (tabulates_gateway coherent once classed).error_iff_of_mapError
  gateway_entry {gateway gatewayClass held} classed found := by
    have entry := (tabulates_gateway coherent once classed).ok_of_mapError found
    cases held with
    | none => exact nomatch (classless_of_gatewayPolicies found).symm.trans classed
    | some policies => exact ⟨policies, rfl, entry⟩
  route_fails_iff {failed route} := by
    rw [routePartitions_eq, fails_requireSound_iff, route_fails_iff coherent once]
  route_part_iff {failed route partitions gateway} found := by
    rw [routePartitions_eq] at found
    obtain ⟨_, _, parts⟩ := routeParts_of_ok (ok_of_requireSound found)
    exact parts.part_iff
  route_entry {failed route partitions gateway part policies} found stored held kind := by
    rw [routePartitions_eq] at found
    have found := ok_of_requireSound found
    obtain ⟨_, _, parts⟩ := routeParts_of_ok found
    have entry := (tabulates_route coherent once).ok_of_mapError found (gateway, kind)
    simp only [parentPolicies_eq_some_iff.mpr ⟨(parts.part stored).1, held⟩, partEntry, stored,
      Option.elim_some] at entry
    exact entry
  backend_fails_iff {failed backend} := by
    rw [backendPartitions_eq, fails_requireSound_iff, backend_fails_iff coherent once]
  backend_part_iff {failed backend partitions gateway} found := by
    rw [backendPartitions_eq] at found
    obtain ⟨_, _, _, parts⟩ := backendParts_of_ok (ok_of_requireSound found)
    rw [parts.part_iff, visits_ne_nil_iff]
  backend_entry {failed backend partitions gateway part} found stored kind := by
    rw [backendPartitions_eq] at found
    have found := ok_of_requireSound found
    obtain ⟨_, _, _, parts⟩ := backendParts_of_ok found
    have entry := (tabulates_backend coherent once).ok_of_mapError found (gateway, kind)
    simp only [parts.part_iff.mp ⟨part, stored⟩, partEntry, stored, if_false] at entry
    exact entry

end Nodes

end Topology

end PolicyTopology
