import PolicyTopology.Proofs.Filling
import PolicyTopology.Proofs.Policy.ByKind
import PolicyTopology.Proofs.Topology.Outcome

/-!
# The levels of a node

What the work on a node is made of, for any merger: the levels that are merged as peers, the order
in which they are laid over each other, and for each gateway of a route or backend what its part
comes from.
-/

namespace PolicyTopology

/-- A loop over lists of items is a loop over all their items. -/
theorem foldlM_flatMap {m : Type → Type} [Monad m] [LawfulMonad m] {α β σ : Type}
    (step : σ → β → m σ) (f : α → List β) (items : List α) (start : σ) :
    (items.flatMap f).foldlM step start =
      items.foldlM (fun state item => (f item).foldlM step state) start := by
  induction items generalizing start with
  | nil => rfl
  | cons item rest ih =>
      rw [List.flatMap_cons, List.foldlM_append, List.foldlM_cons]
      congr 1
      funext state
      exact ih state

def MergeError.atNode : MergeError → NodeError
  | .conflict found => .failure (.conflict found)
  | .fault found => .fault found

theorem Merging.result_atNode {α : Type} (merging : Merging α) :
    (Merging.atNode merging).result = merging.result.mapError MergeError.atNode := rfl

namespace Topology

open Table (fill gather valuesAt)

variable {merger : PolicyMerger} {topology : Topology}

def layered (merger : PolicyMerger) (ancestors ofNameSpace own : PoliciesByKind) :
    Except NodeError PoliciesByKind := (overlayLevels merger ancestors ofNameSpace own).result

theorem layered_eq (ancestors ofNameSpace own : PoliciesByKind) :
    layered merger ancestors ofNameSpace own =
      (Merging.atNode (merger.overlay ancestors ofNameSpace)).result >>= fun middle =>
        (Merging.atNode (merger.overlay middle own)).result := by
  unfold layered overlayLevels
  rw [Traced.result_bindM]

def levelOn (merger : PolicyMerger) (topology : Topology) (target : Option ResourceId) :
    Except NodeError PoliciesByKind :=
  (Merging.atNode (merger.mergeLevel (topology.policiesOn target))).result

theorem result_gatewayPolicies {gateway gatewayClass : ResourceId}
    (h : topology.target? .gatewayClass gateway = some gatewayClass) :
    (topology.gatewayPolicies merger gateway).result =
      levelOn merger topology (some gatewayClass) >>= fun ofClass =>
      levelOn merger topology (topology.nameSpace? gateway) >>= fun ofNameSpace =>
      levelOn merger topology (some gateway) >>= fun own =>
      some <$> layered merger ofClass ofNameSpace own := by
  unfold gatewayPolicies
  rw [h]
  simp only [Traced.result_bindM, Traced.result_map]
  rfl

def gatewayItems (topology : Topology) (route : ResourceId) : List (ResourceId × PoliciesByKind) :=
  (sortedIds (topology.targets .routeGateway route)).filterMap fun gateway =>
    (topology.effective.get? gateway).map (gateway, ·)

theorem result_routePartitions (route : ResourceId) :
    (topology.routePartitions merger [] route).result =
      levelOn merger topology (topology.nameSpace? route) >>= fun ofNameSpace =>
      levelOn merger topology (some route) >>= fun own =>
      fill (fun _ _ policies => layered merger policies ofNameSpace own)
        (topology.gatewayItems route) .empty := by
  unfold routePartitions
  dsimp only
  rw [requireSound_of_sound fun _ _ => List.not_mem_nil, pure_bind]
  simp only [Traced.result_bindM, Traced.result_foldlM]
  congr 1
  funext ofNameSpace
  congr 1
  funext own
  unfold fill gatewayItems
  rw [List.foldlM_filterMap]
  refine Traced.foldlM_congr (fun gateway _ result => ?_) _
  cases topology.effective.get? gateway with
  | none => rfl
  | some policies =>
      change (overlayLevels merger policies ofNameSpace own >>= fun part =>
        pure (result.set gateway part)).result = _
      rw [bind_pure_comp, Traced.result_map]
      rfl

section Registry

variable {registry : MergerRegistry} {target : Option ResourceId}

theorem levelOn_of_nil (none : topology.policiesOn target = []) :
    levelOn registry.toPolicyMerger topology target = .ok .empty := by
  rw [levelOn, none]
  exact congrArg (Except.mapError _) MergerRegistry.result_mergeLevel_nil

theorem levelOn_of_singleton {policy : Policy} {id : ResourceId}
    (only : topology.policiesOn target = [policy]) (found : policy.id = .ok id) :
    levelOn registry.toPolicyMerger topology target =
      .ok (Table.empty.set (MergerRegistry.kindOf id) policy) := by
  rw [levelOn, only]
  exact congrArg (Except.mapError _) (MergerRegistry.result_mergeLevel_singleton found)

/-- Levels without policies change nothing. -/
theorem layered_empty (ancestors : PoliciesByKind) :
    layered registry.toPolicyMerger ancestors .empty .empty = .ok ancestors := by
  have unchanged : (registry.overlay ancestors .empty).result = .ok ancestors :=
    MergerRegistry.result_overlay_empty ancestors
  rw [layered_eq, Merging.result_atNode]
  change (registry.overlay ancestors .empty).result.mapError _ >>= _ = _
  rw [unchanged]
  exact congrArg (Except.mapError _) unchanged

/-- A single policy of a node's own is laid over what its ancestors have of the kind. -/
theorem layered_singleton (ancestors : PoliciesByKind) (kind : MergeKind) (policy : Policy) :
    layered registry.toPolicyMerger ancestors .empty (Table.empty.set kind policy) =
      (ancestors.set kind <$> MergerRegistry.joined (fun parent policy =>
        ((registry.mergerFor kind).merge .levels parent policy).result)
        (ancestors.get? kind) policy).mapError MergeError.atNode := by
  rw [layered_eq, Merging.result_atNode]
  change (registry.overlay ancestors .empty).result.mapError _ >>= _ = _
  rw [MergerRegistry.result_overlay_empty]
  exact congrArg (Except.mapError _) (MergerRegistry.result_overlay_singleton ancestors kind policy)

/-- A gateway that only its class has a policy for comes to this policy. -/
theorem gatewayPolicies_of_class {gateway gatewayClass id : ResourceId} {policy : Policy}
    (classed : topology.target? .gatewayClass gateway = some gatewayClass)
    (ofClass : topology.policiesOn (some gatewayClass) = [policy]) (found : policy.id = .ok id)
    (ofNameSpace : topology.policiesOn (topology.nameSpace? gateway) = [])
    (own : topology.policiesOn (some gateway) = []) :
    (topology.gatewayPolicies registry.toPolicyMerger gateway).result =
      .ok (some (Table.empty.set (MergerRegistry.kindOf id) policy)) := by
  rw [result_gatewayPolicies classed, levelOn_of_singleton ofClass found,
    levelOn_of_nil ofNameSpace, levelOn_of_nil own]
  change some <$> layered _ _ _ _ = _
  rw [layered_empty]
  rfl

/-- A route with one gateway that holds policies lays its own over these. -/
theorem routePartitions_of_singleton {route gateway : ResourceId} {policies own : PoliciesByKind}
    (items : topology.gatewayItems route = [(gateway, policies)])
    (ofNameSpace : topology.policiesOn (topology.nameSpace? route) = [])
    (owns : levelOn registry.toPolicyMerger topology (some route) = .ok own) :
    (topology.routePartitions registry.toPolicyMerger [] route).result =
      (layered registry.toPolicyMerger policies .empty own).map (Table.empty.set gateway) := by
  rw [result_routePartitions, levelOn_of_nil ofNameSpace, owns, items]
  change fill (fun _ _ policies => layered registry.toPolicyMerger policies .empty own)
    [(gateway, policies)] Table.empty = _
  rw [Table.fill_cons]
  cases layered registry.toPolicyMerger policies .empty own <;> rfl

end Registry

def routeItems (topology : Topology) (backend : ResourceId) : List (ResourceId × PoliciesByKind) :=
  (sortedIds (topology.sources .routeBackend backend)).flatMap fun route =>
    match topology.partitions.get? route with
    | none => []
    | some partitions => Entries.sorted partitions.entries

theorem result_reconcileRoutes (backend : ResourceId) :
    (reconcileRoutes merger topology (sortedIds (topology.sources .routeBackend backend))).result =
      fill (fun _ found policies => (Merging.atNode (merger.reconcile found policies)).result)
        (topology.routeItems backend) .empty := by
  unfold reconcileRoutes routeItems fill
  rw [Traced.result_foldlM, foldlM_flatMap]
  refine Traced.foldlM_congr (fun route _ result => ?_) _
  cases topology.partitions.get? route with
  | none => rfl
  | some partitions =>
      dsimp only
      rw [Traced.result_foldlM]
      refine Traced.foldlM_congr (fun entry _ result => ?_) _
      change (Merging.atNode (merger.reconcile (result.get? entry.1) entry.2) >>= fun part =>
        pure (result.set entry.1 part)).result = _
      rw [bind_pure_comp, Traced.result_map]

theorem result_backendPartitions (backend : ResourceId) :
    (topology.backendPartitions merger [] backend).result =
      levelOn merger topology (topology.nameSpace? backend) >>= fun ofNameSpace =>
      levelOn merger topology (some backend) >>= fun own =>
      fill (fun _ found policies => (Merging.atNode (merger.reconcile found policies)).result)
        (topology.routeItems backend) .empty >>= fun reconciled =>
      fill (fun _ _ policies => layered merger policies ofNameSpace own) reconciled.entries
        reconciled := by
  unfold backendPartitions
  dsimp only
  rw [requireSound_of_sound fun _ _ => List.not_mem_nil, pure_bind]
  simp only [Traced.result_bindM, result_reconcileRoutes, Traced.result_foldlM]
  rfl

theorem mem_gatewayItems {route gateway : ResourceId} {policies : PoliciesByKind} :
    (gateway, policies) ∈ topology.gatewayItems route ↔
      gateway ∈ topology.targets .routeGateway route ∧
        topology.effective.get? gateway = some policies := by
  simp only [gatewayItems, List.mem_filterMap, mem_sortedIds, Option.map_eq_some_iff,
    Prod.mk.injEq]
  constructor
  · rintro ⟨_, member, _, held, rfl, rfl⟩
    exact ⟨member, held⟩
  · rintro ⟨member, held⟩
    exact ⟨gateway, member, policies, held, rfl, rfl⟩

def parentPolicies (topology : Topology) (route gateway : ResourceId) : Option PoliciesByKind :=
  if gateway ∈ topology.targets .routeGateway route then topology.effective.get? gateway else none

theorem parentPolicies_eq_some_iff {route gateway : ResourceId} {policies : PoliciesByKind} :
    topology.parentPolicies route gateway = some policies ↔
    gateway ∈ topology.targets .routeGateway route ∧
      topology.effective.get? gateway = some policies := by
  unfold parentPolicies
  split
  · next member => simp [member]
  · next absent => simp [absent]

/-- What the routes of a backend have for a gateway, in order of their identities. -/
def visits (topology : Topology) (backend gateway : ResourceId) :
    List (ResourceId × PoliciesByKind) :=
  ((topology.sources .routeBackend backend).insertionSort (· ≤ ·)).filterMap fun route =>
    ((topology.partitions.get? route).bind (·.get? gateway)).map (route, ·)

/-- One of the routes of a backend has a part for a gateway. -/
def RouteHasPart (topology : Topology) (backend gateway : ResourceId) : Prop :=
  ∃ route ∈ topology.sources .routeBackend backend, ∃ partitions part,
    topology.partitions.get? route = some partitions ∧ partitions.get? gateway = some part

theorem mem_visits {backend gateway route : ResourceId} {policies : PoliciesByKind} :
    (route, policies) ∈ topology.visits backend gateway ↔
      route ∈ topology.sources .routeBackend backend ∧ ∃ partitions,
        topology.partitions.get? route = some partitions ∧
          partitions.get? gateway = some policies := by
  simp only [visits, List.mem_filterMap, List.mem_insertionSort, Option.map_eq_some_iff,
    Option.bind_eq_some_iff, Prod.mk.injEq]
  constructor
  · rintro ⟨_, member, _, held, rfl, rfl⟩
    exact ⟨member, held⟩
  · rintro ⟨member, held⟩
    exact ⟨route, member, policies, held, rfl, rfl⟩

theorem valuesAt_routeItems (backend gateway : ResourceId) :
    valuesAt (topology.routeItems backend) gateway =
      (topology.visits backend gateway).map Prod.snd := by
  unfold routeItems visits
  rw [← sortedIds_eq]
  induction sortedIds (topology.sources .routeBackend backend) with
  | nil => rfl
  | cons route rest ih =>
      rw [List.flatMap_cons, Table.valuesAt_append, ih, List.filterMap_cons]
      cases topology.partitions.get? route with
      | none => rfl
      | some partitions =>
          dsimp only
          rw [Table.valuesAt_of_perm (Entries.sorted_perm _), Option.bind_some]
          cases partitions.get? gateway <;> rfl

/-- What the parts of a route are made of. -/
structure RouteParts (merger : PolicyMerger) (topology : Topology) (route : ResourceId)
    (ofNameSpace own : PoliciesByKind) (partitions : Partitions) : Prop where
  ofNameSpace_eq : levelOn merger topology (topology.nameSpace? route) = .ok ofNameSpace
  own_eq : levelOn merger topology (some route) = .ok own
  part : ∀ {gateway part}, partitions.get? gateway = some part →
    gateway ∈ topology.targets .routeGateway route ∧ ∃ policies,
      topology.effective.get? gateway = some policies ∧
        layered merger policies ofNameSpace own = .ok part
  hasPart : ∀ {gateway policies}, gateway ∈ topology.targets .routeGateway route →
    topology.effective.get? gateway = some policies →
      ∃ part, partitions.get? gateway = some part

theorem routeParts_of_ok {route : ResourceId} {partitions : Partitions}
    (h : (topology.routePartitions merger [] route).result = .ok partitions) :
    ∃ ofNameSpace own, RouteParts merger topology route ofNameSpace own partitions := by
  rw [result_routePartitions, Except.bind_ok_iff] at h
  obtain ⟨ofNameSpace, ofNameSpace_eq, h⟩ := h
  obtain ⟨own, own_eq, h⟩ := Except.bind_ok_iff.mp h
  have values : ∀ gateway policies, topology.effective.get? gateway = some policies →
      ∀ other ∈ valuesAt (topology.gatewayItems route) gateway, other = policies := by
    intro gateway policies held other member
    have found := (mem_gatewayItems.mp (Table.mem_valuesAt.mp member)).2
    exact Option.some.inj (found.symm.trans held)
  refine ⟨ofNameSpace, own, ofNameSpace_eq, own_eq, ?_, ?_⟩
  · intro gateway part stored
    have gathered := Table.get?_of_fill h gateway
    cases items : valuesAt (topology.gatewayItems route) gateway with
    | nil =>
        rw [items] at gathered
        exact nomatch (Except.ok.inj gathered).trans stored
    | cons policies rest =>
        have member : policies ∈ valuesAt (topology.gatewayItems route) gateway := by simp [items]
        obtain ⟨target, held⟩ := mem_gatewayItems.mp (Table.mem_valuesAt.mp member)
        obtain ⟨combined, merged, same⟩ :=
          Table.gather_const policies (values gateway policies held) (List.ne_nil_of_mem member)
            gathered
        rw [stored] at same
        exact ⟨target, policies, held, Option.some.inj same ▸ merged⟩
  · intro gateway policies target held
    have member := Table.mem_valuesAt.mpr (mem_gatewayItems.mpr ⟨target, held⟩)
    obtain ⟨combined, _, same⟩ := Table.gather_const policies (values gateway policies held)
      (List.ne_nil_of_mem member) (Table.get?_of_fill h gateway)
    exact ⟨combined, same⟩

/-- A route has a part for each of its gateways that has policies. -/
theorem RouteParts.part_iff {route gateway : ResourceId} {ofNameSpace own : PoliciesByKind}
    {partitions : Partitions} (h : RouteParts merger topology route ofNameSpace own partitions) :
    (∃ part, partitions.get? gateway = some part) ↔
      gateway ∈ topology.targets .routeGateway route ∧
        ∃ policies, topology.effective.get? gateway = some policies := by
  constructor
  · rintro ⟨part, stored⟩
    obtain ⟨target, policies, held, _⟩ := h.part stored
    exact ⟨target, policies, held⟩
  · rintro ⟨target, policies, held⟩
    exact h.hasPart target held

/-- The part of a route for a gateway comes from the policies of this gateway alone. -/
theorem RouteParts.get?_eq {route gateway : ResourceId} {ofNameSpace own : PoliciesByKind}
    {partitions : Partitions} (h : RouteParts merger topology route ofNameSpace own partitions) :
    partitions.get? gateway = (topology.parentPolicies route gateway).bind fun policies =>
      (layered merger policies ofNameSpace own).toOption := by
  cases stored : partitions.get? gateway with
  | some part =>
      obtain ⟨target, policies, held, merged⟩ := h.part stored
      rw [parentPolicies_eq_some_iff.mpr ⟨target, held⟩, Option.bind_some, merged]
      rfl
  | none =>
      cases found : topology.parentPolicies route gateway with
      | none => rfl
      | some policies =>
          obtain ⟨target, held⟩ := parentPolicies_eq_some_iff.mp found
          obtain ⟨part, stored'⟩ := h.hasPart target held
          cases stored.symm.trans stored'

/-- What the parts of a backend are made of. -/
structure BackendParts (merger : PolicyMerger) (topology : Topology) (backend : ResourceId)
    (ofNameSpace own : PoliciesByKind) (reconciled partitions : Partitions) : Prop where
  ofNameSpace_eq : levelOn merger topology (topology.nameSpace? backend) = .ok ofNameSpace
  own_eq : levelOn merger topology (some backend) = .ok own
  routes_eq : (reconcileRoutes merger topology
    (sortedIds (topology.sources .routeBackend backend))).result = .ok reconciled
  reconciled_eq : ∀ gateway,
    gather (fun found policies => (Merging.atNode (merger.reconcile found policies)).result) none
      ((topology.visits backend gateway).map Prod.snd) = .ok (reconciled.get? gateway)
  part : ∀ {gateway part}, partitions.get? gateway = some part → ∃ base,
    reconciled.get? gateway = some base ∧ layered merger base ofNameSpace own = .ok part
  hasPart : ∀ {gateway base}, reconciled.get? gateway = some base →
    ∃ part, partitions.get? gateway = some part

theorem backendParts_of_ok {backend : ResourceId} {partitions : Partitions}
    (h : (topology.backendPartitions merger [] backend).result = .ok partitions) :
    ∃ ofNameSpace own reconciled,
      BackendParts merger topology backend ofNameSpace own reconciled partitions := by
  rw [result_backendPartitions, Except.bind_ok_iff] at h
  obtain ⟨ofNameSpace, ofNameSpace_eq, h⟩ := h
  obtain ⟨own, own_eq, h⟩ := Except.bind_ok_iff.mp h
  obtain ⟨reconciled, reconciles, h⟩ := Except.bind_ok_iff.mp h
  have gathered := Table.get?_of_fill h
  simp only [Table.valuesAt_of_perm (List.Perm.refl reconciled.entries)] at gathered
  refine ⟨ofNameSpace, own, reconciled, ofNameSpace_eq, own_eq, ?_, ?_, ?_, ?_⟩
  · rw [result_reconcileRoutes]
    exact reconciles
  · intro gateway
    rw [← valuesAt_routeItems]
    exact Table.get?_of_fill reconciles gateway
  · intro gateway part stored
    have gathered := gathered gateway
    cases held : reconciled.get? gateway with
    | none =>
        rw [held] at gathered
        cases (Except.ok.inj gathered).trans stored
    | some base =>
        rw [held] at gathered
        obtain ⟨combined, merged, same⟩ :=
          Table.gather_const base (by simp) (by simp) gathered
        rw [stored] at same
        exact ⟨base, rfl, Option.some.inj same ▸ merged⟩
  · intro gateway base held
    have gathered := gathered gateway
    rw [held] at gathered
    obtain ⟨combined, _, same⟩ := Table.gather_const base (by simp) (by simp) gathered
    exact ⟨combined, same⟩

/-- The part of a backend for a gateway comes from what its routes have for this gateway. -/
theorem BackendParts.get?_eq {backend gateway : ResourceId}
    {ofNameSpace own : PoliciesByKind} {reconciled partitions : Partitions}
    (h : BackendParts merger topology backend ofNameSpace own reconciled partitions) :
    partitions.get? gateway = (reconciled.get? gateway).bind fun base =>
      (layered merger base ofNameSpace own).toOption := by
  cases stored : partitions.get? gateway with
  | some part =>
      obtain ⟨base, held, merged⟩ := h.part stored
      rw [held, Option.bind_some, merged]
      rfl
  | none =>
      cases held : reconciled.get? gateway with
      | none => rfl
      | some base =>
          obtain ⟨part, stored'⟩ := h.hasPart held
          cases stored.symm.trans stored'

/-- A backend has a part for each gateway that one of its routes has a part for. -/
theorem BackendParts.part_iff {backend gateway : ResourceId}
    {ofNameSpace own : PoliciesByKind} {reconciled partitions : Partitions}
    (h : BackendParts merger topology backend ofNameSpace own reconciled partitions) :
    (∃ part, partitions.get? gateway = some part) ↔ topology.visits backend gateway ≠ [] := by
  have gathered := h.reconciled_eq gateway
  constructor
  · rintro ⟨part, stored⟩ none
    obtain ⟨base, held, _⟩ := h.part stored
    rw [none, held] at gathered
    cases gathered
  · intro some
    obtain ⟨base, held⟩ := Table.exists_of_gather (by simpa using some) gathered
    exact h.hasPart held

theorem visits_ne_nil_iff {backend gateway : ResourceId} :
    topology.visits backend gateway ≠ [] ↔ topology.RouteHasPart backend gateway := by
  constructor
  · intro some
    obtain ⟨⟨route, part⟩, visited⟩ := List.exists_mem_of_ne_nil _ some
    obtain ⟨source, partitions, held, stored⟩ := mem_visits.mp visited
    exact ⟨route, source, partitions, part, held, stored⟩
  · rintro ⟨route, source, partitions, part, held, stored⟩
    exact List.ne_nil_of_mem (mem_visits.mpr ⟨source, partitions, held, stored⟩)

end Topology

end PolicyTopology
