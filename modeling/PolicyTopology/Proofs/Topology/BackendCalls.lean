import PolicyTopology.Proofs.Policy.Calls
import PolicyTopology.Proofs.Topology.DiscoveryOrder
import PolicyTopology.Proofs.Topology.KindByKind
import Mathlib.Algebra.BigOperators.Group.List.Basic

/-!
# The calls that a backend costs

A backend merges its own two levels and what its routes have for each gateway, all as peers, and
only then lays its levels over what each gateway came to. So its calls of mergers come in two runs,
and for each kind their number is known from where there are policies of this kind: a gateway costs
one merge of peers for every route that carries the kind beyond the first, and at most two merges of
levels, however many routes there are.
-/

namespace PolicyTopology

namespace Table

variable {κ β : Type} [DecidableEq κ]

theorem sum_ite_of_nodup {keys : List κ} (nodup : keys.Nodup) (key : κ) (count : Nat) :
    (keys.map fun other => if key = other then count else 0).sum =
      if key ∈ keys then count else 0 := by
  induction keys with
  | nil => rfl
  | cons head rest ih =>
      obtain ⟨new, nodup⟩ := List.nodup_cons.mp nodup
      rw [List.map_cons, List.sum_cons, ih nodup]
      by_cases same : key = head
      · subst same
        simp [new]
      · simp [same]

/-- A sum over the entries of a table, key by key. -/
theorem sum_entries (f : β → Nat) (table : Table κ β) :
    (table.entries.map fun entry => f entry.2).sum =
      (table.keys.map fun key => (table.get? key).elim 0 f).sum := by
  rw [keys, Entries.keys, List.map_map]
  refine congrArg List.sum (List.map_congr_left fun entry member => ?_)
  rw [Function.comp_apply, mem_entries_iff.mp member, Option.elim_some]

/-- A sum over the entries of a table after one of them was written. -/
theorem sum_entries_set (f : β → Nat) (table : Table κ β) (key : κ) (value : β) :
    ((table.set key value).entries.map fun entry => f entry.2).sum +
        (table.get? key).elim 0 f =
      (table.entries.map fun entry => f entry.2).sum + f value := by
  rw [sum_entries, sum_entries]
  have written : ∀ other, ((table.set key value).get? other).elim 0 f +
      (if key = other then (table.get? key).elim 0 f else 0) =
        (table.get? other).elim 0 f + if key = other then f value else 0 := by
    intro other
    rw [get?_set]
    by_cases same : key = other
    · subst same
      simp [Nat.add_comm]
    · simp [same]
  by_cases present : table.contains key = true
  · have member := contains_iff.mp present
    have keys_eq : (table.set key value).keys = table.keys :=
      Entries.keys_set_of_contains value present
    have sums := congrArg List.sum (List.map_congr_left (l := table.keys) fun k _ => written k)
    have nodup : table.keys.Nodup := table.nodup_keys
    rw [List.sum_map_add, List.sum_map_add, sum_ite_of_nodup nodup, sum_ite_of_nodup nodup,
      if_pos member, if_pos member] at sums
    rwa [keys_eq]
  · have absent : key ∉ table.keys := fun member => present (contains_iff.mpr member)
    have keys_eq : (table.set key value).keys = table.keys ++ [key] :=
      Entries.keys_set_of_not_contains value (Bool.eq_false_iff.mpr present)
    rw [keys_eq, List.map_append, List.sum_append, get?_eq_none_iff.mpr absent]
    have others : ∀ other ∈ table.keys, ((table.set key value).get? other).elim 0 f =
        (table.get? other).elim 0 f := fun other member => by
      rw [get?_set_ne table value (ne_of_mem_of_not_mem member absent).symm]
    rw [List.map_congr_left others]
    simp

/-- A sum over keyed items, key by key. -/
theorem sum_items {items : List (κ × β)} {keys : List κ} (nodup : keys.Nodup)
    (covered : ∀ item ∈ items, item.1 ∈ keys) (f : β → Nat) :
    (items.map fun item => f item.2).sum =
      (keys.map fun key => ((valuesAt items key).map f).sum).sum := by
  induction items with
  | nil => simp
  | cons item rest ih =>
      have split : ∀ key, ((valuesAt (item :: rest) key).map f).sum =
          (if item.1 = key then f item.2 else 0) + ((valuesAt rest key).map f).sum := by
        intro key
        rw [valuesAt_cons]
        split
        · rw [List.map_cons, List.sum_cons]
        · rw [Nat.zero_add]
      simp only [split]
      rw [List.sum_map_add, sum_ite_of_nodup nodup, if_pos (covered item List.mem_cons_self),
        List.map_cons, List.sum_cons,
        ih fun other member => covered other (List.mem_cons_of_mem item member)]

end Table

/-- The calls of recording mergers among the events of the work on a node. -/
def NodeWork.calls {α : Type} (work : NodeWork α) : List MergeCall :=
  work.trace.filterMap Event.call?

def Event.CallsFor (operation : MergeOperation) (event : Event) : Prop :=
  ∃ call, event = .merging call ∧ call.operation = operation

theorem notes_atNode_calls {α : Type} {merging : Merging α} {operation : MergeOperation}
    (h : merging.Notes fun call => call.operation = operation) :
    (Merging.atNode merging).Notes (Event.CallsFor operation) := by
  intro event noted
  obtain ⟨call, member, rfl⟩ := List.mem_map.mp noted
  exact ⟨call, rfl, h call member⟩

theorem length_trace_atNode {α : Type} (merging : Merging α) :
    (Merging.atNode merging).trace.length = merging.trace.length := List.length_map _

namespace Topology

open Table (valuesAt)

variable {registry registry' : MergerRegistry} {topology : Topology} {failed : List ResourceId}
  {backend : ResourceId} {kind : MergeKind} {result reconciled : Partitions}

section Quieter

variable (h : registry.Quieter registry')
include h

theorem quieter_overlayLevels (ancestors ofNameSpace own : PoliciesByKind) :
    Traced.Quieter (overlayLevels registry.toPolicyMerger ancestors ofNameSpace own)
      (overlayLevels registry'.toPolicyMerger ancestors ofNameSpace own) :=
  ((h.overlay _ _).adapt _ _).bind fun _ => (h.overlay _ _).adapt _ _

theorem quieter_reconcileRoutes (topology : Topology) (routes : List ResourceId) :
    Traced.Quieter (reconcileRoutes registry.toPolicyMerger topology routes)
      (reconcileRoutes registry'.toPolicyMerger topology routes) := by
  refine .foldlM (fun result route => ?_) routes _
  cases topology.partitions.get? route with
  | none => exact .refl _
  | some partitions =>
      exact .foldlM (fun result entry =>
        ((h.reconcile _ _).adapt _ _).bind fun _ => .refl _) _ _

theorem quieter_backendPartitions (topology : Topology) (failed : List ResourceId)
    (backend : ResourceId) :
    Traced.Quieter (topology.backendPartitions registry.toPolicyMerger failed backend)
      (topology.backendPartitions registry'.toPolicyMerger failed backend) := by
  refine (Traced.Quieter.refl _).bind fun _ => ((h.mergeLevel _).adapt _ _).bind fun ofNameSpace =>
    ((h.mergeLevel _).adapt _ _).bind fun own => (quieter_reconcileRoutes h topology _).bind
      fun reconciled => .foldlM (fun result entry => ?_) _ _
  exact (quieter_overlayLevels h _ _ _).bind fun _ => .refl _

end Quieter

/-! ### Two runs of calls -/

/-- Lay the two levels of a backend over what its routes come to for each gateway. -/
def layBackend (merger : PolicyMerger) (ofNameSpace own : PoliciesByKind)
    (reconciled : Partitions) : NodeWork Partitions :=
  reconciled.entries.foldlM (fun result (gateway, policies) => do
    return result.set gateway (← overlayLevels merger policies ofNameSpace own)) reconciled

section Notes

variable (own : registry.NotesOwn)
include own

theorem notes_layBackend_calls (upper lower : PoliciesByKind) :
    (layBackend registry.toPolicyMerger upper lower reconciled).Notes (Event.CallsFor .levels) :=
  .foldlM (fun _ _ => .bind (.bind (notes_atNode_calls (own.notes_overlay _ _)) fun _ =>
    notes_atNode_calls (own.notes_overlay _ _)) fun _ => .pure _) _ _

theorem notes_reconcileRoutes_calls (routes : List ResourceId) :
    (reconcileRoutes registry.toPolicyMerger topology routes).Notes (Event.CallsFor .peers) := by
  refine .foldlM (fun result route => ?_) routes _
  cases topology.partitions.get? route with
  | none => exact .pure _
  | some partitions =>
      exact .foldlM (fun result entry => .bind
        (notes_atNode_calls (own.notes_reconcile _ _)) fun _ => .pure _) _ _

theorem notes_mergeLevel_calls (policies : List Policy) :
    (Merging.atNode (registry.toPolicyMerger.mergeLevel policies)).Notes
      (Event.CallsFor .peers) :=
  notes_atNode_calls (own.notes_mergeLevel policies)

end Notes

/-- The work on a backend that comes to a result: its two levels, its routes, and what is laid over
these. -/
structure BackendWork (merger : PolicyMerger) (topology : Topology) (failed : List ResourceId)
    (backend : ResourceId) (ofNameSpace own : PoliciesByKind) (reconciled result : Partitions) :
    Prop where
  ofNameSpace_eq :
    (merger.mergeLevel (topology.policiesOn (topology.nameSpace? backend))).result = .ok ofNameSpace
  own_eq : (merger.mergeLevel (topology.policiesOn (some backend))).result = .ok own
  routes_eq : (reconcileRoutes merger topology
    (sortedIds (topology.sources .routeBackend backend))).result = .ok reconciled
  result_eq : (layBackend merger ofNameSpace own reconciled).result = .ok result
  trace_eq : (topology.backendPartitions merger failed backend).trace =
    ((Merging.atNode (merger.mergeLevel
          (topology.policiesOn (topology.nameSpace? backend)))).trace ++
        ((Merging.atNode (merger.mergeLevel (topology.policiesOn (some backend)))).trace ++
          (reconcileRoutes merger topology
            (sortedIds (topology.sources .routeBackend backend))).trace)) ++
      (layBackend merger ofNameSpace own reconciled).trace

theorem backendWork_of_ok {merger : PolicyMerger}
    (h : (topology.backendPartitions merger failed backend).result = .ok result) :
    ∃ ofNameSpace own reconciled,
      BackendWork merger topology failed backend ofNameSpace own reconciled result := by
  unfold backendPartitions at h
  obtain ⟨_, sound, h, trace⟩ := Traced.bind_ok h
  obtain ⟨ofNameSpace, ofNameSpace_eq, h, trace₁⟩ := Traced.bind_ok h
  obtain ⟨own, own_eq, h, trace₂⟩ := Traced.bind_ok h
  obtain ⟨reconciled, routes_eq, h, trace₃⟩ := Traced.bind_ok h
  refine ⟨ofNameSpace, own, reconciled, Except.mapError_ok_iff.mp ofNameSpace_eq,
    Except.mapError_ok_iff.mp own_eq, routes_eq, h, ?_⟩
  have silent : (requireSound failed (sortedIds (topology.sources .routeBackend backend))).trace =
      [] := by
    unfold requireSound
    split <;> rfl
  unfold backendPartitions
  rw [trace, silent, trace₁, trace₂, trace₃]
  simp only [List.nil_append, List.append_assoc]
  rfl

/-! ### How many calls there are -/

section Counts

open MergerRegistry (load)

theorem length_listed (visits : List (ResourceId × PoliciesByKind)) :
    ((visits.map Prod.snd).map (load kind)).sum =
      (visits.filterMap fun visit => visit.2.get? kind).length := by
  induction visits with
  | nil => rfl
  | cons visit rest ih =>
      rw [List.map_cons, List.map_cons, List.sum_cons, ih, List.filterMap_cons]
      unfold load
      cases visit.2.get? kind with
      | none => exact Nat.zero_add _
      | some policy => exact Nat.add_comm 1 _

/-- The calls that the levels of a backend cost for a gateway, by where there are policies of the
kind: for the gateway, at the namespace, and on the backend. -/
def levelCalls (base ofNameSpace own : Bool) : Nat :=
  (base && ofNameSpace).toNat + ((base || ofNameSpace) && own).toNat

/-- What the routes of a backend come to is found in a loop over all their parts. -/
theorem reconcileRoutes_eq (merger : PolicyMerger) (topology : Topology) (backend : ResourceId) :
    reconcileRoutes merger topology (sortedIds (topology.sources .routeBackend backend)) =
      (topology.routeItems backend).foldlM (fun result item => do
        return result.set item.1
          (← Merging.atNode (merger.reconcile (result.get? item.1) item.2))) .empty := by
  unfold reconcileRoutes routeItems
  rw [foldlM_flatMap]
  refine Traced.foldlM_congr (fun route _ result => ?_) _
  cases topology.partitions.get? route <;> rfl

variable (counts : registry.CountsOnly kind)
include counts

theorem length_trace_overlayLevels {ancestors ofNameSpace own table : PoliciesByKind}
    (h : (overlayLevels registry.toPolicyMerger ancestors ofNameSpace own).result = .ok table) :
    (overlayLevels registry.toPolicyMerger ancestors ofNameSpace own).trace.length =
      levelCalls (ancestors.get? kind).isSome (ofNameSpace.get? kind).isSome
        (own.get? kind).isSome := by
  obtain ⟨middle, first, second, trace⟩ := Traced.bind_ok h
  have first : (registry.overlay ancestors ofNameSpace).result = .ok middle :=
    Except.mapError_ok_iff.mp first
  have second : (registry.overlay middle own).result = .ok table :=
    Except.mapError_ok_iff.mp second
  unfold overlayLevels
  rw [trace, List.length_append, length_trace_atNode, length_trace_atNode]
  change (registry.overlay ancestors ofNameSpace).trace.length +
    (registry.overlay middle own).trace.length = _
  rw [counts.length_overlay first, counts.length_overlay second,
    MergerRegistry.isSome_of_overlay first]
  rfl

theorem length_trace_layBackend {ofNameSpace own : PoliciesByKind}
    (h : (layBackend registry.toPolicyMerger ofNameSpace own reconciled).result = .ok result) :
    (layBackend registry.toPolicyMerger ofNameSpace own reconciled).trace.length =
      (reconciled.entries.map fun entry => levelCalls (entry.2.get? kind).isSome
        (ofNameSpace.get? kind).isSome (own.get? kind).isSome).sum := by
  refine Traced.length_trace_foldlM (fun _ => 0) _ (fun state entry next laid => ?_) h
  obtain ⟨part, layers, _, trace⟩ := Traced.bind_ok laid
  dsimp only
  rw [trace, List.length_append, length_trace_overlayLevels counts layers]
  rfl

/-- The calls of the routes and the gateways that have a policy of the kind in the end make up the
policies of the kind that the routes have. -/
theorem length_trace_reconcileRoutes
    (h : (reconcileRoutes registry.toPolicyMerger topology
      (sortedIds (topology.sources .routeBackend backend))).result = .ok reconciled) :
    (reconcileRoutes registry.toPolicyMerger topology
        (sortedIds (topology.sources .routeBackend backend))).trace.length +
        (reconciled.entries.map fun entry => load kind entry.2).sum =
      ((topology.routeItems backend).map fun item => load kind item.2).sum := by
  rw [reconcileRoutes_eq] at h ⊢
  refine Traced.length_trace_foldlM
    (fun partitions : Partitions => (partitions.entries.map fun entry => load kind entry.2).sum)
    (fun item => load kind item.2) (fun state item next placed => ?_) h
  obtain ⟨part, reconciles, placed, trace⟩ := Traced.bind_ok placed
  cases placed
  have calls := counts.reconcile (Except.mapError_ok_iff.mp reconciles)
  have written := Table.sum_entries_set (load kind) state item.1 part
  have before : load kind ((state.get? item.1).getD .empty) =
      (state.get? item.1).elim 0 (load kind) := by
    cases state.get? item.1 <;> rfl
  rw [trace, Traced.trace_pure, List.append_nil, length_trace_atNode]
  change (registry.reconcile (state.get? item.1) item.2).trace.length + _ = _
  omega

omit counts in
/-- A gateway has something in the end if some route has. -/
theorem isSome_reconciled {merger : PolicyMerger}
    (h : (reconcileRoutes merger topology
      (sortedIds (topology.sources .routeBackend backend))).result = .ok reconciled)
    (gateway : ResourceId) : (reconciled.get? gateway).isSome = true ↔
      valuesAt (topology.routeItems backend) gateway ≠ [] := by
  rw [result_reconcileRoutes] at h
  simpa using Table.isSome_of_gather (Table.get?_of_fill h gateway)

omit counts in
/-- A gateway has a policy of a kind in the end if some route has. -/
theorem isSome_reconciled_entry
    (h : (reconcileRoutes registry.toPolicyMerger topology
      (sortedIds (topology.sources .routeBackend backend))).result = .ok reconciled)
    (gateway : ResourceId) (kind : MergeKind) :
    (PoliciesByKind.entry? (reconciled.get? gateway) kind).isSome = true ↔
      topology.peersAt backend gateway kind ≠ [] := by
  rw [result_reconcileRoutes] at h
  have gathered := Table.get?_of_fill h gateway
  simp only [Merging.result_atNode, Table.gather_mapError, valuesAt_routeItems] at gathered
  have reunites := @MergerRegistry.tabulates_gather_reconcile registry
    ((topology.visits backend gateway).map Prod.snd) none
  have entry := reunites.ok (Except.mapError_ok_iff.mp gathered) kind
  rw [Table.isSome_of_gather entry, List.filterMap_map]
  simp [PoliciesByKind.entry?, peersAt]

/-- The routes cost one call for each gateway and each policy that they have for it but the
first. -/
theorem length_trace_reconcileRoutes_eq
    (h : (reconcileRoutes registry.toPolicyMerger topology
      (sortedIds (topology.sources .routeBackend backend))).result = .ok reconciled) :
    (reconcileRoutes registry.toPolicyMerger topology
        (sortedIds (topology.sources .routeBackend backend))).trace.length =
      (reconciled.keys.map fun gateway =>
        (topology.peersAt backend gateway kind).length - 1).sum := by
  have total := length_trace_reconcileRoutes counts h
  have covered : ∀ item ∈ topology.routeItems backend, item.1 ∈ reconciled.keys := by
    intro item member
    have listed := List.ne_nil_of_mem (Table.mem_valuesAt.mpr member)
    have present := (isSome_reconciled h item.1).mpr listed
    exact Table.contains_iff.mp present
  rw [Table.sum_items reconciled.nodup_keys covered, Table.sum_entries] at total
  have listed : ∀ gateway, ((valuesAt (topology.routeItems backend) gateway).map (load kind)).sum =
      ((topology.peersAt backend gateway kind).length - 1) +
        (reconciled.get? gateway).elim 0 (load kind) := by
    intro gateway
    have entry := isSome_reconciled_entry h gateway kind
    have held : (reconciled.get? gateway).elim 0 (load kind) =
        (PoliciesByKind.entry? (reconciled.get? gateway) kind).isSome.toNat := by
      cases reconciled.get? gateway <;> rfl
    rw [valuesAt_routeItems, length_listed, held]
    change (topology.peersAt backend gateway kind).length = _
    rw [Bool.eq_iff_iff.mpr (entry.trans (by simp) : _ ↔
      (!(topology.peersAt backend gateway kind).isEmpty) = true)]
    cases topology.peersAt backend gateway kind <;> simp
  simp only [listed, List.sum_map_add] at total
  exact Nat.add_right_cancel total

end Counts

section Main

/-- In the end a backend has a part for the gateways that its routes have one for. -/
theorem keys_layBackend {merger : PolicyMerger} {ofNameSpace own : PoliciesByKind}
    (h : (layBackend merger ofNameSpace own reconciled).result = .ok result) :
    reconciled.keys.Perm result.keys := by
  have laid : (layBackend merger ofNameSpace own reconciled).result =
      Table.fill (fun _ _ policies => layered merger policies ofNameSpace own) reconciled.entries
        reconciled := by
    unfold layBackend
    rw [Traced.result_foldlM]
    refine Traced.foldlM_congr (fun entry _ state => ?_) _
    change (overlayLevels merger entry.2 ofNameSpace own >>= fun part =>
      pure (state.set entry.1 part)).result = _
    rw [bind_pure_comp, Traced.result_map]
    rfl
  refine (List.perm_ext_iff_of_nodup reconciled.nodup_keys result.nodup_keys).mpr fun gateway => ?_
  have present := Table.isSome_of_gather (Table.get?_of_fill (laid.symm.trans h) gateway)
  rw [Table.valuesAt_of_perm (.refl _)] at present
  change gateway ∈ reconciled.keys ↔ gateway ∈ result.keys
  rw [← Table.contains_iff, ← Table.contains_iff, Table.contains_eq_isSome,
    Table.contains_eq_isSome, present]
  cases reconciled.get? gateway <;> simp

theorem calls_of_notes {events : List Event} {operation : MergeOperation}
    (h : ∀ event ∈ events, event.CallsFor operation) :
    (events.filterMap Event.call?).length = events.length ∧
      ∀ call ∈ events.filterMap Event.call?, call.operation = operation := by
  induction events with
  | nil => exact ⟨rfl, fun _ member => nomatch member⟩
  | cons event rest ih =>
      obtain ⟨call, rfl, own⟩ := h event List.mem_cons_self
      obtain ⟨length, owns⟩ := ih fun other member => h other (List.mem_cons_of_mem _ member)
      refine ⟨congrArg Nat.succ length, fun other member => ?_⟩
      rcases List.mem_cons.mp member with rfl | member
      · exact own
      · exact owns other member

/-- The calls of the work on a backend come in two runs. -/
theorem calls_of_backendWork (own : registry.NotesOwn) {upper lower : PoliciesByKind}
    (work : BackendWork registry.toPolicyMerger topology failed backend upper lower reconciled
      result) :
    ∃ peers levels,
      (topology.backendPartitions registry.toPolicyMerger failed backend).calls = peers ++ levels ∧
      (∀ call ∈ peers, call.operation = .peers) ∧ (∀ call ∈ levels, call.operation = .levels) ∧
      peers.length =
        (registry.mergeLevel (topology.policiesOn (topology.nameSpace? backend))).trace.length +
        ((registry.mergeLevel (topology.policiesOn (some backend))).trace.length +
        (reconcileRoutes registry.toPolicyMerger topology
          (sortedIds (topology.sources .routeBackend backend))).trace.length) ∧
      levels.length = (layBackend registry.toPolicyMerger upper lower reconciled).trace.length := by
  have first : ∀ event ∈
      (Merging.atNode (registry.toPolicyMerger.mergeLevel
          (topology.policiesOn (topology.nameSpace? backend)))).trace ++
        ((Merging.atNode (registry.toPolicyMerger.mergeLevel
          (topology.policiesOn (some backend)))).trace ++
          (reconcileRoutes registry.toPolicyMerger topology
            (sortedIds (topology.sources .routeBackend backend))).trace),
      event.CallsFor .peers := by
    intro event member
    rcases List.mem_append.mp member with member | member
    · exact notes_mergeLevel_calls own _ event member
    rcases List.mem_append.mp member with member | member
    · exact notes_mergeLevel_calls own _ event member
    · exact notes_reconcileRoutes_calls own _ event member
  obtain ⟨length, owns⟩ := calls_of_notes first
  obtain ⟨length', owns'⟩ := calls_of_notes (notes_layBackend_calls own upper lower)
  refine ⟨_, _, ?_, owns, owns', ?_, length'⟩
  · unfold NodeWork.calls
    rw [work.trace_eq, List.filterMap_append]
  · rw [length, List.length_append, List.length_append, length_trace_atNode, length_trace_atNode]
    rfl

/-- The routes of a backend that carry a policy of a kind for a gateway. -/
def carriers (topology : Topology) (backend gateway : ResourceId) (kind : MergeKind) :
    List ResourceId :=
  (topology.sources .routeBackend backend).filter fun route =>
    (((topology.partitions.get? route).bind (·.get? gateway)).bind (·.get? kind)).isSome

theorem length_peersAt (topology : Topology) (backend gateway : ResourceId) (kind : MergeKind) :
    (topology.peersAt backend gateway kind).length =
      (topology.carriers backend gateway kind).length := by
  rw [peersAt_eq, List.length_filterMap_eq_countP, carriers, ← List.countP_eq_length_filter]
  exact (sortedIds_perm _).countP_eq _

theorem isSome_reconciled_eq_carriers
    (h : (reconcileRoutes registry.toPolicyMerger topology
      (sortedIds (topology.sources .routeBackend backend))).result = .ok reconciled)
    (gateway : ResourceId) (kind : MergeKind) :
    (PoliciesByKind.entry? (reconciled.get? gateway) kind).isSome =
      !(topology.carriers backend gateway kind).isEmpty := by
  rw [Bool.eq_iff_iff, isSome_reconciled_entry h, ← List.length_pos_iff, length_peersAt,
    List.length_pos_iff, Bool.not_eq_true', List.isEmpty_eq_false_iff]

/-- The calls of the work on a backend for the policies of one kind: what the other mergers note
does not change the result, and the calls for the kind are as many as there are policies to
merge, those that are attached and those that the routes carry. -/
structure CallsOfKind (registry : MergerRegistry) (topology : Topology) (failed : List ResourceId)
    (backend : ResourceId) (result : Partitions) (kind : MergeKind) : Prop where
  result_eq : (topology.backendPartitions (registry.onlyAt kind).toPolicyMerger failed
    backend).result = .ok result
  sublist : (topology.backendPartitions (registry.onlyAt kind).toPolicyMerger failed
    backend).calls.Sublist (topology.backendPartitions registry.toPolicyMerger failed backend).calls
  levels : (topology.backendPartitions (registry.onlyAt kind).toPolicyMerger failed
      backend).calls.countP (fun call => call.operation = .levels) =
    (result.keys.map fun gateway => levelCalls
      (!(topology.carriers backend gateway kind).isEmpty)
      (!(topology.kindOn kind (topology.nameSpace? backend)).isEmpty)
      (!(topology.kindOn kind (some backend)).isEmpty)).sum
  peers : (topology.backendPartitions (registry.onlyAt kind).toPolicyMerger failed
      backend).calls.countP (fun call => call.operation = .peers) =
    ((topology.kindOn kind (topology.nameSpace? backend)).length - 1) +
      ((topology.kindOn kind (some backend)).length - 1) +
      (result.keys.map fun gateway => (topology.carriers backend gateway kind).length - 1).sum

theorem countP_of_operation {calls : List MergeCall} {operation : MergeOperation}
    (h : ∀ call ∈ calls, call.operation = operation) (other : MergeOperation) :
    calls.countP (fun call => call.operation = other) =
      if operation = other then calls.length else 0 := by
  split
  · next same =>
    rw [List.countP_eq_length]
    simpa [← same] using h
  · next apart =>
    rw [List.countP_eq_zero]
    intro call member
    rw [h call member]
    simpa using apart

theorem callsOfKind (recording : registry.Recording) {before : Topology}
    (reachable : before.Reachable) (graph : before.SameGraph topology)
    (h : (topology.backendPartitions registry.toPolicyMerger failed backend).result = .ok result)
    (routes : (reconcileRoutes registry.toPolicyMerger topology
      (sortedIds (topology.sources .routeBackend backend))).result = .ok reconciled)
    (kind : MergeKind) : CallsOfKind registry topology failed backend result kind := by
  have listed : ∀ target, (Policy.ofKind kind (topology.policiesOn target)).Perm
      (topology.kindOn kind target) := fun target => by
    rw [graph.policiesOn, graph.kindOn]
    exact (reachable.coherent.policiesOn_perm reachable.indexedOnce target).filter _
  have quiet := registry.quieter_onlyAt kind
  have quieter := quieter_backendPartitions quiet topology failed backend
  have counts := recording.countsOnly kind
  obtain ⟨ofNameSpace, own, reconciled', work⟩ := backendWork_of_ok (quieter.result.trans h)
  cases ((quieter_reconcileRoutes quiet topology _).result.trans routes).symm.trans work.routes_eq
  obtain ⟨peers, levels, calls, ofPeers, ofLevels, length, length'⟩ :=
    calls_of_backendWork (recording.notesOwn.onlyAt kind) work
  have keys := keys_layBackend work.result_eq
  refine ⟨quieter.result.trans h, quieter.trace.filterMap _, ?_, ?_⟩
  · rw [calls, List.countP_append, countP_of_operation ofPeers, countP_of_operation ofLevels,
      if_neg (by decide), if_pos rfl, Nat.zero_add, length',
      length_trace_layBackend counts work.result_eq,
      MergerRegistry.isSome_of_mergeLevel work.ofNameSpace_eq,
      MergerRegistry.isSome_of_mergeLevel work.own_eq, (listed _).isEmpty_eq, (listed _).isEmpty_eq,
      ← (keys.map _).sum_nat]
    refine (Table.sum_entries (fun policies : PoliciesByKind =>
      levelCalls (policies.get? kind).isSome _ _) reconciled).trans ?_
    refine congrArg List.sum (List.map_congr_left fun gateway member => ?_)
    obtain ⟨policies, found⟩ := Option.isSome_iff_exists.mp (Table.contains_iff.mpr member)
    have carried := isSome_reconciled_eq_carriers work.routes_eq gateway kind
    rw [Table.get?, found] at carried ⊢
    rw [Option.elim_some, ← carried]
    rfl
  · rw [calls, List.countP_append, countP_of_operation ofPeers, countP_of_operation ofLevels,
      if_pos rfl, if_neg (by decide), Nat.add_zero, length,
      counts.length_mergeLevel work.ofNameSpace_eq, counts.length_mergeLevel work.own_eq,
      length_trace_reconcileRoutes_eq counts work.routes_eq, (listed _).length_eq,
      (listed _).length_eq, ← Nat.add_assoc, (keys.map _).sum_nat]
    simp only [length_peersAt]

/-- The calls of the work on a backend that comes to a result: those that merge peers, all of them
before those that lay levels over each other, and, kind by kind, as many of each as there are
policies to merge. -/
theorem backendPartitions_calls (registry : MergerRegistry) (recording : registry.Recording)
    {before : Topology} (reachable : before.Reachable) (graph : before.SameGraph topology)
    (failed : List ResourceId) (backend : ResourceId) {result : Partitions}
    (h : (topology.backendPartitions registry.toPolicyMerger failed backend).result = .ok result) :
    (∃ peers levels, (topology.backendPartitions registry.toPolicyMerger failed backend).calls =
        peers ++ levels ∧
      (∀ call ∈ peers, call.operation = .peers) ∧ ∀ call ∈ levels, call.operation = .levels) ∧
    (∀ gateway, gateway ∈ result.keys ↔ topology.RouteHasPart backend gateway) ∧
    ∀ kind, CallsOfKind registry topology failed backend result kind := by
  obtain ⟨ofNameSpace, own, reconciled, work⟩ := backendWork_of_ok h
  obtain ⟨peers, levels, calls, ofPeers, ofLevels, -, -⟩ :=
    calls_of_backendWork recording.notesOwn work
  refine ⟨⟨peers, levels, calls, ofPeers, ofLevels⟩, fun gateway => ?_, fun kind =>
    callsOfKind recording reachable graph h work.routes_eq kind⟩
  rw [backendPartitions_eq] at h
  obtain ⟨_, _, _, parts⟩ := backendParts_of_ok (ok_of_requireSound h)
  rw [← visits_ne_nil_iff, ← parts.part_iff, ← Table.contains_iff, Table.contains_eq_isSome,
    Option.isSome_iff_exists]

end Main

/-! ### A backend behind two routes -/

def notingRegistry : MergerRegistry := ⟨KindMerger.specification.recorded, .empty⟩

theorem recording_notingRegistry : notingRegistry.Recording := by
  refine fun _ => KindMerger.recording_recorded fun operation first second => ?_
  cases operation with
  | levels =>
      change (liftM (ManifestPolicy.mergeLevels first second) >>= fun merged =>
        pure (Policy.manifest merged) : Merging Policy).trace = []
      cases ManifestPolicy.mergeLevels first second <;> rfl
  | peers =>
      change (liftM (ManifestPolicy.mergePeers first second) >>= fun merged =>
        pure (Policy.manifest merged) : Merging Policy).trace = []
      cases ManifestPolicy.mergePeers first second <;> rfl

def quotaBehindRoutes : Topology :=
  [Operation.insert (.httpRoute ⟨"n", "r1", [], []⟩), .insert (.httpRoute ⟨"n", "r2", [], []⟩),
    .insert (.backend ⟨"n", "b", "", "Service"⟩),
    .connect .routeBackend (.httpRoute "n" "r1") (.backend "" "Service" "n" "b"),
    .connect .routeBackend (.httpRoute "n" "r2") (.backend "" "Service" "n" "b"),
    .attach (quotaOn toBackend "own")].foldl Operation.apply .empty

/-- The same after each of the routes came to a quota for one gateway. -/
def sharedBackend : Topology :=
  let part (name : String) : Partitions :=
    Table.empty.set (.gateway "n" "g") (Table.empty.set quotaKind (quotaOn toNameSpace name))
  Pass.storePartitions
    (Pass.storePartitions quotaBehindRoutes (.httpRoute "n" "r1") (part "first"))
    (.httpRoute "n" "r2") (part "second")

theorem graph_sharedBackend : quotaBehindRoutes.SameGraph sharedBackend :=
  ⟨rfl, rfl, rfl, rfl, rfl⟩

theorem sorted_single {κ α : Type} [DecidableEq κ] [LE κ] [DecidableLE κ] (key : κ) (value : α) :
    Entries.sorted (Table.empty.set key value).entries = [(key, value)] :=
  List.perm_singleton.mp (Entries.sorted_perm _)

theorem routeItems_sharedBackend : sharedBackend.routeItems (.backend "" "Service" "n" "b") =
    ["first", "second"].map fun name =>
      (.gateway "n" "g", Table.empty.set quotaKind (quotaOn toNameSpace name)) := by
  have sources : sharedBackend.sources .routeBackend (.backend "" "Service" "n" "b") =
    ["r1", "r2"].map (ResourceId.httpRoute "n") := rfl
  unfold routeItems
  rw [sources, sortedIds_of_ascending (by decide)]
  change Entries.sorted (Table.empty.set _ _).entries ++
    (Entries.sorted (Table.empty.set _ _).entries ++ []) = _
  rw [sorted_single, sorted_single]
  rfl

/-- A quota is laid over another one. -/
theorem layered_onlyQuota {policy own laid : Policy}
    (merges : ((notingRegistry.mergerFor quotaKind).merge .levels policy own).result = .ok laid) :
    layered notingRegistry.toPolicyMerger (onlyQuota policy) .empty (onlyQuota own) =
      .ok (onlyQuota laid) := by
  unfold onlyQuota
  rw [layered_singleton, Table.get?_set_self]
  change (_ <$> ((notingRegistry.mergerFor quotaKind).merge .levels policy own).result).mapError _ =
    _
  rw [merges]
  rfl

/-- The quotas of the routes are reconciled, and that of the backend can be laid over the
outcome. -/
theorem exists_reconciled_sharedBackend : ∃ policy laid,
    Table.fill (fun _ found policies =>
      (Merging.atNode (notingRegistry.toPolicyMerger.reconcile found policies)).result)
      [(ResourceId.gateway "n" "g", onlyQuota (quotaOn toNameSpace "first")),
        (.gateway "n" "g", onlyQuota (quotaOn toNameSpace "second"))] .empty =
      .ok (Table.empty.set (.gateway "n" "g") (onlyQuota policy)) ∧
    ((notingRegistry.mergerFor quotaKind).merge .levels policy (quotaOn toBackend "own")).result =
      .ok laid := by
  have first : (notingRegistry.reconcile none (onlyQuota (quotaOn toNameSpace "first"))).result =
      .ok (onlyQuota (quotaOn toNameSpace "first")) := by
    unfold onlyQuota
    rw [MergerRegistry.result_reconcile, sorted_single]
    rfl
  obtain ⟨policy, second, laid, merges⟩ : ∃ policy,
      (notingRegistry.reconcile (some (onlyQuota (quotaOn toNameSpace "first")))
        (onlyQuota (quotaOn toNameSpace "second"))).result = .ok (onlyQuota policy) ∧
      ∃ laid, ((notingRegistry.mergerFor quotaKind).merge .levels policy
        (quotaOn toBackend "own")).result = .ok laid := by
    unfold onlyQuota
    rw [MergerRegistry.result_reconcile, sorted_single]
    exact ⟨_, rfl, _, rfl⟩
  refine ⟨policy, laid, ?_, merges⟩
  rw [Table.fill_cons]
  refine Except.bind_ok_iff.mpr ⟨_, congrArg (Except.mapError MergeError.atNode) first, ?_⟩
  rw [Table.fill_cons]
  exact Except.bind_ok_iff.mpr ⟨_, congrArg (Except.mapError MergeError.atNode) second, rfl⟩

theorem result_sharedBackend : ∃ result, (sharedBackend.backendPartitions
    notingRegistry.toPolicyMerger [] (.backend "" "Service" "n" "b")).result = .ok result := by
  obtain ⟨policy, laid, routes, merges⟩ := exists_reconciled_sharedBackend
  have own : sharedBackend.policiesOn (some (.backend "" "Service" "n" "b")) =
    [quotaOn toBackend "own"] := rfl
  rw [result_backendPartitions, routeItems_sharedBackend]
  refine ⟨Table.empty.set (.gateway "n" "g") (onlyQuota laid), ?_⟩
  refine Except.bind_ok_iff.mpr ⟨_, levelOn_of_nil rfl, ?_⟩
  refine Except.bind_ok_iff.mpr ⟨_, levelOn_of_singleton own rfl, ?_⟩
  refine Except.bind_ok_iff.mpr ⟨_, routes, ?_⟩
  change Table.fill _ [(ResourceId.gateway "n" "g", onlyQuota policy)] _ = _
  rw [Table.fill_cons]
  exact Except.bind_ok_iff.mpr ⟨_, layered_onlyQuota merges, rfl⟩

theorem kindOn_sharedBackend :
    sharedBackend.kindOn quotaKind (sharedBackend.nameSpace? (.backend "" "Service" "n" "b")) = [] ∧
    sharedBackend.kindOn quotaKind (some (.backend "" "Service" "n" "b")) =
      [quotaOn toBackend "own"] := by
  rw [graph_sharedBackend.kindOn, graph_sharedBackend.kindOn]
  exact ⟨rfl, rfl⟩

theorem carriers_sharedBackend : sharedBackend.carriers (.backend "" "Service" "n" "b")
    (.gateway "n" "g") quotaKind = [.httpRoute "n" "r1", .httpRoute "n" "r2"] := rfl

theorem routeHasPart_sharedBackend {gateway : ResourceId} :
    sharedBackend.RouteHasPart (.backend "" "Service" "n" "b") gateway ↔
      gateway = .gateway "n" "g" := by
  rw [← visits_ne_nil_iff, ne_eq, ← List.map_eq_nil_iff, ← valuesAt_routeItems,
    routeItems_sharedBackend]
  by_cases same : gateway = .gateway "n" "g"
  · simp [same, Table.valuesAt_cons]
  · simp [same, Ne.symm same, Table.valuesAt_cons]

/-- The two quotas of the routes are merged with each other, and then that of the backend is laid
over the outcome. -/
theorem backendPartitions_calls_sharedBackend : ∃ result,
    (sharedBackend.backendPartitions notingRegistry.toPolicyMerger []
      (.backend "" "Service" "n" "b")).result = .ok result ∧
    result.keys = [.gateway "n" "g"] ∧
    (sharedBackend.backendPartitions (notingRegistry.onlyAt quotaKind).toPolicyMerger []
      (.backend "" "Service" "n" "b")).calls.countP (fun call => call.operation = .peers) = 1 ∧
    (sharedBackend.backendPartitions (notingRegistry.onlyAt quotaKind).toPolicyMerger []
      (.backend "" "Service" "n" "b")).calls.countP (fun call => call.operation = .levels) = 1 := by
  obtain ⟨result, found⟩ := result_sharedBackend
  have reachable : quotaBehindRoutes.Reachable := .applyAll .empty _
  obtain ⟨_, gateways, calls⟩ := backendPartitions_calls notingRegistry recording_notingRegistry
    reachable graph_sharedBackend [] _ found
  have keys : result.keys = [.gateway "n" "g"] := by
    refine List.perm_singleton.mp ((List.perm_ext_iff_of_nodup result.nodup_keys
      (List.nodup_singleton _)).mpr fun gateway => ?_)
    rw [List.mem_singleton]
    exact (gateways gateway).trans routeHasPart_sharedBackend
  refine ⟨result, found, keys, ?_, ?_⟩
  · rw [(calls quotaKind).peers, keys, kindOn_sharedBackend.1, kindOn_sharedBackend.2]
    simp [carriers_sharedBackend]
  · rw [(calls quotaKind).levels, keys, kindOn_sharedBackend.1, kindOn_sharedBackend.2]
    simp [carriers_sharedBackend, levelCalls]

end Topology

end PolicyTopology
