import PolicyTopology.Proofs.Policy.Group
import PolicyTopology.Proofs.Topology.Levels
import PolicyTopology.Proofs.Topology.Totality

/-!
# The groups of policies that reach a node

The policies that meet at a node, level by level: those of a gateway with a class, and for each such
gateway those of the routes and backends that are reached through it. A policy counts as often as it
reaches the node, since it is merged each time. With the registry that merges specifications, the
work on a node decides whether each of these groups agrees.
-/

namespace PolicyTopology

def NodeError.IsConflict (error : NodeError) : Prop :=
  ∃ conflict, error = .failure (.conflict conflict)

namespace Topology

open Policy (AgreeByKind LegibleAmong)
open Table (fill gather valuesAt)

/-- Whether a gateway has a class. -/
def Classed (topology : Topology) (gateway : ResourceId) : Prop :=
  topology.target? .gatewayClass gateway ≠ none

/-- The policies of the class of a gateway, of its namespace and its own. -/
def groupAtGateway (topology : Topology) (gateway : ResourceId) : List Policy :=
  topology.policiesOn (topology.target? .gatewayClass gateway) ++
    topology.policiesOn (topology.nameSpace? gateway) ++ topology.policiesOn (some gateway)

/-- The policies that reach a route through a gateway, those of its namespace and its own. -/
def groupAtRoute (topology : Topology) (gateway route : ResourceId) : List Policy :=
  topology.groupAtGateway gateway ++ topology.policiesOn (topology.nameSpace? route) ++
    topology.policiesOn (some route)

def attachedRoutes (topology : Topology) (backend gateway : ResourceId) : List ResourceId :=
  (topology.sources .routeBackend backend).filter fun route =>
    gateway ∈ topology.targets .routeGateway route

/-- The policies that reach a backend through a gateway, route by route, those of its namespace and
its own. -/
def groupAtBackend (topology : Topology) (gateway backend : ResourceId) : List Policy :=
  (topology.attachedRoutes backend gateway).flatMap (topology.groupAtRoute gateway) ++
    topology.policiesOn (topology.nameSpace? backend) ++ topology.policiesOn (some backend)

/-- What is held for a group of policies: nothing unless it is reached, and otherwise a table that
stands for it. -/
def HeldFor (reached : Prop) (group : List Policy) : Option PoliciesByKind → Prop
  | none => ¬ reached
  | some policies => reached ∧ AgreeByKind group ∧ policies.StandsFor group

def ReachedThrough (topology : Topology) (gateway route : ResourceId) : Prop :=
  gateway ∈ topology.targets .routeGateway route ∧ topology.Classed gateway

def ReachesBackend (topology : Topology) (gateway backend : ResourceId) : Prop :=
  ∃ route ∈ topology.sources .routeBackend backend, topology.ReachedThrough gateway route

/-- The groups of policies that are merged for a node. -/
inductive GroupOf (topology : Topology) : ResourceId → List Policy → Prop where
  | gateway {id : ResourceId} : id.nodeKind = .gateway → topology.Classed id →
      GroupOf topology id (topology.groupAtGateway id)
  | ofNameSpace {id : ResourceId} : id.nodeKind = .httpRoute ∨ id.nodeKind = .backend →
      GroupOf topology id (topology.policiesOn (topology.nameSpace? id))
  | own {id : ResourceId} : id.nodeKind = .httpRoute ∨ id.nodeKind = .backend →
      GroupOf topology id (topology.policiesOn (some id))
  | route {id gateway : ResourceId} : id.nodeKind = .httpRoute →
      topology.ReachedThrough gateway id → GroupOf topology id (topology.groupAtRoute gateway id)
  | backend {id gateway : ResourceId} : id.nodeKind = .backend →
      topology.ReachesBackend gateway id → GroupOf topology id (topology.groupAtBackend gateway id)

/-- Wherever two policies of a group of a node meet, they are legible together. -/
def LegibleAt (topology : Topology) (id : ResourceId) : Prop :=
  ∀ group, topology.GroupOf id group → LegibleAmong group

variable {topology : Topology} {group others own : List Policy}
  {ancestors ofNameSpace ofNode : PoliciesByKind}

theorem decides_atNode {α : Type} {merging : Merging α} {agreed : Prop} {property : α → Prop}
    (h : Except.Decides MergeError.IsConflict agreed property merging.result) :
    Except.Decides NodeError.IsConflict agreed property (Merging.atNode merging).result := by
  refine h.mapError fun error conflict => ?_
  obtain ⟨found, rfl⟩ := conflict
  exact ⟨found, rfl⟩

theorem decides_levelOn (specified : topology.Admits Policy.Specified) {target : Option ResourceId}
    (legible : LegibleAmong (topology.policiesOn target)) :
    Except.Decides NodeError.IsConflict (AgreeByKind (topology.policiesOn target))
      (PoliciesByKind.StandsFor (topology.policiesOn target))
      (levelOn MergerRegistry.specifications.toPolicyMerger topology target) :=
  decides_atNode
    (MergerRegistry.decides_mergeLevel (fun _ member => specified.of_mem_policiesOn member) legible)

theorem decides_layered (h : ancestors.StandsFor group) (agree : AgreeByKind group)
    (h' : ofNameSpace.StandsFor others) (agree' : AgreeByKind others) (h'' : ofNode.StandsFor own)
    (agree'' : AgreeByKind own) (legible : LegibleAmong (group ++ others ++ own)) :
    Except.Decides NodeError.IsConflict (AgreeByKind (group ++ others ++ own))
      (PoliciesByKind.StandsFor (group ++ others ++ own))
      (layered MergerRegistry.specifications.toPolicyMerger ancestors ofNameSpace ofNode) := by
  rw [layered_eq]
  have legible' := legible.sublist (List.sublist_append_left (group ++ others) own)
  refine (decides_atNode (MergerRegistry.decides_overlay legible' h agree h' agree')).bind
    (fun middle agree holds => ?_) fun all => all.sublist (List.sublist_append_left _ _)
  exact decides_atNode (MergerRegistry.decides_overlay legible holds agree h'' agree'')

/-- The work on a gateway with a class decides whether its group agrees. -/
theorem decides_gatewayPolicies (specified : topology.Admits Policy.Specified)
    {gateway : ResourceId} (classed : topology.Classed gateway)
    (legible : LegibleAmong (topology.groupAtGateway gateway)) :
    Except.Decides NodeError.IsConflict (AgreeByKind (topology.groupAtGateway gateway))
      (HeldFor (topology.Classed gateway) (topology.groupAtGateway gateway))
      (topology.gatewayPolicies MergerRegistry.specifications.toPolicyMerger gateway).result := by
  obtain ⟨gatewayClass, found⟩ := Option.ne_none_iff_exists'.mp classed
  rw [groupAtGateway, found] at legible
  rw [result_gatewayPolicies found, groupAtGateway, found]
  have ofClass := (List.sublist_append_left (topology.policiesOn (some gatewayClass))
    (topology.policiesOn (topology.nameSpace? gateway))).trans
    (List.sublist_append_left _ (topology.policiesOn (some gateway)))
  have ofNameSpace := (List.sublist_append_right (topology.policiesOn (some gatewayClass))
    (topology.policiesOn (topology.nameSpace? gateway))).trans
    (List.sublist_append_left _ (topology.policiesOn (some gateway)))
  have own := List.sublist_append_right (topology.policiesOn (some gatewayClass) ++
    topology.policiesOn (topology.nameSpace? gateway)) (topology.policiesOn (some gateway))
  refine (decides_levelOn specified (legible.sublist ofClass)).bind
    (fun _ agree holds => ?_) fun all => all.sublist ofClass
  refine (decides_levelOn specified (legible.sublist ofNameSpace)).bind
    (fun _ agree' holds' => ?_) fun all => all.sublist ofNameSpace
  refine (decides_levelOn specified (legible.sublist own)).bind
    (fun _ agree'' holds'' => ?_) fun all => all.sublist own
  exact ((decides_layered holds agree holds' agree' holds'' agree'' legible).congr .rfl
    fun table all stands => And.intro all stands).map fun table both => ⟨classed, both⟩

/-- The part of a node for one gateway: what is held for the ancestors, with the two levels of the
node over it. -/
theorem decides_part {reached : Prop} {found start : Option PoliciesByKind}
    (h : HeldFor reached group found) (h' : ofNameSpace.StandsFor others)
    (agree' : AgreeByKind others) (h'' : ofNode.StandsFor own) (agree'' : AgreeByKind own)
    (legible : reached → LegibleAmong (group ++ others ++ own)) {values : List PoliciesByKind}
    (same : ∀ value ∈ values, some value = found)
    (none_iff : values = [] ↔ found = none) (start_none : found = none → start = none) :
    Except.Decides NodeError.IsConflict (reached → AgreeByKind (group ++ others ++ own))
      (HeldFor reached (group ++ others ++ own))
      (gather (fun _ policies => layered MergerRegistry.specifications.toPolicyMerger policies
        ofNameSpace ofNode) start values) := by
  cases found with
  | none =>
      rw [none_iff.mpr rfl, start_none rfl]
      exact ⟨fun reached => absurd reached h, h⟩
  | some policies =>
      obtain ⟨reached, agree, stands⟩ := h
      have nonempty : values ≠ [] := fun empty => nomatch none_iff.mp empty
      have merged := decides_layered stands agree h' agree' h'' agree'' (legible reached)
      refine (@Except.Decides.gather_const _ _ _ _ _ _ _ policies merged values
        (fun other member => Option.some.inj (same other member)) nonempty start).congr
        ⟨fun yes _ => yes, fun yes => yes reached⟩ fun result yes held => ?_
      obtain ⟨part, rfl, stands⟩ := held
      exact ⟨reached, yes, stands⟩

/-- The work on a route decides whether its levels agree and, for each gateway through which it is
reached, its group. -/
theorem decides_routePartitions (specified : topology.Admits Policy.Specified)
    {route : ResourceId} (kind : route.nodeKind = .httpRoute) (legible : topology.LegibleAt route)
    (read : ∀ gateway ∈ topology.targets .routeGateway route,
      HeldFor (topology.Classed gateway) (topology.groupAtGateway gateway)
        (topology.effective.get? gateway)) :
    Except.Decides NodeError.IsConflict
      (AgreeByKind (topology.policiesOn (topology.nameSpace? route)) ∧
        AgreeByKind (topology.policiesOn (some route)) ∧
        ∀ gateway, topology.ReachedThrough gateway route →
          AgreeByKind (topology.groupAtRoute gateway route))
      (fun partitions => ∀ gateway, HeldFor (topology.ReachedThrough gateway route)
        (topology.groupAtRoute gateway route) (partitions.get? gateway))
      (topology.routePartitions MergerRegistry.specifications.toPolicyMerger [] route).result := by
  rw [result_routePartitions]
  refine (decides_levelOn specified (legible _ (.ofNameSpace (.inl kind)))).bind
    (fun ofNameSpace agree holds => ?_) And.left
  refine (decides_levelOn specified (legible _ (.own (.inl kind)))).bind
    (fun own agree' holds' => ?_) fun all => all.2.1
  have legible' : ∀ gateway, topology.ReachedThrough gateway route →
      LegibleAmong (topology.groupAtRoute gateway route) :=
    fun gateway reached => legible _ (.route kind reached)
  refine Except.Decides.congr (Except.Decides.fill fun gateway => ?_)
    ⟨fun parts => ⟨agree, agree', parts⟩, fun all => all.2.2⟩ fun _ _ parts => parts
  by_cases target : gateway ∈ topology.targets .routeGateway route
  · have held := read gateway target
    refine decides_part (show HeldFor (topology.ReachedThrough gateway route) _
      (topology.effective.get? gateway) from ?_) holds agree holds' agree' (legible' gateway) ?_ ?_
      fun _ => rfl
    · rwa [ReachedThrough, and_iff_right target]
    · intro policies member
      exact (mem_gatewayItems.mp (Table.mem_valuesAt.mp member)).2.symm
    · rw [List.eq_nil_iff_forall_not_mem, Option.eq_none_iff_forall_ne_some]
      exact forall_congr' fun policies => not_congr
        (Table.mem_valuesAt.trans (mem_gatewayItems.trans (and_iff_right target)))
  · have absent : valuesAt (topology.gatewayItems route) gateway = [] :=
      List.eq_nil_iff_forall_not_mem.mpr fun policies member =>
        target (mem_gatewayItems.mp (Table.mem_valuesAt.mp member)).1
    exact decides_part (show HeldFor (topology.ReachedThrough gateway route) _ none from
      fun reached => target reached.1) holds agree holds' agree' (legible' gateway)
      (by simp [absent]) (by simp [absent]) fun _ => rfl

/-- To reconcile what the routes of a backend have is to decide whether all their groups agree. -/
theorem decides_visits {group : ResourceId → List Policy}
    {visits : List (ResourceId × PoliciesByKind)}
    (read : ∀ visit ∈ visits, AgreeByKind (group visit.1) ∧ visit.2.StandsFor (group visit.1))
    (found : Option PoliciesByKind) {former : List Policy} (agree : AgreeByKind former)
    (stands : (found.getD .empty).StandsFor former)
    (legible : LegibleAmong (former ++ (visits.map Prod.fst).flatMap group)) :
    Except.Decides NodeError.IsConflict
      (AgreeByKind (former ++ (visits.map Prod.fst).flatMap group))
      (fun result =>
        (result.getD .empty).StandsFor (former ++ (visits.map Prod.fst).flatMap group) ∧
        (result = none ↔ found = none ∧ visits = []))
      (gather (fun found policies =>
        (Merging.atNode (MergerRegistry.specifications.reconcile found policies)).result) found
        (visits.map Prod.snd)) := by
  induction visits generalizing found former with
  | nil =>
      rw [List.map_nil, List.flatMap_nil, List.append_nil]
      exact ⟨agree, stands, by simp⟩
  | cons visit rest ih =>
      obtain ⟨agree', stands'⟩ := read visit List.mem_cons_self
      rw [List.map_cons, List.flatMap_cons, ← List.append_assoc] at legible
      rw [List.map_cons, List.map_cons, List.flatMap_cons, ← List.append_assoc, Table.gather_cons]
      refine (decides_atNode (MergerRegistry.decides_reconcile
        (legible.sublist (List.sublist_append_left _ _)) stands agree stands' agree')).bind
        (fun next all holds => ?_) fun all => all.sublist (List.sublist_append_left _ _)
      refine (ih (fun other member => read other (List.mem_cons_of_mem visit member)) (some next)
        all holds legible).congr .rfl fun result _ both => ⟨both.1, ?_⟩
      rw [both.2]
      simp

section Backend

variable {backend : ResourceId}

def RoutesHeld (topology : Topology) (backend : ResourceId) : Prop :=
  ∀ route ∈ topology.sources .routeBackend backend, ∃ partitions,
    topology.partitions.get? route = some partitions ∧ ∀ gateway,
      HeldFor (topology.ReachedThrough gateway route) (topology.groupAtRoute gateway route)
        (partitions.get? gateway)

theorem map_fst_visits (backend gateway : ResourceId) :
    (topology.visits backend gateway).map Prod.fst =
      (sortedIds (topology.sources .routeBackend backend)).filter fun route =>
        ((topology.partitions.get? route).bind (·.get? gateway)).isSome := by
  unfold visits
  rw [← sortedIds_eq]
  induction sortedIds (topology.sources .routeBackend backend) with
  | nil => rfl
  | cons route rest ih =>
      rw [List.filterMap_cons, List.filter_cons]
      cases (topology.partitions.get? route).bind (·.get? gateway) with
      | none => exact ih
      | some policies => exact congrArg (route :: ·) ih

theorem RoutesHeld.visit (read : topology.RoutesHeld backend) {gateway : ResourceId}
    {visit : ResourceId × PoliciesByKind} (member : visit ∈ topology.visits backend gateway) :
    visit.1 ∈ topology.sources .routeBackend backend ∧
      HeldFor (topology.ReachedThrough gateway visit.1) (topology.groupAtRoute gateway visit.1)
        (some visit.2) := by
  obtain ⟨source, partitions, held, stored⟩ := mem_visits.mp member
  obtain ⟨partitions', held', each⟩ := read visit.1 source
  rw [held] at held'
  cases held'
  exact ⟨source, stored ▸ each gateway⟩

/-- The routes that are visited for a gateway with a class are those attached to it. -/
theorem RoutesHeld.perm_visits (read : topology.RoutesHeld backend) {gateway : ResourceId}
    (classed : topology.Classed gateway) :
    ((topology.visits backend gateway).map Prod.fst).Perm
      (topology.attachedRoutes backend gateway) := by
  rw [map_fst_visits]
  refine List.Perm.trans (List.Perm.of_eq (List.filter_congr fun route member => ?_))
    ((sortedIds_perm _).filter _)
  obtain ⟨partitions, held, each⟩ := read route (mem_sortedIds.mp member)
  have reached := each gateway
  rw [held, Option.bind_some, Bool.eq_iff_iff, decide_eq_true_iff]
  cases part : partitions.get? gateway with
  | none =>
      rw [part] at reached
      simpa using fun target => reached ⟨target, classed⟩
  | some policies =>
      rw [part] at reached
      simpa using reached.1.1

/-- To reconcile what the routes of a backend have for a gateway is to decide whether the policies
agree that reach it through this gateway. -/
theorem decides_reconciled (read : topology.RoutesHeld backend) (gateway : ResourceId)
    (legible : topology.ReachesBackend gateway backend → LegibleAmong
      ((topology.attachedRoutes backend gateway).flatMap (topology.groupAtRoute gateway))) :
    Except.Decides NodeError.IsConflict
      (topology.ReachesBackend gateway backend → AgreeByKind
        ((topology.attachedRoutes backend gateway).flatMap (topology.groupAtRoute gateway)))
      (HeldFor (topology.ReachesBackend gateway backend)
        ((topology.attachedRoutes backend gateway).flatMap (topology.groupAtRoute gateway)))
      (gather (fun found policies =>
        (Merging.atNode (MergerRegistry.specifications.reconcile found policies)).result) none
        ((topology.visits backend gateway).map Prod.snd)) := by
  have visited : ∀ visit ∈ topology.visits backend gateway,
      AgreeByKind (topology.groupAtRoute gateway visit.1) ∧
        visit.2.StandsFor (topology.groupAtRoute gateway visit.1) :=
    fun visit member => (read.visit member).2.2
  by_cases reached : topology.ReachesBackend gateway backend
  · obtain ⟨route, source, target, classed⟩ := id reached
    have perm := (read.perm_visits classed).flatMap_right (topology.groupAtRoute gateway)
    have decided := decides_visits visited none Policy.agreeByKind_nil
      PoliciesByKind.standsFor_empty ((legible reached).perm perm.symm)
    have nonempty : topology.visits backend gateway ≠ [] := by
      intro none
      have member := (read.perm_visits classed).mem_iff.mpr
        (List.mem_filter.mpr ⟨source, decide_eq_true target⟩)
      rw [none] at member
      cases member
    refine decided.congr
      ⟨fun agree _ => agree.perm perm, fun agree => (agree reached).perm perm.symm⟩
      fun result agree both => ?_
    cases result with
    | none => exact absurd (both.2.mp rfl).2 nonempty
    | some policies =>
        exact ⟨reached, agree.perm perm, fun kind => (both.1 kind).perm (perm.filter _)⟩
  · have none : topology.visits backend gateway = [] := by
      refine List.eq_nil_iff_forall_not_mem.mpr fun visit member => reached ?_
      obtain ⟨source, through, _⟩ := read.visit member
      exact ⟨visit.1, source, through⟩
    rw [none]
    exact ⟨fun yes => absurd yes reached, reached⟩

/-- The work on a backend decides whether its levels agree and, for each gateway through which it is
reached, its group. -/
theorem decides_backendPartitions (specified : topology.Admits Policy.Specified)
    (kind : backend.nodeKind = .backend) (legible : topology.LegibleAt backend)
    (read : topology.RoutesHeld backend) :
    Except.Decides NodeError.IsConflict
      (AgreeByKind (topology.policiesOn (topology.nameSpace? backend)) ∧
        AgreeByKind (topology.policiesOn (some backend)) ∧
        ∀ gateway, topology.ReachesBackend gateway backend →
          AgreeByKind (topology.groupAtBackend gateway backend))
      (fun partitions => ∀ gateway, HeldFor (topology.ReachesBackend gateway backend)
        (topology.groupAtBackend gateway backend) (partitions.get? gateway))
      (topology.backendPartitions MergerRegistry.specifications.toPolicyMerger []
        backend).result := by
  have legible' : ∀ gateway, topology.ReachesBackend gateway backend →
      LegibleAmong (topology.groupAtBackend gateway backend) :=
    fun gateway reached => legible _ (.backend kind reached)
  have ofRoutes : ∀ gateway, ((topology.attachedRoutes backend gateway).flatMap
      (topology.groupAtRoute gateway)).Sublist (topology.groupAtBackend gateway backend) :=
    fun gateway => (List.sublist_append_left _ _).trans (List.sublist_append_left _ _)
  rw [result_backendPartitions]
  refine (decides_levelOn specified (legible _ (.ofNameSpace (.inr kind)))).bind
    (fun ofNameSpace agree holds => ?_) And.left
  refine (decides_levelOn specified (legible _ (.own (.inr kind)))).bind
    (fun own agree' holds' => ?_) fun all => all.2.1
  have reconciles := fun gateway => decides_reconciled read gateway fun reached =>
    (legible' gateway reached).sublist (ofRoutes gateway)
  simp only [← valuesAt_routeItems] at reconciles
  refine (Except.Decides.fill reconciles).bind (fun reconciled _ held => ?_) ?_
  · refine Except.Decides.congr (Except.Decides.fill fun gateway => ?_)
      ⟨fun parts => ⟨agree, agree', parts⟩, fun all => all.2.2⟩ fun _ _ parts => parts
    rw [Table.valuesAt_of_perm (List.Perm.refl _)]
    exact decides_part (held gateway) holds agree holds' agree' (legible' gateway)
      (by simp [eq_comm]) (by simp) id
  · rintro ⟨_, _, parts⟩ gateway reached
    exact (parts gateway reached).sublist (ofRoutes gateway)

end Backend

/-- Every group of a node agrees. -/
def AgreesAt (topology : Topology) (id : ResourceId) : Prop :=
  ∀ group, topology.GroupOf id group → AgreeByKind group

section AgreesAt

variable {id : ResourceId}

theorem agreesAt_gateway_iff (kind : id.nodeKind = .gateway) (classed : topology.Classed id) :
    topology.AgreesAt id ↔ AgreeByKind (topology.groupAtGateway id) := by
  constructor
  · exact fun all => all _ (.gateway kind classed)
  · intro agree group member
    cases member with
    | gateway _ _ => exact agree
    | ofNameSpace other => simp [kind] at other
    | own other => simp [kind] at other
    | route other _ => simp [kind] at other
    | backend other _ => simp [kind] at other

theorem agreesAt_of_classless (kind : id.nodeKind = .gateway) (classless : ¬ topology.Classed id) :
    topology.AgreesAt id := by
  intro group member
  cases member with
  | gateway _ classed => exact absurd classed classless
  | ofNameSpace other => simp [kind] at other
  | own other => simp [kind] at other
  | route other _ => simp [kind] at other
  | backend other _ => simp [kind] at other

theorem agreesAt_route_iff (kind : id.nodeKind = .httpRoute) :
    topology.AgreesAt id ↔ AgreeByKind (topology.policiesOn (topology.nameSpace? id)) ∧
      AgreeByKind (topology.policiesOn (some id)) ∧ ∀ gateway, topology.ReachedThrough gateway id →
        AgreeByKind (topology.groupAtRoute gateway id) := by
  constructor
  · intro all
    exact ⟨all _ (.ofNameSpace (.inl kind)), all _ (.own (.inl kind)),
      fun gateway reached => all _ (.route kind reached)⟩
  · rintro ⟨ofNameSpace, own, parts⟩ group member
    cases member with
    | gateway other _ => simp [kind] at other
    | ofNameSpace _ => exact ofNameSpace
    | own _ => exact own
    | route _ reached => exact parts _ reached
    | backend other _ => simp [kind] at other

theorem agreesAt_backend_iff (kind : id.nodeKind = .backend) :
    topology.AgreesAt id ↔ AgreeByKind (topology.policiesOn (topology.nameSpace? id)) ∧
      AgreeByKind (topology.policiesOn (some id)) ∧ ∀ gateway, topology.ReachesBackend gateway id →
        AgreeByKind (topology.groupAtBackend gateway id) := by
  constructor
  · intro all
    exact ⟨all _ (.ofNameSpace (.inr kind)), all _ (.own (.inr kind)),
      fun gateway reached => all _ (.backend kind reached)⟩
  · rintro ⟨ofNameSpace, own, parts⟩ group member
    cases member with
    | gateway other _ => simp [kind] at other
    | ofNameSpace _ => exact ofNameSpace
    | own _ => exact own
    | route other _ => simp [kind] at other
    | backend _ reached => exact parts _ reached

end AgreesAt

end Topology

end PolicyTopology
