import PolicyTopology.Proofs.Policy.Carried
import PolicyTopology.Proofs.Topology.LevelPolicies
import PolicyTopology.Proofs.Topology.Legible

/-!
# Overrides of ancestors and defaults of one's own

With the registry that merges specifications, no descendant weakens what an ancestor overrides: the
leaves of the overrides of a gateway's class are kept by the gateway, and those of the gateway by
every route and backend that is reached through it, however many routes lead to the backend. And no
ancestor takes away what a node sets by default: the leaves of the defaults of its own policies are
kept in each of its parts.
-/

namespace PolicyTopology

/-- A manifest policy whose sections, if it is inherited, are objects or not present. -/
def Policy.Sectioned (policy : Policy) : Prop :=
  ∃ manifest, policy = .manifest manifest ∧ (manifest.inherited = true →
    ∀ name ∈ ["default", "override"], ∃ fields, policy.specFields.sectionFields? name = some fields)

namespace Topology

variable {before after : Topology} {mode : ResolutionMode} {report : ResolutionReport}

/-- An attached policy has an identity and a specification, so it is shaped if its sections are. -/
theorem Coherent.admits_shaped (h : before.Coherent) (sectioned : before.Admits Policy.Sectioned) :
    before.Admits Policy.Shaped := by
  intro id attachment stored
  have specified := h.admits_specified (sectioned.imp fun _ ⟨manifest, same, _⟩ => ⟨manifest, same⟩)
  obtain ⟨manifest, same, sections⟩ := sectioned id attachment stored
  refine Policy.shaped_iff.mpr ⟨specified id attachment stored, fun inherited => ?_⟩
  rw [same] at inherited
  exact sections inherited

/-- The merge of the policies at a target comes to a table, which holds for each kind what the
policies of this kind that are attached there come to one after the other. -/
structure LevelComesTo (topology : Topology) (target : ResourceId) (table : PoliciesByKind) :
    Prop where
  merged : (MergerRegistry.specifications.mergeLevel (topology.policiesOn (some target))).result =
    .ok table
  isLevel : IsLevel MergerRegistry.specifications topology (some target) table

/-- What a resolution keeps of the overrides of ancestors and of the defaults of each node's own
policies. -/
structure LevelsKept (before after : Topology) (report : ResolutionReport) : Prop where
  gateway : ∀ {gateway policies}, gateway ∈ before.idsOf .gateway → gateway ∉ report.failedIds →
    after.effective.get? gateway = some policies → ∃ gatewayClass ofClass own,
      before.target? .gatewayClass gateway = some gatewayClass ∧
      LevelComesTo before gatewayClass ofClass ∧ LevelComesTo before gateway own ∧
      ofClass.Carries "override" policies ∧ own.Carries "default" policies
  route : ∀ {route partitions}, route ∈ before.idsOf .httpRoute → route ∉ report.failedIds →
    after.partitions.get? route = some partitions → ∃ own, LevelComesTo before route own ∧
      ∀ {gateway part}, partitions.get? gateway = some part → own.Carries "default" part ∧
        ∃ policies, gateway ∉ report.failedIds ∧ after.effective.get? gateway = some policies ∧
          policies.Carries "override" part
  backend : ∀ {backend partitions}, backend ∈ before.idsOf .backend →
    backend ∉ report.failedIds → after.partitions.get? backend = some partitions → ∃ own,
      LevelComesTo before backend own ∧
      ∀ {gateway part}, partitions.get? gateway = some part → own.Carries "default" part ∧
        ∃ policies, gateway ∉ report.failedIds ∧ after.effective.get? gateway = some policies ∧
          policies.Carries "override" part

section Merges

variable {topology : Topology} {ancestors ofNameSpace own table : PoliciesByKind}

theorem result_of_atNode {α : Type} {merging : Merging α} {value : α}
    (h : (Merging.atNode merging).result = .ok value) : merging.result = .ok value :=
  Except.mapError_ok_iff.mp h

theorem levelOn_shaped (shaped : topology.Admits Policy.Shaped) {target : Option ResourceId}
    (h : levelOn MergerRegistry.specifications.toPolicyMerger topology target = .ok table) :
    (MergerRegistry.specifications.mergeLevel (topology.policiesOn target)).result = .ok table ∧
      table.All Policy.Shaped := by
  have result := result_of_atNode h
  have admitted : ∀ policy ∈ topology.policiesOn target, policy.Shaped :=
    fun _ member => shaped.of_mem_policiesOn member
  have tame := MergerRegistry.specifications_raisesOnlyConflicts.mergeLevel admitted
  rw [result] at tame
  exact ⟨result, tame⟩

theorem layered_shaped (hancestors : ancestors.All Policy.Shaped)
    (hofNameSpace : ofNameSpace.All Policy.Shaped) (hown : own.All Policy.Shaped)
    (h : layered MergerRegistry.specifications.toPolicyMerger ancestors ofNameSpace own =
      .ok table) :
    table.All Policy.Shaped ∧ ancestors.Carries "override" table ∧
      own.Carries "default" table := by
  rw [layered_eq, Except.bind_ok_iff] at h
  obtain ⟨middle, first, second⟩ := h
  have first := result_of_atNode first
  have second := result_of_atNode second
  have hmiddle := MergerRegistry.shaped_of_overlay hancestors hofNameSpace first
  refine ⟨MergerRegistry.shaped_of_overlay hmiddle hown second, ?_, ?_⟩
  · exact (MergerRegistry.carries_of_overlay_ancestor hancestors hofNameSpace first).trans
      (MergerRegistry.carries_of_overlay_ancestor hmiddle hown second)
  · exact MergerRegistry.carries_of_overlay_specific hmiddle hown second

/-- Parts that keep some overrides come to one that keeps them, in whatever order they are met. -/
theorem carries_of_gather {parts : List PoliciesByKind} {base : PoliciesByKind}
    (carried : ∀ part ∈ parts, part.All Policy.Shaped ∧ ancestors.Carries "override" part)
    (gathered : Table.gather (fun found policies => (Merging.atNode
      (MergerRegistry.specifications.reconcile found policies)).result) none parts =
        .ok (some base)) :
    base.All Policy.Shaped ∧ ancestors.Carries "override" base := by
  refine Table.gather_invariant
    (fun base : PoliciesByKind => base.All Policy.Shaped ∧ ancestors.Carries "override" base)
    (fun found holds part member next reconciles => ?_) (by simp) gathered base rfl
  have reconciles := result_of_atNode reconciles
  obtain ⟨all, carries⟩ := carried part member
  have tame := MergerRegistry.specifications_raisesOnlyConflicts.reconcile
    (fun base same => (holds base same).1) all
  change Merging.Tame _ (MergerRegistry.specifications.reconcile found part).result at tame
  rw [reconciles] at tame
  exact ⟨tame, MergerRegistry.carries_of_reconcile (fun base same => (holds base same).1) all
    reconciles (fun base same => (holds base same).2) carries⟩

end Merges

section Resolved

variable (h : Resolution MergerRegistry.specifications.toPolicyMerger mode before after report)
  (coherent : before.Coherent) (shaped : before.Admits Policy.Shaped)

include h coherent

/-- The levels of a gateway that holds policies. -/
theorem exists_gatewayLevels {gateway : ResourceId} {policies : PoliciesByKind}
    (member : gateway ∈ after.idsOf .gateway) (sound : gateway ∉ report.failedIds)
    (held : after.effective.get? gateway = some policies) :
    ∃ gatewayClass ofClass ofNameSpace own,
      after.target? .gatewayClass gateway = some gatewayClass ∧
      levelOn MergerRegistry.specifications.toPolicyMerger after (some gatewayClass) = .ok ofClass ∧
      levelOn MergerRegistry.specifications.toPolicyMerger after (after.nameSpace? gateway) =
        .ok ofNameSpace ∧
      levelOn MergerRegistry.specifications.toPolicyMerger after (some gateway) = .ok own ∧
      layered MergerRegistry.specifications.toPolicyMerger ofClass ofNameSpace own =
        .ok policies := by
  have result := h.gateway_of_sound coherent member sound
  rw [held] at result
  cases found : after.target? .gatewayClass gateway with
  | none =>
      rw [gatewayPolicies_of_classless found] at result
      cases result
  | some gatewayClass =>
      rw [result_gatewayPolicies found, Except.bind_ok_iff] at result
      obtain ⟨ofClass, classes, result⟩ := result
      obtain ⟨ofNameSpace, nameSpaces, result⟩ := Except.bind_ok_iff.mp result
      obtain ⟨own, owns, result⟩ := Except.bind_ok_iff.mp result
      obtain ⟨merged, layers, same⟩ := Except.map_ok_iff.mp result
      cases same
      exact ⟨gatewayClass, ofClass, ofNameSpace, own, rfl, classes, nameSpaces, owns, layers⟩

include shaped

theorem gateway_kept {gateway : ResourceId} {policies : PoliciesByKind}
    (member : gateway ∈ after.idsOf .gateway) (sound : gateway ∉ report.failedIds)
    (held : after.effective.get? gateway = some policies) : ∃ gatewayClass ofClass own,
      after.target? .gatewayClass gateway = some gatewayClass ∧
      (MergerRegistry.specifications.mergeLevel (after.policiesOn (some gatewayClass))).result =
        .ok ofClass ∧
      (MergerRegistry.specifications.mergeLevel (after.policiesOn (some gateway))).result =
        .ok own ∧
      ofClass.Carries "override" policies ∧ own.Carries "default" policies := by
  obtain ⟨gatewayClass, ofClass, ofNameSpace, own, found, classes, nameSpaces, owns, layers⟩ :=
    exists_gatewayLevels h coherent member sound held
  obtain ⟨classes, hclasses⟩ := levelOn_shaped (h.admits shaped) classes
  obtain ⟨_, hnameSpaces⟩ := levelOn_shaped (h.admits shaped) nameSpaces
  obtain ⟨owns, howns⟩ := levelOn_shaped (h.admits shaped) owns
  obtain ⟨_, overrides, defaults⟩ := layered_shaped hclasses hnameSpaces howns layers
  exact ⟨gatewayClass, ofClass, own, found, classes, owns, overrides, defaults⟩

theorem route_kept {route : ResourceId} {partitions : Partitions}
    (member : route ∈ after.idsOf .httpRoute) (sound : route ∉ report.failedIds)
    (held : after.partitions.get? route = some partitions) : ∃ own,
      (MergerRegistry.specifications.mergeLevel (after.policiesOn (some route))).result = .ok own ∧
      ∀ {gateway part}, partitions.get? gateway = some part → own.Carries "default" part ∧
        ∃ policies, gateway ∉ report.failedIds ∧ after.effective.get? gateway = some policies ∧
          policies.Carries "override" part := by
  obtain ⟨partitions', result, held', gateways⟩ := h.route_of_sound member sound
  rw [held] at held'
  cases held'
  obtain ⟨ofNameSpace, own, parts⟩ := routeParts_of_ok result
  obtain ⟨_, hnameSpaces⟩ := levelOn_shaped (h.admits shaped) parts.ofNameSpace_eq
  obtain ⟨owns, howns⟩ := levelOn_shaped (h.admits shaped) parts.own_eq
  refine ⟨own, owns, fun {gateway part} stored => ?_⟩
  obtain ⟨target, policies, effective, layers⟩ := parts.part stored
  have node := h.coherent.gateway_of_target target
  have hpolicies := h.gateway_admitted MergerRegistry.specifications_raisesOnlyConflicts coherent
    shaped node (gateways gateway target) effective
  obtain ⟨_, overrides, defaults⟩ := layered_shaped hpolicies hnameSpaces howns layers
  exact ⟨defaults, policies, gateways gateway target, effective, overrides⟩

/-- What a route of a backend passes on for a gateway keeps the overrides of the gateway. -/
theorem visit_kept {backend gateway : ResourceId} {part : PoliciesByKind}
    (routes : ∀ route ∈ after.sources .routeBackend backend, route ∉ report.failedIds)
    (member : part ∈ (after.visits backend gateway).map Prod.snd) :
    part.All Policy.Shaped ∧ ∃ policies, gateway ∉ report.failedIds ∧
      after.effective.get? gateway = some policies ∧ policies.Carries "override" part := by
  obtain ⟨⟨route, part⟩, visit, rfl⟩ := List.mem_map.mp member
  obtain ⟨source, partitions, held, stored⟩ := mem_visits.mp visit
  have node := h.coherent.route_of_source source
  have sound := routes route source
  obtain ⟨own, _, kept⟩ := route_kept h coherent shaped node sound held
  exact ⟨h.route_admitted MergerRegistry.specifications_raisesOnlyConflicts coherent shaped node
    sound held gateway part stored, (kept stored).2⟩

/-- What the routes of a backend come to for a gateway keeps the overrides of the gateway. -/
theorem reconciled_kept {backend gateway : ResourceId} {base : PoliciesByKind}
    (routes : ∀ route ∈ after.sources .routeBackend backend, route ∉ report.failedIds)
    (gathered : Table.gather (fun found policies => (Merging.atNode
        (MergerRegistry.specifications.reconcile found policies)).result) none
      ((after.visits backend gateway).map Prod.snd) = .ok (some base)) :
    base.All Policy.Shaped ∧ ∃ policies, gateway ∉ report.failedIds ∧
      after.effective.get? gateway = some policies ∧ policies.Carries "override" base := by
  have visited : ∀ part ∈ (after.visits backend gateway).map Prod.snd,
      part.All Policy.Shaped ∧ ∃ policies, gateway ∉ report.failedIds ∧
        after.effective.get? gateway = some policies ∧ policies.Carries "override" part :=
    fun _ member => visit_kept h coherent shaped routes member
  generalize (after.visits backend gateway).map Prod.snd = parts at gathered visited
  cases parts with
  | nil => cases gathered
  | cons first rest =>
      obtain ⟨_, policies, sound, effective, _⟩ := visited first List.mem_cons_self
      have carried : ∀ part ∈ first :: rest,
          part.All Policy.Shaped ∧ policies.Carries "override" part := by
        intro part member
        obtain ⟨all, policies', _, effective', carries⟩ := visited part member
        rw [effective] at effective'
        exact ⟨all, Option.some.inj effective' ▸ carries⟩
      obtain ⟨all, carries⟩ := carries_of_gather carried gathered
      exact ⟨all, policies, sound, effective, carries⟩

theorem backend_kept {backend : ResourceId} {partitions : Partitions}
    (member : backend ∈ after.idsOf .backend) (sound : backend ∉ report.failedIds)
    (held : after.partitions.get? backend = some partitions) : ∃ own,
      (MergerRegistry.specifications.mergeLevel (after.policiesOn (some backend))).result =
        .ok own ∧
      ∀ {gateway part}, partitions.get? gateway = some part → own.Carries "default" part ∧
        ∃ policies, gateway ∉ report.failedIds ∧ after.effective.get? gateway = some policies ∧
          policies.Carries "override" part := by
  obtain ⟨partitions', result, held', routes⟩ := h.backend_of_sound member sound
  rw [held] at held'
  cases held'
  obtain ⟨ofNameSpace, own, reconciled, parts⟩ := backendParts_of_ok result
  obtain ⟨_, hnameSpaces⟩ := levelOn_shaped (h.admits shaped) parts.ofNameSpace_eq
  obtain ⟨owns, howns⟩ := levelOn_shaped (h.admits shaped) parts.own_eq
  refine ⟨own, owns, fun {gateway part} stored => ?_⟩
  obtain ⟨base, found, layers⟩ := parts.part stored
  have gathered := parts.reconciled_eq gateway
  rw [found] at gathered
  obtain ⟨hbase, policies, sound, effective, carries⟩ :=
    reconciled_kept h coherent shaped routes gathered
  obtain ⟨_, overrides, defaults⟩ := layered_shaped hbase hnameSpaces howns layers
  exact ⟨defaults, policies, sound, effective, carries.trans overrides⟩

end Resolved

/-- No resolution with the registry that merges specifications weakens an override of an ancestor or
loses a default of a node's own. -/
theorem resolve_keeps_levels (reachable : before.Reachable)
    (sectioned : before.Admits Policy.Sectioned) :
    (∃ report after, (resolve MergerRegistry.specifications.toPolicyMerger .bestEffort).run before =
      (.ok report, after)) ∧
    ∀ mode report after, (resolve MergerRegistry.specifications.toPolicyMerger mode).run before =
      (.ok report, after) → LevelsKept before after report := by
  have coherent := reachable.coherent
  have shaped := coherent.admits_shaped sectioned
  refine ⟨resolve_bestEffort_total MergerRegistry.specifications_raisesOnlyConflicts coherent
    shaped, fun mode report after run => ?_⟩
  have h := resolution_of_run coherent run
  have level : ∀ {target table}, (MergerRegistry.specifications.mergeLevel
      (after.policiesOn (some target))).result = .ok table → LevelComesTo before target table := by
    intro target table merged
    rw [h.graph.policiesOn] at merged
    exact ⟨merged, coherent.isLevel reachable.indexedOnce merged⟩
  refine ⟨?_, ?_, ?_⟩
  · intro gateway policies member sound held
    rw [← h.graph.idsOf] at member
    obtain ⟨gatewayClass, ofClass, own, classed, classes, owns, kept⟩ :=
      gateway_kept h coherent shaped member sound held
    rw [h.graph.target?] at classed
    exact ⟨gatewayClass, ofClass, own, classed, level classes, level owns, kept⟩
  · intro route partitions member sound held
    rw [← h.graph.idsOf] at member
    obtain ⟨own, owns, kept⟩ := route_kept h coherent shaped member sound held
    exact ⟨own, level owns, kept⟩
  · intro backend partitions member sound held
    rw [← h.graph.idsOf] at member
    obtain ⟨own, owns, kept⟩ := backend_kept h coherent shaped member sound held
    exact ⟨own, level owns, kept⟩

def limit (name targetKind target : String) (sections : Fields) : Policy :=
  .manifest {
    manifest := .object [("apiVersion", .string "example.com/v1"), ("kind", .string "Limit"),
      ("metadata", .object [("name", .string name), ("namespace", .string "n")]),
      ("spec", .object (("targetRef", .object [("group", .string gatewayGroup),
        ("kind", .string targetKind), ("name", .string target)]) :: sections))]
    inherited := true }

def limitKind : MergeKind := ⟨"example.com", "Limit"⟩

theorem sectioned_limit {name targetKind target : String} {sections : Fields}
    (h : ∀ key ∈ ["default", "override"],
      ((limit name targetKind target sections).specFields.sectionFields? key).isSome) :
    (limit name targetKind target sections).Sectioned :=
  ⟨_, rfl, fun _ key member => Option.isSome_iff_exists.mp (h key member)⟩

/-- A class that overrides what a route of one of its gateways sets by default. -/
def overriddenRoute : Topology :=
  [Operation.insert (.gatewayClass ⟨"c", ""⟩), .insert (.gateway ⟨"n", "g", "c"⟩),
    .insert (.httpRoute ⟨"n", "r", [], []⟩),
    .connect .gatewayClass (.gateway "n" "g") (.gatewayClass "c"),
    .connect .routeGateway (.httpRoute "n" "r") (.gateway "n" "g"),
    .attach (limit "a" "GatewayClass" "c" [("override", .object [("x", .int 1)])]),
    .attach (limit "b" "HTTPRoute" "r" [("default", .object [("x", .int 2)])])].foldl
    Operation.apply .empty

theorem sectioned_overriddenRoute : overriddenRoute.Admits Policy.Sectioned := by
  intro id attachment stored
  have member := List.mem_map_of_mem (f := fun entry => entry.2.policy)
    (Table.mem_entries_iff.mpr stored)
  change attachment.policy ∈
    [limit "a" "GatewayClass" "c" [("override", .object [("x", .int 1)])],
      limit "b" "HTTPRoute" "r" [("default", .object [("x", .int 2)])]] at member
  simp only [List.mem_cons, List.not_mem_nil, or_false] at member
  rcases member with same | same
  · rw [same]
    exact sectioned_limit (by decide)
  · rw [same]
    exact sectioned_limit (by decide)

section OverriddenRoute

variable (h : Resolution MergerRegistry.specifications.toPolicyMerger mode overriddenRoute after
  report)

include h

theorem gateway_overriddenRoute : .gateway "n" "g" ∉ report.failedIds ∧
    after.effective.get? (.gateway "n" "g") = some (Table.empty.set limitKind
      (limit "a" "GatewayClass" "c" [("override", .object [("x", .int 1)])])) := by
  have classed : overriddenRoute.target? .gatewayClass (.gateway "n" "g") =
    some (.gatewayClass "c") := rfl
  have ofClass : overriddenRoute.policiesOn (some (.gatewayClass "c")) =
    [limit "a" "GatewayClass" "c" [("override", .object [("x", .int 1)])]] := rfl
  exact h.gateway_of_ok (Reachable.applyAll .empty _).coherent (by decide)
    (gatewayPolicies_of_class classed ofClass rfl rfl rfl)

theorem route_overriddenRoute : .httpRoute "n" "r" ∉ report.failedIds ∧
    ∃ part, after.partitions.get? (.httpRoute "n" "r") =
      some (Table.empty.set (.gateway "n" "g") part) := by
  obtain ⟨alive, effective⟩ := gateway_overriddenRoute h
  have gateways : (overriddenRoute.targets .routeGateway (.httpRoute "n" "r")).insertionSort
      (· ≤ ·) = [.gateway "n" "g"] := by decide
  have items : after.gatewayItems (.httpRoute "n" "r") = [(.gateway "n" "g",
      Table.empty.set limitKind
        (limit "a" "GatewayClass" "c" [("override", .object [("x", .int 1)])]))] := by
    rw [gatewayItems, h.graph.targets, sortedIds_eq, gateways]
    simp [effective]
  have ofNameSpace : after.policiesOn (after.nameSpace? (.httpRoute "n" "r")) = [] := by
    rw [h.graph.policiesOn, h.graph.nameSpace?]
    rfl
  have own : after.policiesOn (some (.httpRoute "n" "r")) =
      [limit "b" "HTTPRoute" "r" [("default", .object [("x", .int 2)])]] := by
    rw [h.graph.policiesOn]
    rfl
  have parts := @routePartitions_of_singleton _ MergerRegistry.specifications _ _ _ _ items
    ofNameSpace (levelOn_of_singleton own rfl)
  rw [layered_singleton] at parts
  obtain ⟨sound, held⟩ := h.route_of_ok (by decide) (fun gateway target => by
    rw [← List.mem_insertionSort (· ≤ ·), gateways] at target
    exact List.mem_singleton.mp target ▸ alive) parts
  exact ⟨sound, _, held⟩

end OverriddenRoute

/-- For the route both the override of the class and the default of its own hold. -/
theorem resolve_keeps_levels_overriddenRoute :
    overriddenRoute.Admits Policy.Sectioned ∧
    (∀ mode report after, (resolve MergerRegistry.specifications.toPolicyMerger mode).run
      overriddenRoute = (.ok report, after) → LevelsKept overriddenRoute after report) ∧
    ∃ report after, (resolve MergerRegistry.specifications.toPolicyMerger .bestEffort).run
      overriddenRoute = (.ok report, after) ∧
      ∃ partitions part entry, after.partitions.get? (.httpRoute "n" "r") = some partitions ∧
        partitions.get? (.gateway "n" "g") = some part ∧ part.get? limitKind = some entry ∧
        Document.HasLeaf (.object (entry.sectionFields "override")) ["x"] (.int 1) ∧
        Document.HasLeaf (.object (entry.sectionFields "default")) ["x"] (.int 2) := by
  have reachable : overriddenRoute.Reachable := .applyAll .empty _
  obtain ⟨⟨report, after, run⟩, kept⟩ := resolve_keeps_levels reachable sectioned_overriddenRoute
  refine ⟨sectioned_overriddenRoute, kept, report, after, run, ?_⟩
  have h := resolution_of_run reachable.coherent run
  obtain ⟨_, effective⟩ := gateway_overriddenRoute h
  obtain ⟨sound, part, held⟩ := route_overriddenRoute h
  have stored := Table.get?_set_self (Table.empty : Partitions) (.gateway "n" "g") part
  obtain ⟨own, level, carries⟩ := (kept _ report after run).route (by decide) sound held
  obtain ⟨defaults, _, _, effective', overrides⟩ := carries stored
  cases effective.symm.trans effective'
  obtain ⟨entry, found, _, carried⟩ := overrides limitKind _ (Table.get?_set_self ..)
  obtain ⟨entry', found', _, carried'⟩ := defaults limitKind _
    (Except.ok.inj (level.isLevel limitKind)).symm
  cases found.symm.trans found'
  exact ⟨_, part, entry, held, stored, found, carried rfl _ _ ⟨rfl, rfl⟩,
    carried' rfl _ _ ⟨rfl, rfl⟩⟩

end Topology

end PolicyTopology
