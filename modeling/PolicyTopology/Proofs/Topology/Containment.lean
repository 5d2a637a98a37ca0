import PolicyTopology.Proofs.Topology.Conflict

/-!
# Conflicts that stay where they are

With the registry that merges specifications a best-effort resolution reports each conflict at the
nodes that it reaches, and resolves all others. It comes to an end as long as policies are legible
together wherever they meet. It does not if the sections of two inherited policies have to be merged
and one of them is no object: that is a fault, and no report is left.
-/

namespace PolicyTopology

namespace Topology

/-- The nodes that a conflict reaches: those with a divided group, and those that depend on a node
that it reaches. -/
inductive Afflicted (topology : Topology) : ResourceId → Prop where
  | divided {id : ResourceId} : topology.DividedAt id → Afflicted topology id
  | route {gateway route : ResourceId} : gateway ∈ topology.targets .routeGateway route →
      Afflicted topology gateway → Afflicted topology route
  | backend {route backend : ResourceId} : route ∈ topology.sources .routeBackend backend →
      Afflicted topology route → Afflicted topology backend

section Afflicted

variable {topology : Topology} {id : ResourceId} (coherent : topology.Coherent)

include coherent

theorem afflicted_gateway_iff (kind : id.nodeKind = .gateway) :
    topology.Afflicted id ↔ topology.DividedAt id := by
  refine ⟨fun h => ?_, .divided⟩
  cases h with
  | divided split => exact split
  | route target _ =>
      have other := nodeKind_of_mem_idsOf (hasNode_iff.mp (coherent.outgoing_ends target).1)
      exact nomatch kind.symm.trans other
  | backend source _ =>
      have other := nodeKind_of_mem_idsOf (hasNode_iff.mp (coherent.incoming_ends source).2)
      exact nomatch kind.symm.trans other

theorem afflicted_route_iff (kind : id.nodeKind = .httpRoute) : topology.Afflicted id ↔
    (∃ gateway ∈ topology.targets .routeGateway id, topology.Afflicted gateway) ∨
      topology.DividedAt id := by
  constructor
  · intro h
    cases h with
    | divided split => exact .inr split
    | route target afflicted => exact .inl ⟨_, target, afflicted⟩
    | backend source _ =>
        have other := nodeKind_of_mem_idsOf (hasNode_iff.mp (coherent.incoming_ends source).2)
        exact nomatch kind.symm.trans other
  · rintro (⟨gateway, target, afflicted⟩ | split)
    · exact .route target afflicted
    · exact .divided split

theorem afflicted_backend_iff (kind : id.nodeKind = .backend) : topology.Afflicted id ↔
    (∃ route ∈ topology.sources .routeBackend id, topology.Afflicted route) ∨
      topology.DividedAt id := by
  constructor
  · intro h
    cases h with
    | divided split => exact .inr split
    | route target _ =>
        have other := nodeKind_of_mem_idsOf (hasNode_iff.mp (coherent.outgoing_ends target).1)
        exact nomatch kind.symm.trans other
    | backend source afflicted => exact .inl ⟨_, source, afflicted⟩
  · rintro (⟨route, source, afflicted⟩ | split)
    · exact .backend source afflicted
    · exact .divided split

end Afflicted

/-- A resolution that led from `before` to `after` reports each conflict where it arises, and
resolves the nodes that no conflict reaches. -/
structure ConflictsContained (before after : Topology) (report : ResolutionReport) : Prop where
  gateway_conflict : ∀ id ∈ before.idsOf .gateway,
    (∃ conflict, ⟨id, .conflict conflict⟩ ∈ report.failures) ↔ before.DividedAt id
  route_conflict : ∀ id ∈ before.idsOf .httpRoute,
    (∃ conflict, ⟨id, .conflict conflict⟩ ∈ report.failures) ↔
      (∀ gateway ∈ before.targets .routeGateway id, ¬ before.Afflicted gateway) ∧
        before.DividedAt id
  backend_conflict : ∀ id ∈ before.idsOf .backend,
    (∃ conflict, ⟨id, .conflict conflict⟩ ∈ report.failures) ↔
      (∀ route ∈ before.sources .routeBackend id, ¬ before.Afflicted route) ∧ before.DividedAt id
  /-- The failed nodes are those that a conflict reaches. -/
  failed_iff : ∀ kind ∈ [NodeKind.gateway, .httpRoute, .backend], ∀ id ∈ before.idsOf kind,
    id ∈ report.failedIds ↔ before.Afflicted id
  gateway_resolved : ∀ id ∈ before.idsOf .gateway, ¬ before.Afflicted id →
    GatewayHeld MergerRegistry.specifications.toPolicyMerger after id ∧
      (before.Classed id → after.effective.get? id ≠ none)
  route_resolved : ∀ id ∈ before.idsOf .httpRoute, ¬ before.Afflicted id → ∃ partitions,
    RouteHeld MergerRegistry.specifications.toPolicyMerger after id partitions
  backend_resolved : ∀ id ∈ before.idsOf .backend, ¬ before.Afflicted id → ∃ partitions,
    BackendHeld MergerRegistry.specifications.toPolicyMerger after id partitions

end Topology

/-- A node that comes to no result of its own where one that it depends on has failed. -/
structure ResolutionReport.Awaits (report : ResolutionReport) (id : ResourceId)
    (dependencies : List ResourceId) : Prop where
  sound : id ∉ report.failedIds → ∀ other ∈ dependencies, other ∉ report.failedIds
  conflict : ∀ {conflict}, ⟨id, .conflict conflict⟩ ∈ report.failures →
    ∀ other ∈ dependencies, other ∉ report.failedIds

namespace ResolutionReport.Awaits

variable {report : ResolutionReport} {id : ResourceId} {dependencies : List ResourceId}
  {agreed : Prop} (h : report.Awaits id dependencies)
  (judged : (∀ other ∈ dependencies, other ∉ report.failedIds) → report.Judges id agreed)

include h judged

theorem failed_iff :
    id ∈ report.failedIds ↔ (∃ other ∈ dependencies, other ∈ report.failedIds) ∨ ¬ agreed := by
  by_cases sound : ∀ other ∈ dependencies, other ∉ report.failedIds
  · rw [(judged sound).failed_iff]
    refine ⟨.inr, fun either => either.resolve_left ?_⟩
    rintro ⟨other, member, failed⟩
    exact sound other member failed
  · have failed : id ∈ report.failedIds := not_not.mp fun alive => sound (h.sound alive)
    simp only [not_forall, not_not] at sound
    obtain ⟨other, member, failed'⟩ := sound
    exact ⟨fun _ => .inl ⟨other, member, failed'⟩, fun _ => failed⟩

theorem conflict_iff : (∃ conflict, ⟨id, .conflict conflict⟩ ∈ report.failures) ↔
    (∀ other ∈ dependencies, other ∉ report.failedIds) ∧ ¬ agreed := by
  constructor
  · rintro ⟨conflict, entered⟩
    have sound := h.conflict entered
    exact ⟨sound, (judged sound).conflict_iff.mp ⟨conflict, entered⟩⟩
  · rintro ⟨sound, disagree⟩
    exact (judged sound).conflict_iff.mpr disagree

end ResolutionReport.Awaits

namespace Resolution

variable {merger : PolicyMerger} {mode : ResolutionMode} {before after : Topology}
  {report : ResolutionReport} {id : ResourceId}

theorem awaits_of_settled {α : Type} {ids dependencies : List ResourceId} {own : Except NodeError α}
    {outcome : ResourceId → Outcome α} {start finish : ResourceId → Option α} {tally : Tally}
    (h : Settled mode ids outcome start finish tally) (member : id ∈ ids)
    (failures : ∀ {failure}, ⟨id, failure⟩ ∈ report.failures ↔
      outcome id = .error (.failure failure))
    (awaits : outcome id = Topology.awaiting report.failedIds dependencies own) :
    report.Awaits id dependencies where
  sound alive := by
    obtain ⟨_, _, _, sound⟩ := h.awaited_of_sound member awaits fun failure failed =>
      alive (mem_failedIds_iff.mpr ⟨failure, failures.mpr failed⟩)
    exact sound
  conflict entered :=
    Topology.sound_of_awaiting_conflict (awaits.symm.trans (failures.mp entered))

theorem route_awaits (h : Resolution merger mode before after report)
    (member : id ∈ after.idsOf .httpRoute) : report.Awaits id (after.targets .routeGateway id) :=
  awaits_of_settled h.routes (mem_sortedIds.mpr member) (h.route_failure_iff member)
    (Topology.outcome_routes ..)

theorem backend_awaits (h : Resolution merger mode before after report)
    (member : id ∈ after.idsOf .backend) : report.Awaits id (after.sources .routeBackend id) :=
  awaits_of_settled h.backends (mem_sortedIds.mpr member) (h.backend_failure_iff member)
    (Topology.outcome_backends ..)

variable (h : Resolution MergerRegistry.specifications.toPolicyMerger mode before after report)
  (coherent : before.Coherent) (legible : before.Legible)

include h legible

theorem not_agreesAt_iff_dividedAt (id : ResourceId) :
    ¬ after.AgreesAt id ↔ before.DividedAt id := by
  rw [h.graph.agreesAt, Topology.dividedAt_iff legible.specified]

include coherent

theorem gateway_failed_iff (member : id ∈ after.idsOf .gateway) :
    id ∈ report.failedIds ↔ before.Afflicted id := by
  rw [Topology.afflicted_gateway_iff coherent (Topology.nodeKind_of_mem_idsOf member),
    (h.gateway_judged (legible.congr h.graph) member).failed_iff,
    h.not_agreesAt_iff_dividedAt legible]

theorem route_failed_iff (member : id ∈ after.idsOf .httpRoute) :
    id ∈ report.failedIds ↔ before.Afflicted id := by
  rw [Topology.afflicted_route_iff coherent (Topology.nodeKind_of_mem_idsOf member),
    (h.route_awaits member).failed_iff (h.route_judged (legible.congr h.graph) coherent member),
    h.not_agreesAt_iff_dividedAt legible, ← h.graph.targets]
  exact or_congr_left (exists_congr fun gateway => and_congr_right fun target =>
    h.gateway_failed_iff coherent legible (h.coherent.gateway_of_target target))

theorem backend_failed_iff (member : id ∈ after.idsOf .backend) :
    id ∈ report.failedIds ↔ before.Afflicted id := by
  rw [Topology.afflicted_backend_iff coherent (Topology.nodeKind_of_mem_idsOf member),
    (h.backend_awaits member).failed_iff (h.backend_judged (legible.congr h.graph) coherent member),
    h.not_agreesAt_iff_dividedAt legible, ← h.graph.sources]
  exact or_congr_left (exists_congr fun route => and_congr_right fun source =>
    h.route_failed_iff coherent legible (h.coherent.route_of_source source))

/-- A resolution of policies that are legible together contains their conflicts. -/
theorem conflictsContained : before.ConflictsContained after report := by
  have legible' := legible.congr h.graph
  have divided := h.not_agreesAt_iff_dividedAt legible
  constructor
  · intro id member
    rw [← h.graph.idsOf] at member
    rw [(h.gateway_judged legible' member).conflict_iff, divided]
  · intro id member
    rw [← h.graph.idsOf] at member
    rw [(h.route_awaits member).conflict_iff (h.route_judged legible' coherent member), divided,
      ← h.graph.targets]
    exact and_congr_left fun _ => forall₂_congr fun gateway target => not_congr
      (h.gateway_failed_iff coherent legible (h.coherent.gateway_of_target target))
  · intro id member
    rw [← h.graph.idsOf] at member
    rw [(h.backend_awaits member).conflict_iff (h.backend_judged legible' coherent member), divided,
      ← h.graph.sources]
    exact and_congr_left fun _ => forall₂_congr fun route source => not_congr
      (h.route_failed_iff coherent legible (h.coherent.route_of_source source))
  · intro kind listed id member
    rw [← h.graph.idsOf] at member
    simp only [List.mem_cons, List.not_mem_nil, or_false] at listed
    rcases listed with rfl | rfl | rfl
    · exact h.gateway_failed_iff coherent legible member
    · exact h.route_failed_iff coherent legible member
    · exact h.backend_failed_iff coherent legible member
  · intro id member alive
    rw [← h.graph.idsOf] at member
    rw [← h.gateway_failed_iff coherent legible member] at alive
    have held := h.gatewayHeld coherent member alive
    refine ⟨held, fun classed none => classed ?_⟩
    rw [Topology.GatewayHeld, none] at held
    rw [← h.graph.target?]
    exact Topology.classless_of_gatewayPolicies held
  · intro id member alive
    rw [← h.graph.idsOf] at member
    rw [← h.route_failed_iff coherent legible member] at alive
    exact h.exists_routeHeld coherent member alive
  · intro id member alive
    rw [← h.graph.idsOf] at member
    rw [← h.backend_failed_iff coherent legible member] at alive
    exact h.exists_backendHeld coherent member alive

end Resolution

namespace Topology

variable {before after : Topology} {report : ResolutionReport} {id : ResourceId}

/-- With the registry that merges specifications a best-effort resolution of manifests comes to an
end and contains their conflicts, if they are legible together wherever they meet. -/
theorem resolve_contains_conflicts (reachable : before.Reachable)
    (manifests : before.Admits Policy.IsManifest) (legible : ∀ id, before.LegibleAt id) :
    ∃ report after, (resolve MergerRegistry.specifications.toPolicyMerger .bestEffort).run before =
        (.ok report, after) ∧ ConflictsContained before after report := by
  have coherent := reachable.coherent
  have legible : before.Legible := ⟨coherent.admits_specified manifests, legible⟩
  obtain ⟨report, after, run⟩ := legible.faultless.exists_report coherent
  exact ⟨report, after, run, (resolution_of_run coherent run).conflictsContained coherent legible⟩

/-- A policy of the gateway, inherited or not, of the kind of the policy of its class. -/
def ceiling (inherited : Bool) : Policy :=
  .manifest {
    manifest := .object [("apiVersion", .string "example.com/v1"), ("kind", .string "Limit"),
      ("metadata", .object [("name", .string "b"), ("namespace", .string "n")]),
      ("spec", .object [("targetRef", .object [("group", .string gatewayGroup),
        ("kind", .string "Gateway"), ("name", .string "g")]),
        ("default", .object [("x", .int 1)])])]
    inherited }

/-- A class with an inherited policy whose defaults are no object, and a gateway of that class with
another policy of the same kind. -/
def spoiledClass (inherited : Bool) : Topology :=
  [Operation.insert (.gatewayClass ⟨"c", ""⟩), .insert (.gateway ⟨"n", "g", "c"⟩),
    .connect .gatewayClass (.gateway "n" "g") (.gatewayClass "c"),
    .attach (limit "a" "GatewayClass" "c" [("default", .int 5)]),
    .attach (ceiling inherited)].foldl Operation.apply .empty

theorem reachable_spoiledClass (inherited : Bool) : (spoiledClass inherited).Reachable :=
  .applyAll .empty _

section SpoiledClass

variable {inherited : Bool} {edge : Edge} {source target : ResourceId}

theorem isManifest_spoiledClass (inherited : Bool) :
    (spoiledClass inherited).Admits Policy.IsManifest := by
  intro id attachment stored
  have member := List.mem_map_of_mem (f := fun entry => entry.2.policy)
    (Table.mem_entries_iff.mpr stored)
  change attachment.policy ∈ [limit "a" "GatewayClass" "c" [("default", .int 5)],
    ceiling inherited] at member
  simp only [List.mem_cons, List.not_mem_nil, or_false] at member
  rcases member with same | same
  · exact ⟨_, same⟩
  · exact ⟨_, same⟩

theorem targets_spoiledClass (member : target ∈ (spoiledClass inherited).targets edge source) :
    edge = .gatewayClass ∧ source = .gateway "n" "g" := by
  unfold targets at member
  cases stored : (spoiledClass inherited).outgoing.get? (edge, source) with
  | none =>
      rw [stored] at member
      cases member
  | some ids =>
      have entered := List.mem_map_of_mem (f := Prod.fst) (Table.mem_entries_iff.mpr stored)
      change (edge, source) ∈ [(Edge.gatewayClass, ResourceId.gateway "n" "g")] at entered
      exact Prod.ext_iff.mp (List.mem_singleton.mp entered)

theorem nameSpace?_spoiledClass (inherited : Bool) (id : ResourceId) :
    (spoiledClass inherited).nameSpace? id = none := by
  unfold nameSpace?
  cases found : Edge.toNameSpace? id.nodeKind with
  | none => rfl
  | some edge =>
      refine List.head?_eq_none_iff.mpr (List.eq_nil_iff_forall_not_mem.mpr fun target member => ?_)
      obtain ⟨rfl, rfl⟩ := targets_spoiledClass member
      cases found

theorem policiesOn_spoiledClass (other : target ∉ [.gatewayClass "c", .gateway "n" "g"]) :
    (spoiledClass inherited).policiesOn (some target) = [] := by
  have none : (spoiledClass inherited).policyIdsOn target = [] := by
    unfold policyIdsOn
    cases stored : (spoiledClass inherited).attached.get? target with
    | none => rfl
    | some ids =>
        have entered := List.mem_map_of_mem (f := Prod.fst) (Table.mem_entries_iff.mpr stored)
        exact absurd entered other
  unfold policiesOn
  dsimp only
  rw [none]
  rfl

/-- A direct policy is legible together with whatever it meets. -/
theorem legibleAt_spoiledClass (id : ResourceId) : (spoiledClass false).LegibleAt id := by
  intro group member
  cases member with
  | gateway _ classed =>
      obtain ⟨target, found⟩ := Option.ne_none_iff_exists'.mp classed
      obtain ⟨_, rfl⟩ := targets_spoiledClass (List.mem_of_mem_head? found)
      change Policy.LegibleAmong [limit "a" "GatewayClass" "c" [("default", .int 5)], ceiling false]
      exact List.pairwise_pair.mpr fun _ _ inherits => nomatch inherits
  | ofNameSpace _ =>
      rw [nameSpace?_spoiledClass]
      exact .nil
  | own kind =>
      rw [policiesOn_spoiledClass]
      · exact .nil
      · intro either
        simp only [List.mem_cons, List.not_mem_nil, or_false] at either
        rcases either with rfl | rfl
        · rcases kind with kind | kind <;> cases kind
        · rcases kind with kind | kind <;> cases kind
  | route _ reached => exact nomatch (targets_spoiledClass reached.1).1
  | backend _ reached =>
      obtain ⟨_, _, target, _⟩ := reached
      exact nomatch (targets_spoiledClass target).1

end SpoiledClass

theorem resolve_contains_conflicts_spoiledClass :
    (spoiledClass false).Admits Policy.IsManifest ∧ (∀ id, (spoiledClass false).LegibleAt id) ∧
    ∃ report after, (resolve MergerRegistry.specifications.toPolicyMerger .bestEffort).run
        (spoiledClass false) = (.ok report, after) ∧
      ConflictsContained (spoiledClass false) after report :=
  ⟨isManifest_spoiledClass false, legibleAt_spoiledClass,
    resolve_contains_conflicts (reachable_spoiledClass false) (isManifest_spoiledClass false)
      legibleAt_spoiledClass⟩

/-- The defaults of the class would have to be read as fields. -/
theorem gatewayPolicies_spoiledClass :
    ((spoiledClass true).gatewayPolicies MergerRegistry.specifications.toPolicyMerger
      (.gateway "n" "g")).result = .error (.fault (.malformed .notASequence)) := by
  have classed : (spoiledClass true).target? .gatewayClass (.gateway "n" "g") =
      some (.gatewayClass "c") := rfl
  have ofClass : (spoiledClass true).policiesOn (some (.gatewayClass "c")) =
      [limit "a" "GatewayClass" "c" [("default", .int 5)]] := rfl
  have own : (spoiledClass true).policiesOn (some (.gateway "n" "g")) = [ceiling true] := rfl
  rw [result_gatewayPolicies classed, levelOn_of_singleton ofClass rfl, levelOn_of_nil rfl,
    levelOn_of_singleton own rfl]
  change some <$> layered _ _ _ _ = _
  rw [layered_singleton]
  rfl

/-- A malformed policy aborts a best-effort resolution: where its sections are to be merged, the
gateway comes to a fault, and there is no report. -/
theorem spoiledClass_aborts :
    (spoiledClass true).Reachable ∧ (spoiledClass true).Admits Policy.IsManifest ∧
      ∀ report after, (resolve MergerRegistry.specifications.toPolicyMerger .bestEffort).run
        (spoiledClass true) ≠ (.ok report, after) := by
  refine ⟨reachable_spoiledClass true, isManifest_spoiledClass true, fun report after run => ?_⟩
  have passes := passes_gateway_of_run (reachable_spoiledClass true).coherent run
    (show .gateway "n" "g" ∈ (spoiledClass true).idsOf .gateway by decide)
  rw [gatewayPolicies_spoiledClass] at passes
  exact passes

end Topology

end PolicyTopology
