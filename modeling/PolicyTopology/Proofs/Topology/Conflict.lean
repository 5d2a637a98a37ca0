import PolicyTopology.Proofs.Topology.FailureClosure
import PolicyTopology.Proofs.Topology.Legible
import PolicyTopology.Proofs.Topology.Override

/-!
# Conflicts and the policies that cause them

A merge meets conflicts on what earlier merges have left, but where there is one can be told from
the policies themselves: with the registry that merges specifications, a node that depends on no
failed node fails exactly if two of the policies that reach it are irreconcilable. A policy that
reaches a node twice is merged with itself, so it counts twice; it is at odds with itself only if it
is direct and holds the mark that there is no number.
-/

namespace PolicyTopology

namespace Policy

/-- Two policies of one kind that no order of merging reconciles: an inherited one and a direct one,
or two direct ones that leave a doubt about the value under some path. -/
structure Irreconcilable (first second : Policy) : Prop where
  kind : first.kind = second.kind
  differ : first.inherited ≠ second.inherited ∨
    (first.inherited = false ∧ second.inherited = false ∧ ∃ path value other,
      Document.at? (.object first.directFields) path = some value ∧
      Document.at? (.object second.directFields) path = some other ∧
      ¬ (value.isObject = true ∧ other.isObject = true) ∧ Document.agrees value other = false)

/-- Two policies of a group, one before the other, are irreconcilable. -/
def Divided (group : List Policy) : Prop :=
  ∃ first second, [first, second].Sublist group ∧ first.Irreconcilable second

theorem irreconcilable_iff {first second : Policy} :
    first.Irreconcilable second ↔ first.kind = second.kind ∧ ¬ first.Compatible second := by
  constructor
  · intro h
    refine ⟨h.kind, fun compatible => ?_⟩
    rcases h.differ with differ | ⟨direct, _, path, value, other, found, found', leaf, doubt⟩
    · exact differ compatible.inherited
    · rcases Fields.clash?_eq_none_iff.mp (compatible.direct direct) path value other found
          found' with objects | agrees
      · exact leaf objects
      · rw [doubt] at agrees
        cases agrees
  · rintro ⟨kind, incompatible⟩
    refine ⟨kind, ?_⟩
    by_cases inherited : first.inherited = second.inherited
    · refine .inr ?_
      by_contra reconciled
      refine incompatible ⟨kind, inherited, fun direct => ?_⟩
      refine Fields.clash?_eq_none_iff.mpr fun path value other found found' => ?_
      by_contra doubt
      rw [Document.Compatible, not_or] at doubt
      exact reconciled ⟨direct, inherited ▸ direct, path, value, other, found, found', doubt.1,
        by simpa using doubt.2⟩
    · exact .inl inherited

/-- Whether a group agrees kind by kind depends on its pairs of policies. -/
theorem divided_iff {group : List Policy} (specified : ∀ policy ∈ group, policy.Specified) :
    Divided group ↔ ¬ AgreeByKind group := by
  have pairs : AgreeByKind group ↔
      group.Pairwise fun first second => ¬ first.Irreconcilable second := by
    unfold AgreeByKind Agree ofKind
    simp only [List.pairwise_filter, irreconcilable_iff, not_and, not_not]
    constructor
    · intro each
      refine List.pairwise_iff_forall_sublist.mpr fun {first second} sublist same => ?_
      obtain ⟨id, found⟩ := (specified first (sublist.subset List.mem_cons_self)).exists_id
      have kind := (parts_of_id found).1
      refine List.pairwise_iff_forall_sublist.mp (each ⟨id.group, id.kind⟩) sublist ?_ ?_
      · simp [kind, Except.toOption]
      · simp [← same, kind, Except.toOption]
    · intro all kind
      refine all.imp fun compatible first second => compatible ?_
      have first := of_decide_eq_true first
      have second := of_decide_eq_true second
      unfold Except.toOption at first second
      split at first
      · split at second
        · next found _ _ found' =>
          cases first
          cases second
          rw [found, found']
        · cases second
      · cases first
  rw [pairs, List.pairwise_iff_forall_sublist]
  simp [Divided]

end Policy

/-- A node fails exactly if not all of its groups agree, and then for a conflict. -/
structure ResolutionReport.Judges (report : ResolutionReport) (id : ResourceId) (agreed : Prop) :
    Prop where
  conflict_iff : (∃ conflict, ⟨id, .conflict conflict⟩ ∈ report.failures) ↔ ¬ agreed
  failed_iff : id ∈ report.failedIds ↔ ¬ agreed

namespace Resolution

variable {mode : ResolutionMode} {before after : Topology} {report : ResolutionReport}
  {id : ResourceId}

theorem judges_of_decides {α : Type} {outcome : Outcome α} {agreed : Prop}
    (decides : Except.Decides NodeError.IsConflict agreed (fun _ => True) outcome)
    (failure_iff : ∀ failure,
      ⟨id, failure⟩ ∈ report.failures ↔ outcome = .error (.failure failure)) :
    report.Judges id agreed := by
  refine ⟨?_, ?_⟩
  · simp only [failure_iff]
    cases outcome with
    | ok value => simp [decides.1]
    | error error =>
        obtain ⟨⟨conflict, rfl⟩, no⟩ := decides
        simp [no]
  · simp only [mem_failedIds_iff, failure_iff]
    cases outcome with
    | ok value => simp [decides.1]
    | error error =>
        obtain ⟨⟨conflict, rfl⟩, no⟩ := decides
        simp [no]

section Legible

variable (h : Resolution MergerRegistry.specifications.toPolicyMerger mode before after report)
  (legible : after.Legible)

include h legible

theorem gateway_judged (member : id ∈ after.idsOf .gateway) :
    report.Judges id (after.AgreesAt id) :=
  judges_of_decides ((legible.decides_gateway (Topology.nodeKind_of_mem_idsOf member)).congr .rfl
    fun _ _ _ => trivial) fun _ => h.gateway_failure_iff member

variable (coherent : before.Coherent)

include coherent

theorem route_judged (member : id ∈ after.idsOf .httpRoute)
    (sound : ∀ gateway ∈ after.targets .routeGateway id, gateway ∉ report.failedIds) :
    report.Judges id (after.AgreesAt id) := by
  refine judges_of_decides ?_ fun _ => h.route_failure_iff member
  rw [Topology.outcome_routes, Topology.awaiting_of_sound sound]
  exact (legible.decides_route h.coherent (Topology.nodeKind_of_mem_idsOf member)
    fun gateway target => h.gatewayHeld coherent (h.coherent.gateway_of_target target)
      (sound gateway target)).map fun _ _ => trivial

theorem backend_judged (member : id ∈ after.idsOf .backend)
    (sound : ∀ route ∈ after.sources .routeBackend id, route ∉ report.failedIds) :
    report.Judges id (after.AgreesAt id) := by
  refine judges_of_decides ?_ fun _ => h.backend_failure_iff member
  rw [Topology.outcome_backends, Topology.awaiting_of_sound sound]
  exact (legible.decides_backend h.coherent (Topology.nodeKind_of_mem_idsOf member)
    fun route source => h.exists_routeHeld coherent (h.coherent.route_of_source source)
      (sound route source)).map fun _ _ => trivial

end Legible

variable (h : Resolution MergerRegistry.specifications.toPolicyMerger mode before after report)
  (coherent : before.Coherent) (shaped : before.Admits Policy.Shaped)

include h shaped

/-- A gateway fails exactly if its policies do not agree. -/
theorem judges_gateway (member : id ∈ after.idsOf .gateway) :
    report.Judges id (after.AgreesAt id) :=
  h.gateway_judged (.of_shaped (h.admits shaped)) member

include coherent

/-- A route none of whose gateways failed fails exactly if its policies do not agree. -/
theorem judges_route (member : id ∈ after.idsOf .httpRoute)
    (sound : ∀ gateway ∈ after.targets .routeGateway id, gateway ∉ report.failedIds) :
    report.Judges id (after.AgreesAt id) :=
  h.route_judged (.of_shaped (h.admits shaped)) coherent member sound

/-- A backend none of whose routes failed fails exactly if its policies do not agree. -/
theorem judges_backend (member : id ∈ after.idsOf .backend)
    (sound : ∀ route ∈ after.sources .routeBackend id, route ∉ report.failedIds) :
    report.Judges id (after.AgreesAt id) :=
  h.backend_judged (.of_shaped (h.admits shaped)) coherent member sound

/-- Where all groups agree, no node fails. -/
theorem sound_of_agreesAt (agree : ∀ id, after.AgreesAt id) (id : ResourceId) :
    id ∉ report.failedIds := by
  have gateways : ∀ id ∈ after.idsOf .gateway, id ∉ report.failedIds :=
    fun id member failed => (h.judges_gateway shaped member).failed_iff.mp failed (agree id)
  have routes : ∀ id ∈ after.idsOf .httpRoute, id ∉ report.failedIds := by
    intro id member failed
    refine (h.judges_route coherent shaped member fun gateway target => ?_).failed_iff.mp failed
      (agree id)
    exact gateways gateway (h.coherent.gateway_of_target target)
  intro failed
  obtain ⟨failure, entered⟩ := mem_failedIds_iff.mp failed
  rcases h.mem_failures_iff.mp entered with ⟨member, _⟩ | ⟨member, _⟩ | ⟨member, _⟩
  · exact gateways id member failed
  · exact routes id member failed
  · refine (h.judges_backend coherent shaped member fun route source => ?_).failed_iff.mp failed
      (agree id)
    exact routes route (h.coherent.route_of_source source)

end Resolution

namespace Topology

variable {topology before : Topology} {id : ResourceId} {group : List Policy} {policy : Policy}

def DividedAt (topology : Topology) (id : ResourceId) : Prop :=
  ∃ group, topology.GroupOf id group ∧ Policy.Divided group

theorem dividedAt_iff (specified : topology.Admits Policy.Specified) (id : ResourceId) :
    topology.DividedAt id ↔ ¬ topology.AgreesAt id := by
  have divided : ∀ group, topology.GroupOf id group →
      (Policy.Divided group ↔ ¬ Policy.AgreeByKind group) := by
    refine fun group member => Policy.divided_iff fun policy among => ?_
    obtain ⟨target, attached⟩ := member.attached policy among
    exact specified.of_mem_policiesOn attached
  constructor
  · rintro ⟨group, member, split⟩ agree
    exact (divided group member).mp split (agree group member)
  · intro disagree
    by_contra none
    refine disagree fun group member => ?_
    by_contra differ
    exact none ⟨group, member, (divided group member).mpr differ⟩

theorem not_agreesAt_iff (shaped : topology.Admits Policy.Shaped) (id : ResourceId) :
    ¬ topology.AgreesAt id ↔ ∃ group, topology.GroupOf id group ∧ Policy.Divided group :=
  (dividedAt_iff (shaped.imp fun _ => Policy.Shaped.specified) id).symm

/-- Where all policies are compatible, all groups agree. -/
theorem agreesAt_of_compatible {admitted : Policy → Prop} (admits : topology.Admits admitted)
    (compatible : ∀ first second, admitted first → admitted second → first.Compatible second)
    (id : ResourceId) : topology.AgreesAt id := by
  intro group member kind
  refine List.pairwise_iff_forall_sublist.mpr fun {first second} sublist => ?_
  have among : ∀ policy ∈ [first, second], admitted policy := by
    intro policy listed
    obtain ⟨target, attached⟩ :=
      member.attached policy (List.mem_filter.mp (sublist.subset listed)).1
    exact admits.of_mem_policiesOn attached
  exact compatible first second (among first (by simp)) (among second (by simp))

/-- Where all policies are compatible, a best-effort resolution comes to an end without failures. -/
theorem resolve_of_compatible {admitted : Policy → Prop} (reachable : before.Reachable)
    (admits : before.Admits admitted) (sectioned : ∀ policy, admitted policy → policy.Sectioned)
    (compatible : ∀ first second, admitted first → admitted second → first.Compatible second) :
    ∃ report after, (resolve MergerRegistry.specifications.toPolicyMerger .bestEffort).run before =
      (.ok report, after) ∧ ∀ id, id ∉ report.failedIds := by
  have coherent := reachable.coherent
  have shaped := coherent.admits_shaped (admits.imp sectioned)
  obtain ⟨report, after, run⟩ :=
    resolve_bestEffort_total MergerRegistry.specifications_raisesOnlyConflicts coherent shaped
  have h := resolution_of_run coherent run
  refine ⟨report, after, run, h.sound_of_agreesAt coherent shaped fun id => ?_⟩
  exact (h.graph.agreesAt id).mpr (agreesAt_of_compatible admits compatible id)

/-- A best-effort resolution with the registry that merges specifications comes to an end, and a
node that depends on no failed one fails with a conflict exactly if one of its groups is divided. -/
theorem resolve_conflict_iff_divided (reachable : before.Reachable)
    (sectioned : before.Admits Policy.Sectioned) :
    ∃ report after, (resolve MergerRegistry.specifications.toPolicyMerger .bestEffort).run before =
        (.ok report, after) ∧
      (∀ id ∈ before.idsOf .gateway,
        (∃ conflict, ⟨id, .conflict conflict⟩ ∈ report.failures) ↔
          ∃ group, before.GroupOf id group ∧ Policy.Divided group) ∧
      (∀ id ∈ before.idsOf .httpRoute,
        (∀ gateway ∈ before.targets .routeGateway id, gateway ∉ report.failedIds) →
        ((∃ conflict, ⟨id, .conflict conflict⟩ ∈ report.failures) ↔
          ∃ group, before.GroupOf id group ∧ Policy.Divided group)) ∧
      ∀ id ∈ before.idsOf .backend,
        (∀ route ∈ before.sources .routeBackend id, route ∉ report.failedIds) →
        ((∃ conflict, ⟨id, .conflict conflict⟩ ∈ report.failures) ↔
          ∃ group, before.GroupOf id group ∧ Policy.Divided group) := by
  have coherent := reachable.coherent
  have shaped := coherent.admits_shaped sectioned
  obtain ⟨report, after, run⟩ :=
    resolve_bestEffort_total MergerRegistry.specifications_raisesOnlyConflicts coherent shaped
  have h := resolution_of_run coherent run
  refine ⟨report, after, run, ?_, ?_, ?_⟩
  · intro id member
    rw [← not_agreesAt_iff shaped, ← h.graph.agreesAt]
    exact (h.judges_gateway shaped (h.graph.idsOf _ ▸ member)).conflict_iff
  · intro id member sound
    rw [← not_agreesAt_iff shaped, ← h.graph.agreesAt]
    exact (h.judges_route coherent shaped (h.graph.idsOf _ ▸ member)
      (h.graph.targets _ _ ▸ sound)).conflict_iff
  · intro id member sound
    rw [← not_agreesAt_iff shaped, ← h.graph.agreesAt]
    exact (h.judges_backend coherent shaped (h.graph.idsOf _ ▸ member)
      (h.graph.sources _ _ ▸ sound)).conflict_iff

def quota (limit : Document) : Policy := quotaFor "q" "Gateway" "g" limit

/-- Two routes by which the one policy, on a gateway, reaches a backend. -/
def twoWays (limit : Document) : Topology :=
  [Operation.insert (.gatewayClass ⟨"c", ""⟩), .insert (.gateway ⟨"n", "g", "c"⟩),
    .insert (.httpRoute ⟨"n", "r1", [], []⟩), .insert (.httpRoute ⟨"n", "r2", [], []⟩),
    .insert (.backend ⟨"n", "b", "", "Service"⟩),
    .connect .gatewayClass (.gateway "n" "g") (.gatewayClass "c"),
    .connect .routeGateway (.httpRoute "n" "r1") (.gateway "n" "g"),
    .connect .routeGateway (.httpRoute "n" "r2") (.gateway "n" "g"),
    .connect .routeBackend (.httpRoute "n" "r1") (.backend "" "Service" "n" "b"),
    .connect .routeBackend (.httpRoute "n" "r2") (.backend "" "Service" "n" "b"),
    .attach (quota limit)].foldl Operation.apply .empty

theorem admits_twoWays (limit : Document) : (twoWays limit).Admits (· = quota limit) := by
  intro id attachment stored
  have member := List.mem_map_of_mem (f := fun entry => entry.2.policy)
    (Table.mem_entries_iff.mpr stored)
  change attachment.policy ∈ [quota limit] at member
  exact List.mem_singleton.mp member

/-- The mark that there is no number agrees with nothing, so a policy that holds it is
irreconcilable with itself. -/
theorem irreconcilable_quota :
    (quota (.float .notANumber)).Irreconcilable (quota (.float .notANumber)) where
  kind := rfl
  differ := .inr ⟨rfl, rfl, ["limit"], .float .notANumber, .float .notANumber, rfl, rfl, by decide,
    rfl⟩

theorem sectioned_twoWays (limit : Document) : (twoWays limit).Admits Policy.Sectioned := by
  intro id attachment stored
  rw [admits_twoWays limit id attachment stored]
  exact ⟨_, rfl, fun inherited => nomatch inherited⟩

/-- With a number in it the policy agrees with itself. -/
theorem compatible_quota : (quota (.int 1)).Compatible (quota (.int 1)) :=
  ⟨rfl, rfl, fun _ => by decide⟩

/-- With a number in the policy nothing fails, and accordingly no group of the gateway or the
backend is divided. -/
theorem resolve_conflict_iff_divided_twoWays :
    (twoWays (.int 1)).Admits Policy.Sectioned ∧
    ∃ report after, (resolve MergerRegistry.specifications.toPolicyMerger .bestEffort).run
        (twoWays (.int 1)) = (.ok report, after) ∧
      ∀ id ∈ [ResourceId.gateway "n" "g", .backend "" "Service" "n" "b"],
        ((∃ conflict, ⟨id, .conflict conflict⟩ ∈ report.failures) ↔
          ∃ group, (twoWays (.int 1)).GroupOf id group ∧ Policy.Divided group) ∧
        id ∉ report.failedIds ∧
        ∀ group, (twoWays (.int 1)).GroupOf id group → ¬ Policy.Divided group := by
  have reachable : (twoWays (.int 1)).Reachable := .applyAll .empty _
  obtain ⟨report, after, run, gateways, _, backends⟩ :=
    resolve_conflict_iff_divided reachable (sectioned_twoWays (.int 1))
  obtain ⟨report', after', run', sound⟩ := resolve_of_compatible reachable
    (admits_twoWays (.int 1)) (by rintro _ rfl; exact ⟨_, rfl, nofun⟩)
    (by rintro _ _ rfl rfl; exact compatible_quota)
  cases run.symm.trans run'
  have judged : ∀ id ∈ [ResourceId.gateway "n" "g", .backend "" "Service" "n" "b"],
      ((∃ conflict, ⟨id, .conflict conflict⟩ ∈ report.failures) ↔
        ∃ group, (twoWays (.int 1)).GroupOf id group ∧ Policy.Divided group) := by
    intro id member
    simp only [List.mem_cons, List.not_mem_nil, or_false] at member
    rcases member with rfl | rfl
    · exact gateways _ (by decide)
    · exact backends _ (by decide) fun route _ => sound route
  refine ⟨sectioned_twoWays (.int 1), report, after, run, fun id member =>
    ⟨judged id member, sound id, fun group ofNode divided => ?_⟩⟩
  obtain ⟨conflict, failed⟩ := (judged id member).mpr ⟨group, ofNode, divided⟩
  exact sound id (Resolution.mem_failedIds_iff.mpr ⟨_, failed⟩)

theorem shaped_twoWays (limit : Document) : (twoWays limit).Admits Policy.Shaped :=
  (Reachable.applyAll .empty _).coherent.admits_shaped (sectioned_twoWays limit)

theorem agreeByKind_quota : Policy.AgreeByKind [quota (.float .notANumber)] :=
  fun _ => (List.pairwise_singleton Policy.Compatible _).sublist List.filter_sublist

theorem agreesAt_twoWays {name : String} (member : name ∈ ["r1", "r2"]) :
    (twoWays (.float .notANumber)).AgreesAt (.httpRoute "n" name) := by
  refine (agreesAt_route_iff rfl).mpr ⟨Policy.agreeByKind_nil, ?_, fun gateway reached => ?_⟩
  · simp only [List.mem_cons, List.not_mem_nil, or_false] at member
    rcases member with rfl | rfl <;> exact Policy.agreeByKind_nil
  · simp only [List.mem_cons, List.not_mem_nil, or_false] at member
    rcases member with rfl | rfl <;>
      exact List.mem_singleton.mp reached.1 ▸ agreeByKind_quota

theorem classed_twoWays (limit : Document) : (twoWays limit).Classed (.gateway "n" "g") := by
  unfold Classed
  rw [show (twoWays limit).target? .gatewayClass (.gateway "n" "g") = some (.gatewayClass "c")
    from rfl]
  exact Option.some_ne_none _

section Sound

variable {mode : ResolutionMode} {after : Topology} {report : ResolutionReport}
  (h : Resolution MergerRegistry.specifications.toPolicyMerger mode (twoWays (.float .notANumber))
    after report)

include h

theorem gateway_sound_twoWays : .gateway "n" "g" ∉ report.failedIds := by
  rw [(h.judges_gateway (shaped_twoWays _) (h.graph.idsOf _ ▸ by decide)).failed_iff, not_not,
    h.graph.agreesAt, agreesAt_gateway_iff rfl (classed_twoWays _)]
  exact agreeByKind_quota

theorem route_sound_twoWays {name : String} (member : name ∈ ["r1", "r2"]) :
    .httpRoute "n" name ∉ report.failedIds := by
  have only : ∀ other ∈ (twoWays (.float .notANumber)).targets .routeGateway
      (.httpRoute "n" name), other = .gateway "n" "g" := by
    simp only [List.mem_cons, List.not_mem_nil, or_false] at member
    rcases member with rfl | rfl <;> exact fun other target => List.mem_singleton.mp target
  have node : .httpRoute "n" name ∈ after.idsOf .httpRoute := by
    rw [h.graph.idsOf]
    simp only [List.mem_cons, List.not_mem_nil, or_false] at member
    rcases member with rfl | rfl <;> decide
  have sound : ∀ other ∈ after.targets .routeGateway (.httpRoute "n" name),
      other ∉ report.failedIds := by
    intro other target
    rw [h.graph.targets] at target
    exact only other target ▸ gateway_sound_twoWays h
  rw [(h.judges_route (Reachable.applyAll .empty _).coherent (shaped_twoWays _) node
    sound).failed_iff, not_not, h.graph.agreesAt]
  exact agreesAt_twoWays member

end Sound

/-- Whether there is a conflict cannot be told from the sets of policies that reach the nodes: a
backend fails for no two different policies, and a gateway does not fail for the same policy. -/
theorem twoWays_conflict :
    ∃ report after, (resolve MergerRegistry.specifications.toPolicyMerger .bestEffort).run
        (twoWays (.float .notANumber)) = (.ok report, after) ∧
      (∃ conflict, ⟨.backend "" "Service" "n" "b", .conflict conflict⟩ ∈ report.failures) ∧
      (∀ route ∈ (twoWays (.float .notANumber)).sources .routeBackend
          (.backend "" "Service" "n" "b"),
        route ∉ report.failedIds) ∧
      (∀ group, (twoWays (.float .notANumber)).GroupOf (.backend "" "Service" "n" "b") group →
        ∀ first ∈ group, ∀ second ∈ group, first ≠ second → ¬ first.Irreconcilable second) ∧
      .gateway "n" "g" ∉ report.failedIds ∧
      ∃ group, (twoWays (.float .notANumber)).GroupOf (.gateway "n" "g") group ∧
        ∃ policy ∈ group, policy.Irreconcilable policy := by
  have coherent : (twoWays (.float .notANumber)).Coherent := (Reachable.applyAll .empty _).coherent
  obtain ⟨report, after, run⟩ := resolve_bestEffort_total
    MergerRegistry.specifications_raisesOnlyConflicts coherent
    (shaped_twoWays _)
  have h := resolution_of_run coherent run
  have routes : ∀ source ∈ (twoWays (.float .notANumber)).sources .routeBackend
      (.backend "" "Service" "n" "b"), source ∉ report.failedIds := by
    intro source member
    change source ∈ ["r1", "r2"].map (ResourceId.httpRoute "n") at member
    obtain ⟨name, listed, rfl⟩ := List.mem_map.mp member
    exact route_sound_twoWays h listed
  refine ⟨report, after, run, ?_, routes, ?_, gateway_sound_twoWays h, ?_⟩
  · rw [(h.judges_backend coherent (shaped_twoWays _) (h.graph.idsOf _ ▸ by decide)
      (h.graph.sources _ _ ▸ routes)).conflict_iff, h.graph.agreesAt,
      not_agreesAt_iff (shaped_twoWays _)]
    exact ⟨_, .backend rfl ⟨.httpRoute "n" "r1", by decide, by decide, classed_twoWays _⟩, _, _,
      List.Sublist.refl _, irreconcilable_quota⟩
  · intro group member first among second among' differ
    obtain ⟨_, attached⟩ := member.attached _ among
    obtain ⟨_, attached'⟩ := member.attached _ among'
    have same := (admits_twoWays _).of_mem_policiesOn attached
    have same' := (admits_twoWays _).of_mem_policiesOn attached'
    exact absurd (same.trans same'.symm) differ
  · exact ⟨_, .gateway rfl (classed_twoWays _), _, List.mem_singleton.mpr rfl, irreconcilable_quota⟩

end Topology

end PolicyTopology
