import PolicyTopology.Proofs.Topology.Assembly
import PolicyTopology.Proofs.Topology.Reads
import PolicyTopology.Topology.Inherited
import Mathlib.Data.List.Perm.Basic

/-!
# Topologies that differ in the order of arrival

Two topologies are alike if they hold the same under every identity and differ at most in the order
in which things arrived. Whatever reads them reads in order of identity, so resolution takes the
same steps in both: it comes to the same result, enters the same events into both journals, and
leaves topologies behind that are alike again.
-/

namespace PolicyTopology

namespace Assembly

variable {ε α β σ : Type} {related : Topology → Topology → Prop}

/-- From related topologies some work comes to the same result and leaves related ones behind,
whether or not it succeeds. -/
def Respects (related : Topology → Topology → Prop) (work : Assembly ε α) : Prop :=
  ∀ first second, related first second →
    (work.run second).1 = (work.run first).1 ∧ related (work.run first).2 (work.run second).2

theorem Respects.pure (value : α) : Respects related (pure value : Assembly ε α) :=
  fun _ _ h => ⟨rfl, h⟩

theorem Respects.bind {work : Assembly ε α} {next : α → Assembly ε β} (h : Respects related work)
    (h' : ∀ value, Respects related (next value)) : Respects related (work >>= next) := by
  intro first second start
  obtain ⟨same, middle⟩ := h first second start
  rw [run_bind, run_bind]
  generalize work.run first = run at same middle
  generalize work.run second = run' at same middle
  obtain ⟨result, state⟩ := run
  obtain ⟨_, state'⟩ := run'
  cases same
  cases result with
  | error error => exact ⟨rfl, middle⟩
  | ok value => exact h' value state state' middle

theorem Respects.foldlM {step : σ → α → Assembly ε σ}
    (h : ∀ state item, Respects related (step state item)) (items : List α) (start : σ) :
    Respects related (items.foldlM step start) := by
  induction items generalizing start with
  | nil => exact .pure start
  | cons item rest ih =>
      rw [List.foldlM_cons]
      exact (h start item).bind ih

theorem Respects.mapM {step : α → Assembly ε β} (h : ∀ item, Respects related (step item))
    (items : List α) : Respects related (items.mapM step) := by
  induction items with
  | nil =>
      rw [List.mapM_nil]
      exact .pure []
  | cons item rest ih =>
      rw [List.mapM_cons]
      exact (h item).bind fun value => ih.bind fun values => .pure (value :: values)

end Assembly

/-- How often a value stands among members after more have been added. -/
theorem count_addMissing {α : Type} [DecidableEq α] (members more : List α) (x : α) :
    (addMissing members more).count x =
      if x ∈ members then members.count x else if x ∈ more then 1 else 0 := by
  induction more generalizing members with
  | nil =>
      by_cases member : x ∈ members
      · simp [addMissing, member]
      · simp [addMissing, member, List.count_eq_zero]
  | cons head rest ih =>
      change (addMissing (if head ∈ members then members else members ++ [head]) rest).count x = _
      by_cases present : head ∈ members
      · rw [if_pos present, ih]
        by_cases member : x ∈ members
        · simp [member]
        · have other : x ≠ head := fun same => member (same ▸ present)
          simp [member, other]
      · rw [if_neg present, ih]
        by_cases same : x = head
        · subst same
          simp [present, List.count_eq_zero.mpr present]
        · simp [same, List.count_append, Ne.symm same]

theorem addMissing_perm {α : Type} [DecidableEq α] {members members' more more' : List α}
    (h : members.Perm members') (h' : more.Perm more') :
    (addMissing members more).Perm (addMissing members' more') := by
  rw [List.perm_iff_count]
  intro x
  rw [count_addMissing, count_addMissing, h.count_eq]
  simp only [h.mem_iff, h'.mem_iff]

namespace Table

variable {κ α : Type} [DecidableEq κ] {first second : Table κ α}

/-- Tables that agree on every key have their keys in common. -/
theorem keys_perm (h : ∀ key, second.get? key = first.get? key) : second.keys.Perm first.keys := by
  refine (List.perm_ext_iff_of_nodup second.nodup_keys first.nodup_keys).mpr fun key => ?_
  change key ∈ second.keys ↔ key ∈ first.keys
  rw [← contains_iff, ← contains_iff, contains_eq_isSome, contains_eq_isSome, h]

theorem size_congr (h : ∀ key, second.get? key = first.get? key) : second.size = first.size := by
  rw [← length_keys, ← length_keys, (keys_perm h).length_eq]

end Table

namespace Topology

/-- Two topologies with the same nodes, edges, attached policies and results. Where a node has
several neighbours or policies they may have arrived in different orders. -/
structure Alike (first second : Topology) : Prop where
  nodes : ∀ id, second.nodes.get? id = first.nodes.get? id
  targets : ∀ edge source, (second.targets edge source).Perm (first.targets edge source)
  sources : ∀ edge target, (second.sources edge target).Perm (first.sources edge target)
  target? : ∀ {edge : Edge}, edge.isSingle = true → ∀ source,
    second.target? edge source = first.target? edge source
  policies : ∀ id, second.policies.get? id = first.policies.get? id
  policyIdsOn : ∀ target, (second.policyIdsOn target).Perm (first.policyIdsOn target)
  effective : ∀ id, second.effective.get? id = first.effective.get? id
  partitions : ∀ id, second.partitions.get? id = first.partitions.get? id
  inherited : ∀ id, Option.Rel List.Perm (second.inherited.get? id) (first.inherited.get? id)

namespace Alike

variable {first second : Topology}

theorem idsOf (h : Alike first second) (kind : NodeKind) :
    (second.idsOf kind).Perm (first.idsOf kind) :=
  (Table.keys_perm h.nodes).filter _

theorem nameSpace? (h : Alike first second) (id : ResourceId) :
    second.nameSpace? id = first.nameSpace? id := by
  obtain ⟨nodeKind, _, _, _, _⟩ := id
  cases nodeKind
  case backend => exact h.target? rfl _
  case gateway => exact h.target? rfl _
  case httpRoute => exact h.target? rfl _
  all_goals rfl

theorem record (h : Alike first second) (events events' : List Event) :
    Alike (first.record events) (second.record events') :=
  { h with }

theorem storeEffective (h : Alike first second) (id : ResourceId) (policies : PoliciesByKind) :
    Alike { first with effective := first.effective.set id policies }
      { second with effective := second.effective.set id policies } :=
  { h with effective := fun other => by rw [Table.get?_set, Table.get?_set, h.effective] }

theorem storePartitions (h : Alike first second) (id : ResourceId) (partitions : Partitions) :
    Alike (Pass.storePartitions first id partitions) (Pass.storePartitions second id partitions) :=
  { h with
    partitions := fun other => by
      change (second.partitions.set id partitions).get? other =
        (first.partitions.set id partitions).get? other
      rw [Table.get?_set, Table.get?_set, h.partitions] }

end Alike

/-- A merger makes the same of what is attached to each target in two topologies. -/
def SameLevels (merger : PolicyMerger) (first second : Topology) : Prop :=
  ∀ target, merger.mergeLevel (second.policiesOn target) =
    merger.mergeLevel (first.policiesOn target)

section Work

variable {merger : PolicyMerger} {first second : Topology}

theorem Alike.nodeAgrees (h : Alike first second) (levels : SameLevels merger first second)
    (id : ResourceId) : NodeAgrees (SameLevel merger first second) first second id :=
  ⟨h.nameSpace? id, levels _, levels _⟩

theorem gatewayPolicies_of_alike (h : Alike first second) (levels : SameLevels merger first second)
    (gateway : ResourceId) :
    second.gatewayPolicies merger gateway = first.gatewayPolicies merger gateway :=
  gatewayPolicies_of_agrees ⟨h.nodeAgrees levels gateway, h.target? rfl gateway, levels _⟩

theorem routePartitions_of_alike (h : Alike first second) (levels : SameLevels merger first second)
    (failed : List ResourceId) (route : ResourceId) :
    second.routePartitions merger failed route = first.routePartitions merger failed route :=
  routePartitions_of_agrees (h.nodeAgrees levels route) (h.targets _ _) (fun _ _ => .rfl)
    fun gateway _ => h.effective gateway

theorem backendPartitions_of_alike (h : Alike first second)
    (levels : SameLevels merger first second) (failed : List ResourceId) (backend : ResourceId) :
    second.backendPartitions merger failed backend =
      first.backendPartitions merger failed backend :=
  backendPartitions_of_agrees (h.nodeAgrees levels backend) (h.sources _ _) (fun _ _ => .rfl)
    fun route _ => h.partitions route

end Work

/-- Two topologies that are alike, and that have been since two former ones: the same events have
been entered since, and nothing has been left out. -/
structure AlikeSince (merger : PolicyMerger) (start start' first second : Topology) : Prop where
  alike : Alike first second
  levels : SameLevels merger first second
  journals : ∃ events, first.journal = start.journal ++ events ∧
    second.journal = start'.journal ++ events
  diagnostics : first.diagnostics = start.diagnostics
  diagnostics' : second.diagnostics = start'.diagnostics

variable {merger : PolicyMerger} {start start' first second : Topology}

namespace AlikeSince

theorem refl (alike : Alike start start') (levels : SameLevels merger start start') :
    AlikeSince merger start start' start start' :=
  ⟨alike, levels, ⟨[], (List.append_nil _).symm, (List.append_nil _).symm⟩, rfl, rfl⟩

theorem record (h : AlikeSince merger start start' first second) (events : List Event) :
    AlikeSince merger start start' (first.record events) (second.record events) := by
  obtain ⟨former, journal, journal'⟩ := h.journals
  refine ⟨h.alike.record .., h.levels, ⟨former ++ events, ?_, ?_⟩, h.diagnostics, h.diagnostics'⟩
  · rw [Topology.record, journal, List.append_assoc]
  · rw [Topology.record, journal', List.append_assoc]

end AlikeSince

end Topology

namespace Pass

open PolicyTopology.Topology (Alike AlikeSince)

variable {α : Type} {merger : PolicyMerger} {start start' : Topology}

/-- What a pass owes to its runs in topologies that are alike: it works out the same, and what it
stores keeps them alike. -/
structure Ordered (pass : Pass α) (merger : PolicyMerger) : Prop where
  compute : ∀ {first second : Topology}, Alike first second →
    Topology.SameLevels merger first second → ∀ failed id,
    pass.compute second failed id = pass.compute first failed id
  store : ∀ {start start' first second : Topology}, AlikeSince merger start start' first second →
    ∀ id policies, AlikeSince merger start start' (pass.store first id policies)
      (pass.store second id policies)

theorem gateways_ordered (merger : PolicyMerger) : (gateways merger).Ordered merger where
  compute alike levels _ id := Topology.gatewayPolicies_of_alike alike levels id
  store h id policies := { h with alike := h.alike.storeEffective id policies }

theorem routes_ordered (merger : PolicyMerger) : (routes merger).Ordered merger where
  compute alike levels failed id :=
    congrArg (some <$> ·) (Topology.routePartitions_of_alike alike levels failed id)
  store h id partitions := { h with alike := h.alike.storePartitions id partitions }

theorem backends_ordered (merger : PolicyMerger) : (backends merger).Ordered merger where
  compute alike levels failed id :=
    congrArg (some <$> ·) (Topology.backendPartitions_of_alike alike levels failed id)
  store h id partitions := { h with alike := h.alike.storePartitions id partitions }

variable {pass : Pass α}

theorem respects_visit (law : pass.Ordered merger) (mode : ResolutionMode) (progress : Progress)
    (id : ResourceId) :
    Assembly.Respects (AlikeSince merger start start') (pass.visit mode progress id) := by
  intro first second h
  unfold visit
  rw [Assembly.run_bind, Assembly.run_bind, Assembly.run_get, Assembly.run_get]
  dsimp only
  rw [law.compute h.alike h.levels]
  generalize pass.compute first (progress.failures.map (·.node)) id = work
  obtain ⟨trace, (⟨_ | _⟩ | fault) | _ | policies⟩ := work
  · cases mode <;> exact ⟨rfl, (h.record trace).record _⟩
  · exact ⟨rfl, (h.record trace).record _⟩
  · exact ⟨rfl, h.record trace⟩
  · exact ⟨rfl, h.record trace⟩
  · exact ⟨rfl, law.store (h.record trace) id policies⟩

theorem respects_run (law : pass.Ordered merger) (mode : ResolutionMode)
    (failures : List NodeFailure) :
    Assembly.Respects (AlikeSince merger start start') (pass.run mode failures) := by
  intro first second h
  unfold run
  rw [Assembly.run_bind, Assembly.run_bind, Assembly.run_get, Assembly.run_get]
  dsimp only
  rw [sortedIds_congr (h.alike.idsOf pass.kind)]
  refine Assembly.Respects.bind (.foldlM (respects_visit law mode) _ _) (fun progress => ?_) _ _ h
  exact Assembly.Respects.bind (fun _ _ h => ⟨rfl, h.record _⟩) fun _ => .pure _

end Pass

namespace Topology

/-- Resolution takes the same steps in topologies that are alike. -/
theorem respects_resolve (merger : PolicyMerger) (mode : ResolutionMode) {start start' : Topology} :
    Assembly.Respects (AlikeSince merger start start') (resolve merger mode) := by
  refine (Pass.respects_run (Pass.gateways_ordered merger) mode _).bind fun gateways => ?_
  refine (Pass.respects_run (Pass.routes_ordered merger) mode _).bind fun routes => ?_
  exact (Pass.respects_run (Pass.backends_ordered merger) mode _).bind fun backends => .pure _

end Topology

end PolicyTopology
