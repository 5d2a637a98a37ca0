import PolicyTopology.Proofs.Topology.Coherent

/-!
# Edges at both ends

A topology enters an edge at its source and at its target. What stands there is determined by the
links made so far, in their order. A source forgets its former target when an edge takes the place
of another, while a target never forgets a source; so the two ends agree on an edge of which a
source has one at most exactly as long as no source has been joined to two targets.
-/

namespace PolicyTopology

/-- An edge with its ends. -/
structure Link where
  edge : Edge
  source : ResourceId
  target : ResourceId
deriving DecidableEq

namespace Link

/-- The targets that a source was joined to by edges of a kind, in order. -/
def targetsFrom (links : List Link) (edge : Edge) (source : ResourceId) : List ResourceId :=
  (links.filter fun link => link.edge = edge ∧ link.source = source).map (·.target)

/-- Whether no source is joined to two targets by edges of a kind. -/
def OneTarget (links : List Link) (edge : Edge) : Prop :=
  ∀ source first second, ⟨edge, source, first⟩ ∈ links → ⟨edge, source, second⟩ ∈ links →
    first = second

variable {links : List Link} {edge : Edge} {source target : ResourceId}

theorem eq_iff {link : Link} :
    ⟨edge, source, target⟩ = link ↔
      link.edge = edge ∧ link.source = source ∧ link.target = target := by
  obtain ⟨_, _, _⟩ := link
  simp only [Link.mk.injEq, eq_comm]

theorem mem_targetsFrom :
    target ∈ targetsFrom links edge source ↔ ⟨edge, source, target⟩ ∈ links := by
  simp only [targetsFrom, List.mem_map, List.mem_filter, decide_eq_true_eq]
  constructor
  · rintro ⟨link, ⟨member, rfl, rfl⟩, rfl⟩
    exact member
  · intro member
    exact ⟨_, ⟨member, rfl, rfl⟩, rfl⟩

theorem targetsFrom_append (links more : List Link) (edge : Edge) (source : ResourceId) :
    targetsFrom (links ++ more) edge source =
      targetsFrom links edge source ++ targetsFrom more edge source := by
  simp [targetsFrom]

end Link

namespace Topology

variable {topology before after : Topology} {links : List Link} {edge other : Edge}
  {source target id member : ResourceId}

theorem mem_targets_link_iff (collects : other.isSingle = false) :
    member ∈ (topology.link edge source target).targets other id ↔
      member ∈ topology.targets other id ∨ edge = other ∧ source = id ∧ target = member := by
  rw [targets_link]
  split
  · next same =>
    obtain ⟨rfl, rfl⟩ := same
    simp [mem_addMissing, collects, eq_comm]
  · next different =>
    have absurd : ¬ (edge = other ∧ source = id ∧ target = member) :=
      fun same => different ⟨same.1, same.2.1⟩
    simp [absurd]

def link? (topology : Topology) (edge : Edge) (source target : ResourceId) : Option Link :=
  if topology.hasNode edge.sourceKind source && topology.hasNode edge.targetKind target then
    some ⟨edge, source, target⟩
  else none

/-- What stands at the ends of all edges is determined by the links that were made: at the source of
an edge of which there is one at most stands the target of the last link. -/
structure HasLinks (topology : Topology) (links : List Link) : Prop where
  single : ∀ {edge : Edge}, edge.isSingle = true → ∀ source,
    topology.targets edge source = (Link.targetsFrom links edge source).getLast?.toList
  collected : ∀ {edge : Edge}, edge.isSingle = false → ∀ {source target},
    target ∈ topology.targets edge source ↔ ⟨edge, source, target⟩ ∈ links
  mem_sources : ∀ {edge source target},
    source ∈ topology.sources edge target ↔ ⟨edge, source, target⟩ ∈ links
  nodup_targets : ∀ edge source, (topology.targets edge source).Nodup
  nodup_sources : ∀ edge target, (topology.sources edge target).Nodup

namespace HasLinks

theorem empty : HasLinks .empty [] where
  single _ _ := rfl
  collected _ {_ _} := ⟨(nomatch ·), (nomatch ·)⟩
  mem_sources := ⟨(nomatch ·), (nomatch ·)⟩
  nodup_targets _ _ := List.nodup_nil
  nodup_sources _ _ := List.nodup_nil

theorem congr (h : HasLinks before links) (outgoing : after.outgoing = before.outgoing)
    (incoming : after.incoming = before.incoming) : HasLinks after links := by
  have targets : after.targets = before.targets := by
    funext edge source
    rw [Topology.targets, outgoing]
    rfl
  have sources : after.sources = before.sources := by
    funext edge target
    rw [Topology.sources, incoming]
    rfl
  exact {
    single := targets ▸ h.single
    collected := targets ▸ h.collected
    mem_sources := sources ▸ h.mem_sources
    nodup_targets := targets ▸ h.nodup_targets
    nodup_sources := sources ▸ h.nodup_sources }

/-- What leaves the edges alone makes no link. -/
theorem unlinked (h : HasLinks before links) (outgoing : after.outgoing = before.outgoing)
    (incoming : after.incoming = before.incoming) : HasLinks after (links ++ []) := by
  rw [List.append_nil]
  exact h.congr outgoing incoming

/-- A link enters its edge at both ends. -/
theorem link (h : HasLinks topology links) (link : Link) :
    HasLinks (topology.link link.edge link.source link.target) (links ++ [link]) where
  single {edge} single source := by
    rw [targets_link, Link.targetsFrom_append]
    by_cases same : link.edge = edge ∧ link.source = source
    · obtain ⟨rfl, rfl⟩ := same
      have last : Link.targetsFrom [link] link.edge link.source = [link.target] := by
        simp [Link.targetsFrom]
      simp [single, last, addMissing]
    · have none : Link.targetsFrom [link] edge source = [] := by
        simp only [Link.targetsFrom, List.filter_cons, decide_eq_true_eq, if_neg same]
        rfl
      rw [if_neg same, none, List.append_nil, h.single single]
  collected {edge} collects {source target} := by
    rw [mem_targets_link_iff collects, h.collected collects, List.mem_append, List.mem_singleton,
      Link.eq_iff]
  mem_sources {edge source target} := by
    rw [mem_sources_link_iff, h.mem_sources, List.mem_append, List.mem_singleton, Link.eq_iff]
  nodup_targets edge source := by
    rw [targets_link]
    split
    · refine nodup_addMissing ?_ _
      split
      · exact List.nodup_nil
      · exact h.nodup_targets _ _
    · exact h.nodup_targets _ _
  nodup_sources edge target := by
    rw [sources_link]
    split
    · exact nodup_addMissing (h.nodup_sources _ _) _
    · exact h.nodup_sources _ _

/-- A connection makes the link of its ends, if they are there, and leaves the edges alone
otherwise. -/
theorem connect (h : HasLinks topology links) (edge : Edge) (source target : ResourceId) :
    HasLinks (topology.connect edge source target)
      (links ++ (topology.link? edge source target).toList) := by
  unfold Topology.connect link?
  cases topology.hasNode edge.sourceKind source with
  | false => exact h.unlinked rfl rfl
  | true =>
      cases topology.hasNode edge.targetKind target with
      | false => exact h.unlinked rfl rfl
      | true => exact h.link ⟨edge, source, target⟩

/-- The one target of a source is its last one. -/
theorem target?_eq (h : HasLinks topology links) (single : edge.isSingle = true)
    (source : ResourceId) :
    topology.target? edge source = (Link.targetsFrom links edge source).getLast? := by
  rw [target?, h.single single]
  cases (Link.targetsFrom links edge source).getLast? <;> rfl

theorem mem_targets_iff_of_single (h : HasLinks topology links) (single : edge.isSingle = true) :
    target ∈ topology.targets edge source ↔ topology.target? edge source = some target := by
  rw [h.target?_eq single, h.single single, Option.mem_toList]

/-- Whatever stands at a source was linked to it. -/
theorem link_of_mem_targets (h : HasLinks topology links)
    (member : target ∈ topology.targets edge source) : ⟨edge, source, target⟩ ∈ links := by
  cases kind : edge.isSingle with
  | false => exact (h.collected kind).mp member
  | true =>
      rw [h.mem_targets_iff_of_single kind, h.target?_eq kind] at member
      exact Link.mem_targetsFrom.mp (List.mem_of_getLast? member)

/-- Unless a source that has one target at most was joined to two, it has all that were linked to
it. -/
theorem mem_targets_of_oneTarget (h : HasLinks topology links)
    (one : edge.isSingle = true → Link.OneTarget links edge) :
    target ∈ topology.targets edge source ↔ ⟨edge, source, target⟩ ∈ links := by
  refine ⟨h.link_of_mem_targets, fun linked => ?_⟩
  cases kind : edge.isSingle with
  | false => exact (h.collected kind).mpr linked
  | true =>
      have nonempty : Link.targetsFrom links edge source ≠ [] :=
        List.ne_nil_of_mem (Link.mem_targetsFrom.mpr linked)
      have last := List.getLast?_eq_some_getLast nonempty
      have member := Link.mem_targetsFrom.mp (List.getLast_mem nonempty)
      rw [h.mem_targets_iff_of_single kind, h.target?_eq kind, last,
        one kind _ _ _ member linked]

end HasLinks

def BothEnds (topology : Topology) (edge : Edge) : Prop :=
  ∀ source target, target ∈ topology.targets edge source ↔ source ∈ topology.sources edge target

theorem HasLinks.bothEnds_of_oneTarget (h : HasLinks topology links)
    (one : edge.isSingle = true → Link.OneTarget links edge) : topology.BothEnds edge := by
  intro source target
  rw [h.mem_targets_of_oneTarget one, h.mem_sources]

/-- The ends agree on edges of which a source has one at most exactly if no source was joined to two
targets. -/
theorem HasLinks.bothEnds_iff (h : HasLinks topology links) (single : edge.isSingle = true) :
    topology.BothEnds edge ↔ Link.OneTarget links edge := by
  refine ⟨fun agree source first second linked linked' => ?_,
    fun one => h.bothEnds_of_oneTarget fun _ => one⟩
  have atFirst := (agree source first).mpr (h.mem_sources.mpr linked)
  have atSecond := (agree source second).mpr (h.mem_sources.mpr linked')
  rw [h.mem_targets_iff_of_single single] at atFirst atSecond
  exact Option.some.inj (atFirst.symm.trans atSecond)

/-- Two topologies with the same edges, which may have arrived in different orders. -/
structure SameEdges (first second : Topology) : Prop where
  targets : ∀ edge source, (second.targets edge source).Perm (first.targets edge source)
  sources : ∀ edge target, (second.sources edge target).Perm (first.sources edge target)

/-- If no source was joined to two targets, only which links were made matters. -/
theorem HasLinks.sameEdges {first second : Topology} {links links' : List Link}
    (h : HasLinks first links) (h' : HasLinks second links')
    (same : ∀ link, link ∈ links' ↔ link ∈ links)
    (one : ∀ {edge : Edge}, edge.isSingle = true → Link.OneTarget links edge) :
    SameEdges first second where
  targets edge source := by
    refine (List.perm_ext_iff_of_nodup (h'.nodup_targets _ _) (h.nodup_targets _ _)).mpr fun _ => ?_
    have one' : edge.isSingle = true → Link.OneTarget links' edge :=
      fun single source first second linked linked' =>
        one single source first second ((same _).mp linked) ((same _).mp linked')
    rw [h'.mem_targets_of_oneTarget one', h.mem_targets_of_oneTarget one, same]
  sources edge target := by
    refine (List.perm_ext_iff_of_nodup (h'.nodup_sources _ _) (h.nodup_sources _ _)).mpr fun _ => ?_
    rw [h'.mem_sources, h.mem_sources, same]

/-- The one target of a source is the same in topologies with the same edges. -/
theorem HasLinks.target?_of_sameEdges {first second : Topology} {links links' : List Link}
    (h : HasLinks first links) (h' : HasLinks second links') (same : SameEdges first second)
    (single : edge.isSingle = true) (source : ResourceId) :
    second.target? edge source = first.target? edge source := by
  refine Option.ext fun target => ?_
  rw [← h'.mem_targets_iff_of_single single, ← h.mem_targets_iff_of_single single,
    (same.targets edge source).mem_iff]

/-- Two topologies with the same nodes and edges. -/
structure SameWiring (before after : Topology) : Prop where
  nodes : after.nodes = before.nodes
  outgoing : after.outgoing = before.outgoing
  incoming : after.incoming = before.incoming

namespace SameWiring

variable {first second third : Topology}

theorem refl (topology : Topology) : SameWiring topology topology := ⟨rfl, rfl, rfl⟩

theorem symm (h : SameWiring first second) : SameWiring second first :=
  ⟨h.nodes.symm, h.outgoing.symm, h.incoming.symm⟩

theorem trans (h : SameWiring first second) (h' : SameWiring second third) :
    SameWiring first third :=
  ⟨h'.nodes.trans h.nodes, h'.outgoing.trans h.outgoing, h'.incoming.trans h.incoming⟩

theorem record (topology : Topology) (events : List Event) :
    SameWiring topology (topology.record events) := ⟨rfl, rfl, rfl⟩

theorem hasLinks (h : SameWiring first second) (linked : HasLinks first links) :
    HasLinks second links :=
  linked.congr h.outgoing h.incoming

theorem targets (h : SameWiring first second) (edge : Edge) (source : ResourceId) :
    second.targets edge source = first.targets edge source := by
  rw [Topology.targets, h.outgoing]
  rfl

theorem target? (h : SameWiring first second) (edge : Edge) (source : ResourceId) :
    second.target? edge source = first.target? edge source := by
  rw [Topology.target?, h.targets]
  rfl

theorem sources (h : SameWiring first second) (edge : Edge) (target : ResourceId) :
    second.sources edge target = first.sources edge target := by
  rw [Topology.sources, h.incoming]
  rfl

theorem survivesAttachment (topology : Topology) : SurvivesAttachment (SameWiring topology) where
  record _ same := ⟨same.nodes, same.outgoing, same.incoming⟩
  leaveOut _ same := ⟨same.nodes, same.outgoing, same.incoming⟩
  hold same _ _ := ⟨same.nodes, same.outgoing, same.incoming⟩

theorem survivesResolution (topology : Topology) : SurvivesResolution (SameWiring topology) where
  record _ same := ⟨same.nodes, same.outgoing, same.incoming⟩
  effective _ same := ⟨same.nodes, same.outgoing, same.incoming⟩
  partitions _ same := ⟨same.nodes, same.outgoing, same.incoming⟩

theorem attach (policy : Policy) (topology : Topology) :
    SameWiring topology ((Topology.attach policy).run topology).2 :=
  (survivesAttachment topology).attach policy topology (.refl topology)

theorem attachAll (policies : List Policy) (topology : Topology) :
    SameWiring topology ((Topology.attachAll policies).run topology).2 :=
  (survivesAttachment topology).attachAll policies topology (.refl topology)

theorem resolve (merger : PolicyMerger) (mode : ResolutionMode) (topology : Topology) :
    SameWiring topology ((Topology.resolve merger mode).run topology).2 :=
  (survivesResolution topology).resolve merger mode topology (.refl topology)

theorem inherit (topology : Topology) : SameWiring topology topology.inherit :=
  inherit_keeps (fun _ same => ⟨same.nodes, same.outgoing, same.incoming⟩)
    (fun _ same => ⟨same.nodes, same.outgoing, same.incoming⟩) (.refl topology)

end SameWiring

theorem SameEdges.congr {first second first' second' : Topology} (same : SameEdges first second)
    (h : SameWiring first first') (h' : SameWiring second second') : SameEdges first' second' where
  targets edge source := by
    rw [h.targets, h'.targets]
    exact same.targets edge source
  sources edge target := by
    rw [h.sources, h'.sources]
    exact same.sources edge target

theorem sameEdges_congr {first second first' second' : Topology} (h : SameWiring first first')
    (h' : SameWiring second second') : SameEdges first' second' ↔ SameEdges first second :=
  ⟨fun same => same.congr h.symm h'.symm, fun same => same.congr h h'⟩

end Topology

end PolicyTopology
