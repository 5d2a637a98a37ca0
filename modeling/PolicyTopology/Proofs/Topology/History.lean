import Mathlib.Data.List.Induction
import PolicyTopology.Proofs.Topology.BothEnds
import PolicyTopology.Proofs.Topology.Declared

/-!
# Topologies and their histories

What nodes and edges a topology has can be told from the operations that it comes from. The node of
an identity is the first resource that was inserted with it. The edges are the connections that were
made when both of their ends had been inserted: no later insertion makes up for a missing end, and
only another connection of the same source takes the place of an edge.
-/

namespace PolicyTopology

namespace Operation

def inserted? : Operation → Option Resource
  | .insert resource => some resource
  | _ => none

def firstResource? (operations : List Operation) (id : ResourceId) : Option Resource :=
  (operations.filterMap inserted?).find? fun resource => resource.id = id

def Inserts (operations : List Operation) (kind : NodeKind) (id : ResourceId) : Prop :=
  id.nodeKind = kind ∧ ∃ resource, .insert resource ∈ operations ∧ resource.id = id

/-- One step of operations, a connection of nodes that were inserted before it. -/
structure ConnectsAt (operations : List Operation) (link : Link)
    (earlier later : List Operation) : Prop where
  step : operations = earlier ++ .connect link.edge link.source link.target :: later
  source : Inserts earlier link.edge.sourceKind link.source
  target : Inserts earlier link.edge.targetKind link.target

/-- Whether some step of operations connects two nodes that were inserted before it. -/
def Connects (operations : List Operation) (link : Link) : Prop :=
  ∃ earlier later, ConnectsAt operations link earlier later

/-- Whether, of the steps that connect a source by edges of a kind to nodes that were inserted
before, the last one is for the given target. -/
def ConnectsLast (operations : List Operation) (link : Link) : Prop :=
  ∃ earlier later, ConnectsAt operations link earlier later ∧
    ∀ other earlier' later',
      ConnectsAt operations ⟨link.edge, link.source, other⟩ earlier' later' →
      later.length ≤ later'.length

end Operation

open Operation

namespace Topology

variable {topology : Topology} {operations : List Operation} {operation : Operation} {link : Link}
  {kind : NodeKind} {id : ResourceId} {resource : Resource}

/-- A node stays, and only an insertion brings a new one. -/
theorem get?_nodes_apply_eq (operation : Operation) (topology : Topology) (id : ResourceId) :
    (operation.apply topology).nodes.get? id =
      (topology.nodes.get? id).or (firstResource? [operation] id) := by
  have unchanged : operation.inserted? = none →
      (operation.apply topology).nodes = topology.nodes →
      (operation.apply topology).nodes.get? id =
        (topology.nodes.get? id).or (firstResource? [operation] id) := by
    intro none same
    simp [same, firstResource?, none]
  cases operation with
  | insert resource => exact get?_nodes_insertAll [resource] topology id
  | connect edge source target => exact unchanged rfl (topology.nodes_connect edge source target)
  | note event => exact unchanged rfl rfl
  | attach policy => exact unchanged rfl (SameWiring.attach policy topology).nodes
  | attachAll policies => exact unchanged rfl (SameWiring.attachAll policies topology).nodes
  | resolve merger mode => exact unchanged rfl (SameWiring.resolve merger mode topology).nodes
  | inherit => exact unchanged rfl (SameWiring.inherit topology).nodes

/-- The node of an identity is the first resource that was inserted with it. -/
theorem get?_nodes_applyAll_eq (operations : List Operation) (topology : Topology)
    (id : ResourceId) :
    (operations.foldl Operation.apply topology).nodes.get? id =
      (topology.nodes.get? id).or (firstResource? operations id) := by
  induction operations generalizing topology with
  | nil => simp [firstResource?]
  | cons operation rest ih =>
      have split : firstResource? (operation :: rest) id =
          (firstResource? [operation] id).or (firstResource? rest id) := by
        change ((([operation] ++ rest).filterMap inserted?).find? _) = _
        rw [List.filterMap_append, List.find?_append]
        rfl
      rw [List.foldl_cons, ih, get?_nodes_apply_eq, split, Option.or_assoc]

theorem isSome_firstResource?_iff :
    (firstResource? operations id).isSome = true ↔
      ∃ resource, .insert resource ∈ operations ∧ resource.id = id := by
  rw [firstResource?, List.find?_isSome]
  simp only [List.mem_filterMap, decide_eq_true_eq]
  constructor
  · rintro ⟨resource, ⟨operation, member, inserts⟩, named⟩
    cases operation <;> cases inserts
    exact ⟨resource, member, named⟩
  · rintro ⟨resource, member, named⟩
    exact ⟨resource, ⟨_, member, rfl⟩, named⟩

/-- A node is there exactly if it was inserted. -/
theorem hasNode_iff_inserts :
    (operations.foldl Operation.apply .empty).hasNode kind id = true ↔
      Inserts operations kind id := by
  rw [hasNode, Bool.and_eq_true, decide_eq_true_eq, Table.contains_eq_isSome,
    get?_nodes_applyAll_eq]
  exact and_congr_right fun _ => isSome_firstResource?_iff

/-- A resource whose identity was inserted before changes nothing. -/
theorem insert_of_inserts (h : Inserts operations resource.id.nodeKind resource.id) :
    (operations.foldl Operation.apply .empty).insert resource =
      operations.foldl Operation.apply .empty := by
  have node := hasNode_iff_inserts.mpr h
  rw [hasNode, Bool.and_eq_true] at node
  simp only [insert, Table.insertNew, node.2, if_true]

theorem link?_eq_some_iff :
    operation.link? (operations.foldl Operation.apply .empty) = some link ↔
      operation = .connect link.edge link.source link.target ∧
        Inserts operations link.edge.sourceKind link.source ∧
        Inserts operations link.edge.targetKind link.target := by
  rw [← hasNode_iff_inserts, ← hasNode_iff_inserts]
  cases operation with
  | connect edge source target =>
      obtain ⟨edge', source', target'⟩ := link
      simp only [Operation.link?, Topology.link?, Operation.connect.injEq]
      constructor
      · intro made
        split at made
        · next nodes =>
          cases made
          exact ⟨⟨rfl, rfl, rfl⟩, Bool.and_eq_true _ _ ▸ nodes⟩
        · cases made
      · rintro ⟨⟨rfl, rfl, rfl⟩, nodes⟩
        rw [if_pos (Bool.and_eq_true _ _ ▸ nodes)]
  | _ => simp [Operation.link?]

theorem links_append (first second : List Operation) (topology : Topology) :
    Operation.links topology (first ++ second) =
      Operation.links topology first ++
        Operation.links (first.foldl Operation.apply topology) second := by
  induction first generalizing topology with
  | nil => rfl
  | cons operation rest ih => rw [List.cons_append, links, links, ih, List.append_assoc]; rfl

/-- A step of operations with one more is that one or a step of those before it. -/
theorem connectsAt_append_iff {earlier later : List Operation} :
    ConnectsAt (operations ++ [operation]) link earlier later ↔
      (earlier = operations ∧ later = [] ∧
        operation.link? (operations.foldl Operation.apply .empty) = some link) ∨
      ∃ rest, later = rest ++ [operation] ∧ ConnectsAt operations link earlier rest := by
  constructor
  · rintro ⟨step, source, target⟩
    obtain rfl | ⟨rest, last, rfl⟩ := later.eq_nil_or_concat
    · obtain ⟨rfl, same⟩ := List.append_inj' step rfl
      exact .inl ⟨rfl, rfl, link?_eq_some_iff.mpr ⟨(List.cons.inj same).1, source, target⟩⟩
    · rw [List.concat_eq_append] at step ⊢
      rw [← List.cons_append, ← List.append_assoc] at step
      obtain ⟨same, last⟩ := List.append_inj' step rfl
      rw [(List.cons.inj last).1]
      exact .inr ⟨rest, rfl, same, source, target⟩
  · rintro (⟨rfl, rfl, made⟩ | ⟨rest, rfl, step, source, target⟩)
    · obtain ⟨rfl, source, target⟩ := link?_eq_some_iff.mp made
      exact ⟨rfl, source, target⟩
    · exact ⟨by rw [step, List.append_assoc, List.cons_append], source, target⟩

/-- The links of operations are the connections of inserted nodes. -/
theorem mem_links_iff_connects :
    link ∈ Operation.links .empty operations ↔ Connects operations link := by
  induction operations using List.reverseRecOn with
  | nil =>
      constructor
      · intro member
        cases member
      · rintro ⟨earlier, later, step, -, -⟩
        exact absurd step.symm (by simp)
  | append_singleton operations operation ih =>
      rw [links_append, List.mem_append, ih]
      simp only [links, List.append_nil, Option.mem_toList, Connects, connectsAt_append_iff]
      constructor
      · rintro (⟨earlier, later, step⟩ | made)
        · exact ⟨earlier, _, .inr ⟨later, rfl, step⟩⟩
        · exact ⟨_, _, .inl ⟨rfl, rfl, made⟩⟩
      · rintro ⟨earlier, later, ⟨-, -, made⟩ | ⟨rest, -, step⟩⟩
        · exact .inr made
        · exact .inl ⟨earlier, rest, step⟩

section

variable {edge : Edge} {source target made : ResourceId}

/-- After a step that connects a source, this step is the last one that does. -/
theorem connectsLast_append_of_link
    (h : operation.link? (operations.foldl Operation.apply .empty) = some ⟨edge, source, made⟩) :
    ConnectsLast (operations ++ [operation]) ⟨edge, source, target⟩ ↔ made = target := by
  have here : ConnectsAt (operations ++ [operation]) ⟨edge, source, made⟩ operations [] :=
    connectsAt_append_iff.mpr (.inl ⟨rfl, rfl, h⟩)
  constructor
  · rintro ⟨earlier, later, step, last⟩
    have nil : later = [] := List.length_eq_zero_iff.mp (Nat.le_zero.mp (last _ _ _ here))
    obtain ⟨-, -, made'⟩ | ⟨rest, shape, -⟩ := connectsAt_append_iff.mp step
    · exact (Link.mk.inj (Option.some.inj (h.symm.trans made'))).2.2
    · exact absurd (nil.symm.trans shape) (by simp)
  · rintro rfl
    exact ⟨_, _, here, fun _ _ _ _ => Nat.zero_le _⟩

/-- A step that does not connect a source leaves the last one that does. -/
theorem connectsLast_append_of_other
    (h : ∀ other, operation.link? (operations.foldl Operation.apply .empty) ≠
      some ⟨edge, source, other⟩) :
    ConnectsLast (operations ++ [operation]) ⟨edge, source, target⟩ ↔
      ConnectsLast operations ⟨edge, source, target⟩ := by
  have before : ∀ {other earlier later},
      ConnectsAt (operations ++ [operation]) ⟨edge, source, other⟩ earlier later ↔
        ∃ rest, later = rest ++ [operation] ∧
          ConnectsAt operations ⟨edge, source, other⟩ earlier rest := by
    intro other earlier later
    rw [connectsAt_append_iff]
    exact or_iff_right fun made => h other made.2.2
  constructor
  · rintro ⟨earlier, later, step, last⟩
    obtain ⟨rest, rfl, already⟩ := before.mp step
    refine ⟨earlier, rest, already, fun other earlier' rest' step' => ?_⟩
    have ordered := last other earlier' _ (before.mpr ⟨rest', rfl, step'⟩)
    simp only [List.length_append] at ordered
    omega
  · rintro ⟨earlier, rest, step, last⟩
    refine ⟨earlier, _, before.mpr ⟨rest, rfl, step⟩, fun other earlier' later' step' => ?_⟩
    obtain ⟨rest', rfl, already⟩ := before.mp step'
    have ordered := last other earlier' rest' already
    simp only [List.length_append]
    omega

/-- The last target that operations link to a source is the one that they connect last. -/
theorem getLast?_targetsFrom_iff :
    (Link.targetsFrom (Operation.links .empty operations) edge source).getLast? = some target ↔
      ConnectsLast operations ⟨edge, source, target⟩ := by
  induction operations using List.reverseRecOn with
  | nil =>
      constructor
      · intro found
        cases found
      · rintro ⟨earlier, later, ⟨step, -, -⟩, -⟩
        exact absurd step.symm (by simp)
  | append_singleton operations operation ih =>
      rw [links_append, Link.targetsFrom_append, List.getLast?_append]
      simp only [links, List.append_nil]
      cases made : operation.link? (operations.foldl Operation.apply .empty) with
      | none =>
          rw [connectsLast_append_of_other (by simp [made]), ← ih]
          rfl
      | some link =>
          by_cases same : link.edge = edge ∧ link.source = source
          · obtain ⟨edge', source', target'⟩ := link
            obtain ⟨rfl, rfl⟩ := same
            rw [connectsLast_append_of_link made]
            simp [Link.targetsFrom]
          · have other : ∀ other, operation.link? (operations.foldl Operation.apply .empty) ≠
                some ⟨edge, source, other⟩ := by
              rintro other made'
              obtain rfl := Option.some.inj (made.symm.trans made')
              exact same ⟨rfl, rfl⟩
            rw [connectsLast_append_of_other other, ← ih]
            simp [Link.targetsFrom, same]

end

end Topology

/-- How the nodes and edges that a topology has after some operations can be told from the
operations. -/
structure Recounts (operations : List Operation) (final : Topology) : Prop where
  /-- The node of an identity is the first resource that was inserted with it. -/
  node : ∀ id, final.nodes.get? id = firstResource? operations id
  /-- A source that collects edges lists the targets that it was connected to when both were
  there. -/
  collected : ∀ {edge : Edge}, edge.isSingle = false → ∀ {source target},
    target ∈ final.targets edge source ↔ Connects operations ⟨edge, source, target⟩
  /-- Of other edges a source has the one by which it was connected last. -/
  single : ∀ {edge : Edge}, edge.isSingle = true → ∀ {source target},
    final.target? edge source = some target ↔ ConnectsLast operations ⟨edge, source, target⟩
  /-- It has none if it never was connected. -/
  unconnected : ∀ {edge : Edge}, edge.isSingle = true → ∀ {source},
    final.target? edge source = none ↔ ∀ target, ¬ Connects operations ⟨edge, source, target⟩
  /-- A target lists all sources that were connected to it. -/
  known : ∀ {edge source target},
    source ∈ final.sources edge target ↔ Connects operations ⟨edge, source, target⟩
  /-- An insertion of an identity that is there already can be struck out, whenever it happens. -/
  again : ∀ {earlier later resource}, operations = earlier ++ .insert resource :: later →
    Inserts earlier resource.id.nodeKind resource.id →
    final = (earlier ++ later).foldl Operation.apply .empty
  /-- A connection whose source is missing only enters a diagnostic that names the source. -/
  sourceMissing : ∀ {edge source target}, ¬ Inserts operations edge.sourceKind source →
    final.connect edge source target =
      { final with
        diagnostics := final.diagnostics ++ [.missingEndpoint edge source source]
        journal := final.journal ++ [.omitted (.missingEndpoint edge source source)] }
  /-- If only the target is missing the diagnostic names the target. -/
  targetMissing : ∀ {edge source target}, Inserts operations edge.sourceKind source →
    ¬ Inserts operations edge.targetKind target →
    final.connect edge source target =
      { final with
        diagnostics := final.diagnostics ++ [.missingEndpoint edge source target]
        journal := final.journal ++ [.omitted (.missingEndpoint edge source target)] }

namespace Topology

/-- After any operations the nodes are those that were inserted first, and the edges are those by
which nodes that were there have been connected. -/
theorem applyAll_recounts (operations : List Operation) :
    Recounts operations (operations.foldl Operation.apply .empty) := by
  have linked : HasLinks (operations.foldl Operation.apply .empty)
      (Operation.links .empty operations) := HasLinks.empty.applyAll operations
  exact {
    node := fun id => (get?_nodes_applyAll_eq operations .empty id).trans (Option.none_or ..)
    collected := fun collects => (linked.collected collects).trans mem_links_iff_connects
    single := fun single _ _ => by rw [linked.target?_eq single, getLast?_targetsFrom_iff]
    unconnected := fun single source => by
      rw [linked.target?_eq single, List.getLast?_eq_none_iff, List.eq_nil_iff_forall_not_mem]
      exact forall_congr' fun target =>
        not_congr (Link.mem_targetsFrom.trans mem_links_iff_connects)
    known := linked.mem_sources.trans mem_links_iff_connects
    again := by
      rintro earlier later resource rfl inserted
      rw [List.foldl_append, List.foldl_append, List.foldl_cons]
      exact congrArg (later.foldl Operation.apply) (insert_of_inserts inserted)
    sourceMissing := fun {edge source target} missing => by
      have absent := Bool.eq_false_iff.mpr (mt hasNode_iff_inserts.mp missing)
      exact connect_of_refusal (by rw [refusal?, absent]; rfl)
    targetMissing := fun {edge source target} present missing => by
      have node := hasNode_iff_inserts.mpr present
      have absent := Bool.eq_false_iff.mpr (mt hasNode_iff_inserts.mp missing)
      exact connect_of_refusal (by rw [refusal?, node, absent]; rfl) }

end Topology

end PolicyTopology
