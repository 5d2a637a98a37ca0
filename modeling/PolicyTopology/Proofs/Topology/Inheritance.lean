import PolicyTopology.Proofs.Topology.Alike
import PolicyTopology.Proofs.Topology.Coherent

/-!
# What nodes inherit

The inherited policies of the nodes of a kind are worked out one node after another, in order of
arrival. A node reads what nodes of another kind inherit, so the order makes no difference: each
node gets what it would get alone.
-/

namespace PolicyTopology

namespace Topology

variable {topology first second : Topology} {kind : NodeKind}
  {inherits : Topology → ResourceId → List ResourceId}

/-- What a node inherits does not depend on what nodes of the given kind inherit. -/
def InheritsApart (topology : Topology) (kind : NodeKind)
    (inherits : Topology → ResourceId → List ResourceId) : Prop :=
  ∀ inherited : Table ResourceId (List ResourceId),
    (∀ id, id.nodeKind ≠ kind → inherited.get? id = topology.inherited.get? id) →
    ∀ id, inherits { topology with inherited } id = inherits topology id

/-- The nodes that were visited are of the kind, so what has been stored for them is not read. -/
theorem foldl_inherits_of_apart (apart : topology.InheritsApart kind inherits)
    {ids : List ResourceId} (ofKind : ∀ id ∈ ids, id.nodeKind = kind)
    {stored : Table ResourceId (List ResourceId)}
    (outside : ∀ id, id.nodeKind ≠ kind → stored.get? id = topology.inherited.get? id) :
    ∃ inherited, ids.foldl (fun (state : Topology) id =>
        { state with inherited := state.inherited.set id (inherits state id) })
        { topology with inherited := stored } = { topology with inherited } ∧
      ∀ id, inherited.get? id =
        if id ∈ ids then some (inherits topology id) else stored.get? id := by
  induction ids generalizing stored with
  | nil => exact ⟨stored, rfl, fun _ => by rw [if_neg List.not_mem_nil]⟩
  | cons head rest ih =>
      have outside' : ∀ id, id.nodeKind ≠ kind →
          (stored.set head (inherits topology head)).get? id = topology.inherited.get? id := by
        intro id other
        have ne : head ≠ id := by
          rintro rfl
          exact other (ofKind head List.mem_cons_self)
        rw [Table.get?_set_ne _ _ ne, outside id other]
      obtain ⟨inherited, result, read⟩ :=
        ih (fun id member => ofKind id (List.mem_cons_of_mem _ member)) outside'
      refine ⟨inherited, ?_, fun id => ?_⟩
      · rw [List.foldl_cons, ← result, ← apart stored outside head]
      · rw [read, Table.get?_set]
        by_cases here : head = id
        · subst here
          simp
        · simp [here, Ne.symm here]

/-- Each node of the kind gets what it inherits in the topology at the start, and nothing else
changes. -/
theorem inheritAll_of_apart (apart : topology.InheritsApart kind inherits) :
    ∃ inherited, topology.inheritAll kind inherits = { topology with inherited } ∧
      ∀ id, inherited.get? id =
        if id ∈ topology.idsOf kind then some (inherits topology id)
        else topology.inherited.get? id :=
  foldl_inherits_of_apart apart (fun _ => nodeKind_of_mem_idsOf) fun _ _ => rfl

theorem gateways_inherit_apart (topology : Topology) :
    topology.InheritsApart .gateway gatewayInherited :=
  fun _ _ _ => rfl

/-- A node reads what its parents inherit, and these are of another kind. -/
theorem inheritedFrom_apart {inherited : Table ResourceId (List ResourceId)}
    {parents : List ResourceId}
    (outside : ∀ id ∈ parents, inherited.get? id = topology.inherited.get? id) (id : ResourceId) :
    ({ topology with inherited } : Topology).inheritedFrom id parents =
      topology.inheritedFrom id parents := by
  unfold inheritedFrom
  refine List.foldl_ext _ _ _ fun result parent member => ?_
  change addMissing (addMissing result ((inherited.get? parent).getD []))
    (topology.inheritableOn (some parent)) = _
  rw [outside parent (mem_sortedIds.mp member)]

theorem routes_inherit_apart (coherent : topology.Coherent) :
    topology.InheritsApart .httpRoute routeInherited := by
  intro inherited outside route
  refine inheritedFrom_apart (fun gateway member => outside gateway ?_) route
  have node := nodeKind_of_mem_idsOf (coherent.gateway_of_target member)
  rw [node]
  decide

theorem backends_inherit_apart (coherent : topology.Coherent) :
    topology.InheritsApart .backend backendInherited := by
  intro inherited outside backend
  refine inheritedFrom_apart (fun route member => outside route ?_) backend
  have node := nodeKind_of_mem_idsOf (coherent.route_of_source member)
  rw [node]
  decide

namespace Alike

theorem inheritableOn (h : Alike first second) (target : Option ResourceId) :
    (second.inheritableOn target).Perm (first.inheritableOn target) := by
  cases target with
  | none => exact .refl _
  | some target =>
      have inheritable : second.isInheritable = first.isInheritable := by
        funext id
        rw [isInheritable, h.policies]
        rfl
      change ((second.policyIdsOn target).filter second.isInheritable).Perm _
      rw [inheritable]
      exact (h.policyIdsOn target).filter _

theorem gatewayInherited (h : Alike first second) (gateway : ResourceId) :
    (second.gatewayInherited gateway).Perm (first.gatewayInherited gateway) := by
  unfold Topology.gatewayInherited
  rw [h.nameSpace?, @Alike.target? _ _ h .gatewayClass rfl]
  exact addMissing_perm (h.inheritableOn _) (h.inheritableOn _)

theorem inherited_getD (h : Alike first second) (id : ResourceId) :
    ((second.inherited.get? id).getD []).Perm ((first.inherited.get? id).getD []) := by
  have same := h.inherited id
  generalize first.inherited.get? id = found at same
  generalize second.inherited.get? id = found' at same
  cases same with
  | none => exact .refl _
  | some same => exact same

theorem inheritedFrom (h : Alike first second) (id : ResourceId)
    {parents parents' : List ResourceId} (perm : parents'.Perm parents) :
    (second.inheritedFrom id parents').Perm (first.inheritedFrom id parents) := by
  unfold Topology.inheritedFrom
  rw [sortedIds_congr perm, h.nameSpace?]
  have start := h.inheritableOn (first.nameSpace? id)
  generalize second.inheritableOn (first.nameSpace? id) = result' at start
  generalize first.inheritableOn (first.nameSpace? id) = result at start
  generalize sortedIds parents = parents
  induction parents generalizing result result' with
  | nil => exact start
  | cons parent rest ih =>
      exact ih _ _ (addMissing_perm (addMissing_perm start (h.inherited_getD parent))
        (h.inheritableOn (some parent)))

end Alike

namespace AlikeSince

variable {merger : PolicyMerger} {start start' : Topology}

theorem inheritAll (h : AlikeSince merger start start' first second)
    (apart : first.InheritsApart kind inherits) (apart' : second.InheritsApart kind inherits)
    (same : ∀ id, (inherits second id).Perm (inherits first id)) :
    AlikeSince merger start start' (first.inheritAll kind inherits)
      (second.inheritAll kind inherits) := by
  obtain ⟨inherited, result, read⟩ := inheritAll_of_apart apart
  obtain ⟨inherited', result', read'⟩ := inheritAll_of_apart apart'
  rw [result, result']
  refine { h with alike := { h.alike with inherited := fun id => ?_ } }
  change Option.Rel List.Perm (inherited'.get? id) (inherited.get? id)
  rw [read, read']
  simp only [(h.alike.idsOf kind).mem_iff]
  split
  · exact .some (same id)
  · exact h.alike.inherited id

/-- Nodes inherit the same in topologies that are alike. -/
theorem inherit (h : AlikeSince merger start start' first second) (coherent : first.Coherent)
    (coherent' : second.Coherent) :
    AlikeSince merger start start' first.inherit second.inherit := by
  have gateways := h.inheritAll (gateways_inherit_apart first) (gateways_inherit_apart second)
    h.alike.gatewayInherited
  have coherentG := coherent.inheritAll .gateway Topology.gatewayInherited
  have coherentG' := coherent'.inheritAll .gateway Topology.gatewayInherited
  have routes := gateways.inheritAll (routes_inherit_apart coherentG)
    (routes_inherit_apart coherentG') fun id =>
      gateways.alike.inheritedFrom id (gateways.alike.targets _ _)
  have backends := routes.inheritAll
    (backends_inherit_apart (coherentG.inheritAll .httpRoute routeInherited))
    (backends_inherit_apart (coherentG'.inheritAll .httpRoute routeInherited)) fun id =>
      routes.alike.inheritedFrom id (routes.alike.sources _ _)
  unfold Topology.inherit
  simp only [(h.alike.idsOf _).length_eq]
  exact backends.record _

end AlikeSince

end Topology

end PolicyTopology
