import PolicyTopology.Proofs.Policy.Carried
import PolicyTopology.Proofs.Policy.Disorder

/-!
# Peers and their precedence

Inherited policies of one merge kind that are reconciled one after the other, in the order in which
they are met. Each section of the outcome is that of the layers of the policies. If their identities
come in an orderly sequence, each leaf has the value that the first policy in order of precedence
gives it; for any other sequence, there are defaults by which this is not so.
-/

namespace PolicyTopology

namespace Policy

open MergerRegistry (joined mergeInPrecedence)
open Table (gather)

def identity (policy : Policy) : ResourceId := policy.id.toOption.getD (.policy "" "" "" "")

def layer (name : String) (policy : Policy) : Layer := ⟨policy.identity, policy.sectionFields name⟩

/-- What policies come to that are reconciled in the order in which they are met. -/
def reconciled (peers : List Policy) : Except MergeError (Option Policy) :=
  gather (joined (mergeInPrecedence .specification)) none peers

/-- Peers are reconciled in order of precedence if each leaf of a section has the value that the
first of them gives it that has a leaf there, and if in ascending order they would come to the same
leaves. -/
structure InPrecedence (name : String) (peers : List Policy) (merged : Policy) : Prop where
  first_wins : ∀ path value, Document.HasLeaf (.object (merged.sectionFields name)) path value →
    ∃ peer ∈ peers, Document.HasLeaf (.object (peer.sectionFields name)) path value ∧
      ∀ other ∈ peers, ∀ value', Document.HasLeaf (.object (other.sectionFields name)) path value' →
        peer.identity ≤ other.identity
  in_order : ∀ ordered result, ordered.Perm peers →
    ordered.Pairwise (fun first second => first.identity ≤ second.identity) →
    reconciled ordered = .ok (some result) → ∀ path value,
      (Document.HasLeaf (.object (merged.sectionFields name)) path value ↔
        Document.HasLeaf (.object (result.sectionFields name)) path value)

/-- A shaped inherited policy of a merge kind. -/
structure IsPeer (kind : MergeKind) (policy : Policy) : Prop where
  shaped : policy.Shaped
  kind : policy.kind = .ok kind
  inherited : policy.inherited = true

/-- Policies of one identity show the same in a section. -/
def Alike (name : String) (peers : List Policy) : Prop := Layer.Alike (peers.map (layer name))

variable {kind : MergeKind} {name : String} {first second existing policy merged : Policy}
  {peers rest : List Policy} {id : ResourceId}

theorem identity_of_id (h : policy.id = .ok id) : policy.identity = id := by
  rw [identity, h]
  rfl

/-- Of two peers that are merged the first leads. -/
theorem IsPeer.merge_peers (h : first.IsPeer kind) (h' : second.IsPeer kind) :
    ∃ merged, (KindMerger.specification.merge .peers first second).result = .ok merged ∧
      merged.IsPeer kind ∧ ∀ name ∈ ["default", "override"], merged.layer name =
        ⟨first.identity, (second.sectionFields name).overlay (first.sectionFields name)⟩ := by
  have compatible : first.Compatible second :=
    .of_inherited (h.kind.trans h'.kind.symm) h.inherited h'.inherited
  obtain ⟨merged, result, holds⟩ :=
    KindMerger.merge_of_compatible h.shaped h'.shaped compatible .peers
  have kept : merged.identity = first.identity := by
    rw [identity, holds.id]
    rfl
  refine ⟨merged, result, ⟨holds.shaped, ?_, holds.inherited.trans h.inherited⟩, ?_⟩
  · exact (kind_of_id h.shaped holds.id).trans h.kind
  · intro name member
    rw [layer, kept]
    simp only [List.mem_cons, List.not_mem_nil, or_false] at member
    rcases member with rfl | rfl
    · rw [holds.defaults h.inherited]
      rfl
    · rw [holds.overrides h.inherited]

/-- Two peers are reconciled as their layers are. -/
theorem IsPeer.reconcile (h : existing.IsPeer kind) (h' : policy.IsPeer kind) :
    ∃ merged, mergeInPrecedence .specification existing policy = .ok merged ∧ merged.IsPeer kind ∧
      ∀ name ∈ ["default", "override"],
        merged.layer name = (existing.layer name).reconcile (policy.layer name) := by
  obtain ⟨id, other, found, found', merge⟩ :=
    MergerRegistry.mergeInPrecedence_of_shaped h.shaped h'.shaped
  rw [merge, ← identity_of_id found, ← identity_of_id found']
  by_cases leads : existing.identity ≤ policy.identity
  · obtain ⟨merged, result, peer, layers⟩ := h.merge_peers h'
    refine ⟨merged, by rwa [if_pos leads], peer, fun name member => ?_⟩
    rw [layers name member, Layer.reconcile]
    exact (if_pos leads).symm
  · obtain ⟨merged, result, peer, layers⟩ := h'.merge_peers h
    refine ⟨merged, by rwa [if_neg leads], peer, fun name member => ?_⟩
    rw [layers name member, Layer.reconcile]
    exact (if_neg leads).symm

/-- Peers are reconciled as their layers are. -/
theorem exists_reconciled (hfirst : first.IsPeer kind) (hrest : ∀ peer ∈ rest, peer.IsPeer kind) :
    ∃ merged, reconciled (first :: rest) = .ok (some merged) ∧ merged.IsPeer kind ∧
      ∀ name ∈ ["default", "override"],
        merged.layer name = Layer.reconcileAll (first.layer name) (rest.map (layer name)) := by
  change ∃ merged, gather (joined (mergeInPrecedence .specification)) (some first) rest = _ ∧ _
  induction rest generalizing first with
  | nil => exact ⟨first, rfl, hfirst, fun _ _ => rfl⟩
  | cons policy rest ih =>
      obtain ⟨next, merge, peer, layers⟩ := hfirst.reconcile (hrest policy List.mem_cons_self)
      obtain ⟨merged, result, peer', layers'⟩ :=
        ih peer fun other member => hrest other (List.mem_cons_of_mem policy member)
      refine ⟨merged, ?_, peer', fun name member => ?_⟩
      · rw [Table.gather_cons, joined, merge]
        exact result
      · rw [layers' name member, layers name member]
        rfl

/-- Only policies of one kind are reconciled, inherited ones or direct ones. -/
theorem agree_of_reconciled (hpeers : ∀ peer ∈ first :: rest, peer.Shaped)
    (h : reconciled (first :: rest) = .ok (some merged)) :
    ∀ peer ∈ rest, peer.kind = first.kind ∧ peer.inherited = first.inherited := by
  change gather (joined (mergeInPrecedence .specification)) (some first) rest = _ at h
  induction rest generalizing first with
  | nil => exact fun _ member => nomatch member
  | cons policy rest ih =>
      rw [Table.gather_cons, Except.bind_ok_iff] at h
      obtain ⟨next, merge, h⟩ := h
      have hfirst := hpeers first List.mem_cons_self
      have hpolicy := hpeers policy (by simp)
      have kept : policy.kind = first.kind ∧ policy.inherited = first.inherited ∧ next.Shaped ∧
          next.kind = first.kind ∧ next.inherited = first.inherited := by
        rcases MergerRegistry.merged_of_mergeInPrecedence hfirst hpolicy merge with
          ⟨compatible, holds⟩ | ⟨compatible, holds⟩
        · exact ⟨compatible.kind.symm, compatible.inherited.symm, holds.shaped,
            kind_of_id hfirst holds.id, holds.inherited⟩
        · exact ⟨compatible.kind, compatible.inherited, holds.shaped,
            (kind_of_id hpolicy holds.id).trans compatible.kind,
            holds.inherited.trans compatible.inherited⟩
      obtain ⟨kind, inherited, hnext, kind', inherited'⟩ := kept
      have others := ih (fun peer member => ?_) h
      · intro peer member
        rcases List.mem_cons.mp member with rfl | member
        · exact ⟨kind, inherited⟩
        · obtain ⟨same, same'⟩ := others peer member
          exact ⟨same.trans kind', same'.trans inherited'⟩
      · rcases List.mem_cons.mp member with rfl | member
        · exact hnext
        · exact hpeers peer (by simp [member])

/-- Reconciled policies of which one is inherited are peers of one kind. -/
theorem exists_isPeer (hpeers : ∀ peer ∈ peers, peer.Shaped)
    (h : reconciled peers = .ok (some merged)) (inherited : ∃ peer ∈ peers, peer.inherited = true) :
    ∃ kind, ∀ peer ∈ peers, peer.IsPeer kind := by
  cases peers with
  | nil => cases h
  | cons first rest =>
      have agree := agree_of_reconciled hpeers h
      have inherits : first.inherited = true := by
        obtain ⟨peer, member, inherits⟩ := inherited
        rcases List.mem_cons.mp member with rfl | member
        · exact inherits
        · exact (agree peer member).2.symm.trans inherits
      obtain ⟨id, found⟩ := (hpeers first List.mem_cons_self).exists_id
      have kind := (parts_of_id found).1
      refine ⟨⟨id.group, id.kind⟩, fun peer member => ?_⟩
      rcases List.mem_cons.mp member with rfl | among
      · exact ⟨hpeers peer member, kind, inherits⟩
      · obtain ⟨same, same'⟩ := agree peer among
        exact ⟨hpeers peer member, same.trans kind, same'.trans inherits⟩

theorem layer_of_reconciled (hpeers : ∀ peer ∈ first :: rest, peer.IsPeer kind)
    (h : reconciled (first :: rest) = .ok (some merged)) (member : name ∈ ["default", "override"]) :
    merged.layer name = Layer.reconcileAll (first.layer name) (rest.map (layer name)) := by
  obtain ⟨merged', result, _, layers⟩ := exists_reconciled (hpeers first List.mem_cons_self)
    fun peer member => hpeers peer (List.mem_cons_of_mem first member)
  rw [h] at result
  cases result
  exact layers name member

theorem hasLeaf_iff_look {path : List Scalar} {value : Document} :
    Document.HasLeaf (.object (policy.sectionFields name)) path value ↔
      (policy.layer name).look path = some (.leaf value) :=
  Document.hasLeaf_iff

theorem ids_layers (peers : List Policy) (name : String) :
    (peers.map (layer name)).map Layer.id = peers.map identity := by
  rw [List.map_map]
  rfl

theorem layers_inPrecedence (hpeers : ∀ peer ∈ peers, peer.IsPeer kind) (alike : Alike name peers)
    (orderly : Orderly (peers.map identity)) (h : reconciled peers = .ok (some merged))
    (member : name ∈ ["default", "override"]) :
    Layer.InPrecedence (peers.map (layer name)) (merged.layer name) := by
  cases peers with
  | nil => cases h
  | cons first rest =>
      rw [layer_of_reconciled hpeers h member]
      exact Layer.inPrecedence_of_orderly (ids_layers (first :: rest) name ▸ orderly) alike

/-- Peers that are met in an orderly sequence are reconciled in order of precedence. -/
theorem inPrecedence_of_orderly (hpeers : ∀ peer ∈ peers, peer.IsPeer kind)
    (alike : Alike name peers)
    (orderly : Orderly (peers.map identity)) (h : reconciled peers = .ok (some merged))
    (member : name ∈ ["default", "override"]) : InPrecedence name peers merged := by
  have merges := layers_inPrecedence hpeers alike orderly h member
  refine ⟨?_, ?_⟩
  · intro path value leaf
    obtain ⟨visit, visited, shows, first⟩ := merges.shown path _ (hasLeaf_iff_look.mp leaf)
    obtain ⟨peer, among, rfl⟩ := List.mem_map.mp visited
    refine ⟨peer, among, hasLeaf_iff_look.mpr shows, fun other among' value' leaf' => ?_⟩
    exact first (other.layer name) (List.mem_map_of_mem among')
      (by simp [hasLeaf_iff_look.mp leaf'])
  · intro ordered result perm ascending h' path value
    have alike' : Alike name ordered := by
      intro first visited second visited'
      exact alike first ((perm.map _).mem_iff.mp visited) second ((perm.map _).mem_iff.mp visited')
    have merges' := layers_inPrecedence
      (fun peer among => hpeers peer (perm.mem_iff.mp among)) alike'
      (Layer.orderly_of_ascending (List.pairwise_map.mpr ascending)) h' member
    rw [hasLeaf_iff_look, hasLeaf_iff_look,
      merges.look_eq merges' alike fun visit => ((perm.map _).mem_iff).symm]

def withDefaults (defaults : Fields) : Policy → Policy
  | .manifest policy =>
    match policy.manifest with
    | .object fields => .manifest (.replaceSpec policy.inherited fields
        (Entries.set (Policy.manifest policy).specFields "default" (.object defaults)))
    | _ => .manifest policy
  | .plain policy => .plain policy

/-- Other defaults leave a peer a peer of the same identity. -/
theorem IsPeer.withDefaults (h : policy.IsPeer kind) (defaults : Fields) :
    (policy.withDefaults defaults).IsPeer kind ∧
      (policy.withDefaults defaults).identity = policy.identity ∧
      (policy.withDefaults defaults).sectionFields "default" = defaults := by
  cases policy with
  | plain policy => exact h.shaped.elim
  | manifest policy =>
      have shaped : policy.Shaped := h.shaped
      obtain ⟨fields, same⟩ := shaped.exists_fields
      have id := ManifestPolicy.id_replaceSpec same
        (Entries.set (Policy.manifest policy).specFields "default" (.object defaults))
      simp only [Policy.withDefaults, same]
      refine ⟨⟨?_, (kind_of_id h.shaped id).trans h.kind, h.inherited⟩, ?_, ?_⟩
      · refine ManifestPolicy.shaped_replaceSpec shaped same fun inherited name member => ?_
        by_cases defaults' : "default" = name
        · exact ⟨defaults, defaults' ▸ Fields.sectionFields?_set_self defaults⟩
        · obtain ⟨former, found⟩ := shaped.sections inherited name member
          exact ⟨former, (Fields.sectionFields?_set_ne _ defaults').trans found⟩
      · rw [identity, id]
        rfl
      · rw [sectionFields, ManifestPolicy.specFields_replaceSpec, Fields.sectionFields?_set_self]
        rfl

def respecified (contents : ResourceId → Fields) (peers : List Policy) : List Policy :=
  peers.map fun peer => peer.withDefaults (contents peer.identity)

section Respecified

variable {contents : ResourceId → Fields} (hpeers : ∀ peer ∈ peers, peer.IsPeer kind)

include hpeers

theorem isPeer_respecified : ∀ peer ∈ respecified contents peers, peer.IsPeer kind := by
  intro peer member
  obtain ⟨peer, among, rfl⟩ := List.mem_map.mp member
  exact ((hpeers peer among).withDefaults _).1

theorem identity_respecified : (respecified contents peers).map identity = peers.map identity := by
  rw [respecified, List.map_map]
  exact List.map_congr_left fun peer among => ((hpeers peer among).withDefaults _).2.1

theorem layer_respecified : ∀ peer ∈ respecified contents peers,
    peer.layer "default" = Layer.ofContents contents peer.identity := by
  intro peer member
  obtain ⟨peer, among, rfl⟩ := List.mem_map.mp member
  obtain ⟨_, same, defaults⟩ := (hpeers peer among).withDefaults (contents peer.identity)
  rw [layer, same, defaults]
  rfl

end Respecified

/-- What peers come to whose defaults are given by their identities. -/
theorem layer_of_reconciled_ofContents {contents : ResourceId → Fields}
    (hpeers : ∀ peer ∈ first :: rest, peer.IsPeer kind)
    (layers : ∀ peer ∈ first :: rest,
      peer.layer "default" = Layer.ofContents contents peer.identity)
    (h : reconciled (first :: rest) = .ok (some merged)) : merged.layer "default" =
      Layer.meet contents (Layer.ofContents contents first.identity) (rest.map identity) := by
  rw [layer_of_reconciled hpeers h (by simp), layers first List.mem_cons_self, Layer.reconcileAll,
    Layer.meet, List.map_map]
  refine congrArg (List.foldl _ _) (List.map_congr_left fun peer member => ?_)
  exact layers peer (List.mem_cons_of_mem first member)

/-- Peers in ascending order of their identities. -/
theorem exists_ascending (peers : List Policy) : ∃ ordered : List Policy, ordered.Perm peers ∧
    ordered.Pairwise fun first second => first.identity ≤ second.identity := by
  have sorted : (peers.mergeSort fun first second => first.identity ≤ second.identity).Pairwise
      fun first second => decide (first.identity ≤ second.identity) = true := by
    apply List.pairwise_mergeSort
    · simpa using fun _ _ _ => ResourceId.le_trans
    · simpa using fun first second : Policy => ResourceId.le_total first.identity second.identity
  exact ⟨_, List.mergeSort_perm _ _, by simpa using sorted⟩

/-- For peers that are met in any other sequence there are defaults with which they are not
reconciled in order of precedence. -/
theorem exists_not_inPrecedence (hpeers : ∀ peer ∈ peers, peer.IsPeer kind)
    (disorder : ¬ Orderly (peers.map identity)) :
    ∃ contents merged, reconciled (respecified contents peers) = .ok (some merged) ∧
      ¬ InPrecedence "default" (respecified contents peers) merged := by
  cases peers with
  | nil => exact absurd (Layer.orderly_of_ascending .nil) disorder
  | cons first rest =>
      obtain ⟨contents, path, value, shown, lost⟩ := Layer.exists_loses_of_not_orderly disorder
      refine ⟨contents, ?_⟩
      have others := @isPeer_respecified _ _ contents hpeers
      have layers := @layer_respecified _ _ contents hpeers
      have ids := @identity_respecified _ _ contents hpeers
      generalize respecified contents (first :: rest) = peers at others layers ids ⊢
      cases peers with
      | nil => cases ids
      | cons first' rest' =>
          obtain ⟨head, tail⟩ := List.cons.inj ids
          obtain ⟨merged, result, _⟩ := exists_reconciled (others first' List.mem_cons_self)
            fun peer member => others peer (List.mem_cons_of_mem first' member)
          refine ⟨merged, result, fun precedence => lost ?_⟩
          rw [← head, ← tail, ← layer_of_reconciled_ofContents others layers result,
            ← hasLeaf_iff_look]
          obtain ⟨ordered, perm, ascending⟩ := exists_ascending (first' :: rest')
          cases ordered with
          | nil => exact nomatch perm.nil_eq
          | cons least others' =>
              have among := fun peer => (@List.Perm.mem_iff _ peer _ _ perm).mp
              have peers := fun peer member => others peer (among peer member)
              obtain ⟨result', settled, _⟩ := exists_reconciled (peers least List.mem_cons_self)
                fun peer member => peers peer (List.mem_cons_of_mem least member)
              refine (precedence.in_order _ result' perm ascending settled path value).mpr ?_
              rw [hasLeaf_iff_look, layer_of_reconciled_ofContents peers
                (fun peer member => layers peer (among peer member)) settled]
              refine shown least.identity (others'.map identity) ?_
                (List.pairwise_map.mpr ascending)
              rw [← head, ← tail]
              exact perm.map identity

/-- It depends on the sequence in which peers are met whether they are reconciled in order of
precedence whatever their defaults are. -/
theorem orderly_iff (hpeers : ∀ peer ∈ peers, peer.IsPeer kind) :
    Orderly (peers.map identity) ↔ ∀ contents merged,
      reconciled (respecified contents peers) = .ok (some merged) →
        InPrecedence "default" (respecified contents peers) merged := by
  constructor
  · intro orderly contents merged h
    rw [← @identity_respecified _ _ contents hpeers] at orderly
    refine inPrecedence_of_orderly (isPeer_respecified hpeers) ?_ orderly h (by simp)
    intro first visited second visited' same path
    obtain ⟨peer, member, rfl⟩ := List.mem_map.mp visited
    obtain ⟨other, member', rfl⟩ := List.mem_map.mp visited'
    rw [layer_respecified hpeers peer member, layer_respecified hpeers other member',
      show peer.identity = other.identity from same]
  · intro precedence
    refine Classical.byContradiction fun disorder => ?_
    obtain ⟨contents, merged, h, lost⟩ := exists_not_inPrecedence hpeers disorder
    exact lost (precedence contents merged h)

end Policy

end PolicyTopology
