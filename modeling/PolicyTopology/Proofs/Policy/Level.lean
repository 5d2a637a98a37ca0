import Mathlib.Data.List.Induction
import Mathlib.Data.List.Pairwise
import PolicyTopology.Proofs.Policy.Outline
import PolicyTopology.Proofs.Policy.Peers

/-!
# Merging the policies of one level

The policies of a level are merged as peers, kind by kind and in order of precedence. If no two of
them have one identity, the order in which they are given makes no difference: they come to the same
table or to the same error, which is a conflict if the policies of each kind can be read together.
Of inherited policies each leaf of a section has the value that the first policy in order of
precedence gives it that has a leaf there. Such a policy may be any of them; but what a policy has
may be missing as well, where an earlier one has an object for its leaf or a leaf above it.
-/

namespace PolicyTopology

namespace Layer

open Document (Found)

variable {merged layer : Layer} {visits : List Layer} {path : List Scalar} {found : Found}

/-- No two layers disagree on whether a path leads to an object. -/
def Uniform (visits : List Layer) : Prop :=
  ∀ first ∈ visits, ∀ second ∈ visits, ∀ path value,
    first.look path = some .branch → second.look path ≠ some (.leaf value)

/-- Nothing that a layer shows is missing where no layer hides it. -/
theorem InPrecedence.exists_look (h : InPrecedence visits merged) (uniform : Uniform visits)
    (visited : layer ∈ visits) (shows : layer.look path ≠ none) :
    ∃ visit ∈ visits, ∃ found, visit.look path = some found ∧ merged.look path = some found := by
  induction path using List.reverseRecOn with
  | nil => exact ⟨layer, visited, .branch, Document.look_nil _, Document.look_nil _⟩
  | append_singleton path key ih =>
      have branch := Document.look_of_append shows
      obtain ⟨visit, visited', found, look, shown⟩ := ih fun none => nomatch branch.symm.trans none
      cases found with
      | leaf value => exact absurd look (uniform layer visited visit visited' path value branch)
      | branch =>
          cases below : merged.look (path ++ [key]) with
          | none =>
              have missing := Document.misses_of_branch shown below
              exact absurd (h.complete _ missing layer visited) shows
          | some found =>
              obtain ⟨visit, visited, look, _⟩ := h.shown _ found below
              exact ⟨visit, visited, found, look, rfl⟩

/-- So the leaves that are shown are those of all layers. -/
theorem InPrecedence.leaf_iff (h : InPrecedence visits merged) (uniform : Uniform visits) :
    (∃ value, merged.look path = some (.leaf value)) ↔
      ∃ layer ∈ visits, ∃ value, layer.look path = some (.leaf value) := by
  constructor
  · rintro ⟨value, shown⟩
    obtain ⟨visit, visited, look, _⟩ := h.shown path _ shown
    exact ⟨visit, visited, value, look⟩
  · rintro ⟨layer, visited, value, look⟩
    obtain ⟨visit, visited', found, look', shown⟩ :=
      h.exists_look uniform visited fun none => nomatch look.symm.trans none
    cases found with
    | leaf value => exact ⟨value, shown⟩
    | branch => exact absurd look (uniform visit visited' layer visited path value look')

/-- What a least layer shows is shown. -/
theorem Met.look_of_least (h : Met visits merged) (alike : Alike visits)
    (visited : layer ∈ visits) (least : ∀ other ∈ visits, layer.id ≤ other.id)
    (shows : layer.look path = some found) : merged.look path = some found := by
  obtain ⟨visit, visited', same⟩ := h.id_mem
  have id : layer.id = merged.id :=
    ResourceId.le_antisymm (same ▸ least visit visited') (h.id_least visited)
  have present : layer.look path ≠ none := fun none => nomatch shows.symm.trans none
  obtain ⟨found', shown⟩ :=
    Option.ne_none_iff_exists'.mp (h.least_shown layer visited id path present)
  obtain ⟨first, visited'', look, leads⟩ := h.shown path found' shown
  have le := leads layer visited present
  rw [shown, ← look, ← shows]
  exact alike first visited'' layer visited (ResourceId.le_antisymm le (least first visited'')) path

end Layer

namespace Policy

open MergerRegistry (joined mergeInPrecedence specifications)
open Table (gather)

variable {kind : MergeKind} {name : String} {first existing policy merged : Policy}
  {policies peers others rest : List Policy}

/-- No two policies disagree on whether a path of a section leads to an object. -/
def SameShape (name : String) (peers : List Policy) : Prop :=
  ∀ first ∈ peers, ∀ second ∈ peers, ∀ path value other,
    Document.at? (.object (first.sectionFields name)) path = some value →
      Document.at? (.object (second.sectionFields name)) path = some other →
        value.isObject = other.isObject

/-- A section in which, of the policies that have a leaf under a path, the first wins. -/
structure FirstWins (name : String) (peers : List Policy) (merged : Policy) : Prop where
  /-- Each leaf has the value of the first policy that has a leaf there. -/
  leaf : ∀ path value, Document.HasLeaf (.object (merged.sectionFields name)) path value →
    ∃ peer ∈ peers, Document.HasLeaf (.object (peer.sectionFields name)) path value ∧
      ∀ other ∈ peers, ∀ value', Document.HasLeaf (.object (other.sectionFields name)) path value' →
        peer.identity ≤ other.identity
  /-- What the first policy of all has is there. -/
  least : ∀ peer ∈ peers, (∀ other ∈ peers, peer.identity ≤ other.identity) → ∀ path value,
    Document.HasLeaf (.object (peer.sectionFields name)) path value →
      Document.HasLeaf (.object (merged.sectionFields name)) path value
  /-- If objects and leaves do not meet, what any policy has is there. -/
  union : SameShape name peers → ∀ path,
    (∃ value, Document.HasLeaf (.object (merged.sectionFields name)) path value) ↔
      ∃ peer ∈ peers, ∃ value, Document.HasLeaf (.object (peer.sectionFields name)) path value

theorem FirstWins.perm (h : FirstWins name peers merged) (perm : others.Perm peers) :
    FirstWins name others merged where
  leaf := by simpa only [perm.mem_iff] using h.leaf
  least := by simpa only [perm.mem_iff] using h.least
  union := by
    have union := h.union
    unfold SameShape at union ⊢
    simpa only [perm.mem_iff] using union

theorem uniform_of_sameShape (h : SameShape name peers) :
    Layer.Uniform (peers.map (layer name)) := by
  intro first visited second visited' path value branch leaf
  obtain ⟨peer, among, rfl⟩ := List.mem_map.mp visited
  obtain ⟨other, among', rfl⟩ := List.mem_map.mp visited'
  unfold layer Layer.look Document.look at branch leaf
  obtain ⟨found, leads, branch⟩ := Option.map_eq_some_iff.mp branch
  obtain ⟨found', leads', leaf⟩ := Option.map_eq_some_iff.mp leaf
  rw [h peer among other among' path found found' leads leads'] at branch
  split at branch
  · next isObject =>
    rw [if_pos isObject] at leaf
    cases leaf
  · cases branch

/-- Distinct policies are told apart by their identities. -/
theorem Distinct.alike (distinct : Distinct peers)
    (readable : ∀ peer ∈ peers, ∃ id, peer.id = .ok id) : Alike name peers := by
  intro first visited second visited' same path
  obtain ⟨peer, among, rfl⟩ := List.mem_map.mp visited
  obtain ⟨other, among', rfl⟩ := List.mem_map.mp visited'
  have apart : Std.Symm fun first second : Policy =>
      ∀ id, first.id = .ok id → second.id ≠ .ok id :=
    ⟨fun _ _ apart id found found' => apart id found' found⟩
  obtain ⟨id, found⟩ := readable peer among
  obtain ⟨id', found'⟩ := readable other among'
  have equal : id = id' := by
    rw [← identity_of_id found, ← identity_of_id found']
    exact same
  by_cases eq : peer = other
  · rw [eq]
  · exact absurd (equal ▸ found') (List.Pairwise.forall distinct among among' eq id found)

/-- In ascending order the policy that is there takes precedence over each that comes. -/
theorem gather_peers_of_least (hfirst : first.IsPeer kind) (hrest : ∀ peer ∈ rest, peer.IsPeer kind)
    (least : ∀ peer ∈ rest, first.identity ≤ peer.identity) :
    gather (joined fun existing policy =>
        (KindMerger.specification.merge .peers existing policy).result) (some first) rest =
      gather (joined (mergeInPrecedence .specification)) (some first) rest := by
  induction rest generalizing first with
  | nil => rfl
  | cons policy rest ih =>
      have hpolicy := hrest policy List.mem_cons_self
      obtain ⟨id, found⟩ := hfirst.shaped.exists_id
      obtain ⟨other, found'⟩ := hpolicy.shaped.exists_id
      have le : id ≤ other := by
        rw [← identity_of_id found, ← identity_of_id found']
        exact least policy List.mem_cons_self
      obtain ⟨merged, result, hmerged, layers⟩ := hfirst.merge_peers hpolicy
      have kept : merged.identity = first.identity := congrArg Layer.id (layers "default" (by simp))
      rw [Table.gather_cons, Table.gather_cons, joined, joined,
        MergerRegistry.mergeInPrecedence_of_id found found', if_pos le, result]
      exact ih hmerged (fun peer member => hrest peer (List.mem_cons_of_mem policy member))
        fun peer member => kept ▸ least peer (List.mem_cons_of_mem policy member)

/-- Peers that are merged in ascending order of their identities. -/
theorem exists_merged_peers (hpeers : ∀ peer ∈ first :: rest, peer.IsPeer kind)
    (distinct : Distinct (first :: rest))
    (ascending : (first :: rest).Pairwise fun first second => first.identity ≤ second.identity) :
    ∃ merged, gather (joined fun existing policy =>
        (KindMerger.specification.merge .peers existing policy).result) none (first :: rest) =
          .ok (some merged) ∧
      ∀ name ∈ ["default", "override"], FirstWins name (first :: rest) merged := by
  have hfirst := hpeers first List.mem_cons_self
  have hrest : ∀ peer ∈ rest, peer.IsPeer kind :=
    fun peer member => hpeers peer (List.mem_cons_of_mem first member)
  obtain ⟨merged, result, _, layers⟩ := exists_reconciled hfirst hrest
  refine ⟨merged, ?_, fun name member => ?_⟩
  · change gather _ (some first) rest = _
    rw [gather_peers_of_least hfirst hrest (List.pairwise_cons.mp ascending).1]
    exact result
  · have alike : Alike name (first :: rest) :=
      distinct.alike fun peer among => (hpeers peer among).shaped.exists_id
    have orderly : Orderly ((first :: rest).map identity) :=
      Layer.orderly_of_ascending (List.pairwise_map.mpr ascending)
    have precedence := layers_inPrecedence hpeers alike orderly result member
    have met : Layer.Met ((first :: rest).map (layer name)) (merged.layer name) := by
      rw [layers name member]
      rw [← ids_layers (first :: rest) name] at orderly
      exact Layer.met_foldl (Layer.met_singleton _) orderly alike
    refine ⟨(inPrecedence_of_orderly hpeers alike orderly result member).first_wins, ?_,
      fun uniform path => ?_⟩
    · intro peer among least path value leaf
      refine hasLeaf_iff_look.mpr (met.look_of_least alike (List.mem_map_of_mem among) ?_
        (hasLeaf_iff_look.mp leaf))
      intro other visited
      obtain ⟨other, among', rfl⟩ := List.mem_map.mp visited
      exact least other among'
    · simp only [hasLeaf_iff_look]
      rw [precedence.leaf_iff (uniform_of_sameShape uniform)]
      simp only [List.mem_map, exists_exists_and_eq_and]

/-- A merge of two policies finds what it reads of them: the specifications of both and, if both are
inherited, their sections. Policies of different kinds are never merged. -/
def ReadableTogether (first second : Policy) : Prop :=
  first.kind = second.kind → first.Specified ∧ second.Specified ∧ first.LegibleTogether second

theorem ReadableTogether.symm {second : Policy} (h : first.ReadableTogether second) :
    second.ReadableTogether first := by
  intro kinds
  obtain ⟨specified, specified', legible⟩ := h kinds.symm
  exact ⟨specified', specified, legible.symm⟩

end Policy

namespace MergerRegistry

open Policy (ofKind FirstWins ReadableTogether StandsFor)
open Table (gather)

variable {kind : MergeKind} {policies : List Policy} {error : MergeError}

/-- Inherited policies of one kind are merged without an error, and the first wins. -/
theorem exists_peers (hpeers : ∀ policy ∈ ofKind kind policies, policy.IsPeer kind)
    (distinct : Policy.Distinct policies) :
    ∃ found, specifications.peers kind policies = .ok found ∧ ∀ merged, found = some merged →
      ∀ name ∈ ["default", "override"], FirstWins name (ofKind kind policies) merged := by
  obtain ⟨ordered, perm, ascending, gathers⟩ := exists_ascending_peers
    fun policy member => (hpeers policy member).shaped.exists_id
  rw [gathers]
  have among : Policy.Distinct (ofKind kind policies) :=
    List.Pairwise.sublist List.filter_sublist distinct
  cases ordered with
  | nil => exact ⟨none, rfl, fun _ impossible => nomatch impossible⟩
  | cons first rest =>
      obtain ⟨merged, result, wins⟩ := Policy.exists_merged_peers
        (fun policy member => hpeers policy (perm.mem_iff.mp member)) (among.perm perm) ascending
      refine ⟨some merged, result, fun other same name member => ?_⟩
      cases same
      exact (wins name member).perm perm.symm

theorem peers_ofKind (kind : MergeKind) (policies : List Policy) :
    specifications.peers kind (ofKind kind policies) = specifications.peers kind policies := by
  have again : ofKind kind (ofKind kind policies) = ofKind kind policies := by
    simp [ofKind, List.filter_filter]
  unfold peers
  rw [again]

/-- Policies of one kind that can be read together are merged, or there is a conflict. -/
theorem isConflict_of_peers (readable : ∀ policy ∈ policies, ∃ id, policy.id = .ok id)
    (together : policies.Pairwise ReadableTogether)
    (failed : specifications.peers kind policies = .error error) : error.IsConflict := by
  obtain ⟨ordered, perm, _, gathers⟩ := @exists_ascending_peers kind policies
    fun policy member => readable policy (Policy.mem_ofKind.mp member).1
  rw [gathers] at failed
  have kinds : ∀ policy ∈ ordered, policy.kind = .ok kind :=
    fun policy member => (Policy.mem_ofKind.mp (perm.mem_iff.mp member)).2
  have pairs : ordered.Pairwise fun first second =>
      first.Specified ∧ second.Specified ∧ first.LegibleTogether second := by
    have among := (perm.pairwise_iff ReadableTogether.symm).mpr
      (List.Pairwise.sublist List.filter_sublist together)
    exact among.imp_of_mem fun {first second} member member' h =>
      h ((kinds first member).trans (kinds second member').symm)
  -- A single policy is not merged with anything, and need not even have a specification.
  obtain _ | ⟨first, _ | ⟨second, rest⟩⟩ := ordered
  · cases failed
  · cases failed
  · obtain ⟨withFirst, _⟩ := List.pairwise_cons.mp pairs
    have specified : ∀ policy ∈ first :: second :: rest, policy.Specified := by
      intro policy member
      rcases List.mem_cons.mp member with rfl | member
      · exact (withFirst second List.mem_cons_self).1
      · exact (withFirst policy member).2.1
    have decided := decides_gather (reconciles_merge .peers) specified
      (show StandsFor [] none from rfl) .nil (pairs.imp fun h => h.2.2)
    rw [failed] at decided
    exact decided.1

/-- What comes of the policies of one level. -/
structure LevelMerged (policies : List Policy) : Prop where
  /-- In whatever order they are given, they come to the same table, or to the same error. -/
  perm : ∀ others, others.Perm policies →
    specifications.mergeLevel others = specifications.mergeLevel policies
  /-- The error is a conflict if any two policies can be read together. -/
  conflict : policies.Pairwise ReadableTogether → ∀ error,
    (specifications.mergeLevel policies).result = .error error → error.IsConflict
  /-- The table has a policy of each kind that is there. -/
  kinds : ∀ table, (specifications.mergeLevel policies).result = .ok table →
    ∀ kind, kind ∈ table.keys ↔ ∃ policy ∈ policies, policy.kind = .ok kind
  /-- Inherited policies of a kind are merged without an error, by themselves as among all policies,
  and of these the first wins. -/
  inherited : ∀ kind, (∀ policy ∈ policies, policy.kind = .ok kind →
      policy.Shaped ∧ policy.inherited = true) →
    ∃ table, (specifications.mergeLevel (ofKind kind policies)).result = .ok table ∧
      (∀ whole, (specifications.mergeLevel policies).result = .ok whole →
        whole.get? kind = table.get? kind) ∧
      ∀ merged, table.get? kind = some merged → ∀ name ∈ ["default", "override"],
        FirstWins name (ofKind kind policies) merged

theorem mem_keys_mergeLevel_iff {table : PoliciesByKind}
    (readable : ∀ policy ∈ policies, ∃ id, policy.id = .ok id)
    (distinct : Policy.Distinct policies)
    (result : (specifications.mergeLevel policies).result = .ok table) (kind : MergeKind) :
    kind ∈ table.keys ↔ ∃ policy ∈ policies, policy.kind = .ok kind := by
  have entry := (tabulates_mergeLevel readable distinct).ok result kind
  rw [← Table.contains_iff, Table.contains_eq_isSome, isSome_of_peers readable entry]

/-- Inherited policies of one kind are merged by themselves, to what they come to among others. -/
theorem exists_mergeLevel_ofKind (readable : ∀ policy ∈ policies, ∃ id, policy.id = .ok id)
    (distinct : Policy.Distinct policies)
    (hpeers : ∀ policy ∈ ofKind kind policies, policy.IsPeer kind) :
    ∃ table, (specifications.mergeLevel (ofKind kind policies)).result = .ok table ∧
      (∀ whole, (specifications.mergeLevel policies).result = .ok whole →
        whole.get? kind = table.get? kind) ∧
      ∀ merged, table.get? kind = some merged → ∀ name ∈ ["default", "override"],
        FirstWins name (ofKind kind policies) merged := by
  have readable' : ∀ policy ∈ ofKind kind policies, ∃ id, policy.id = .ok id :=
    fun policy member => readable policy (Policy.mem_ofKind.mp member).1
  have distinct' : Policy.Distinct (ofKind kind policies) :=
    List.Pairwise.sublist List.filter_sublist distinct
  have tabulates := @tabulates_mergeLevel specifications _ readable' distinct'
  cases result : (specifications.mergeLevel (ofKind kind policies)).result with
  | error error =>
      obtain ⟨other, failed⟩ := tabulates.error result
      have hothers : ∀ policy ∈ ofKind other (ofKind kind policies), policy.IsPeer other := by
        intro policy member
        obtain ⟨member, ofOther⟩ := Policy.mem_ofKind.mp member
        obtain ⟨shaped, _, inherits⟩ := hpeers policy member
        exact ⟨shaped, ofOther, inherits⟩
      obtain ⟨found, came, _⟩ := exists_peers hothers distinct'
      exact nomatch came.symm.trans failed
  | ok table =>
      have entry := tabulates.ok result kind
      rw [peers_ofKind] at entry
      refine ⟨table, rfl, fun whole result => ?_, fun merged found => ?_⟩
      · have entry' := (tabulates_mergeLevel readable distinct).ok result kind
        exact Except.ok.inj (entry'.symm.trans entry)
      · obtain ⟨found', came, wins⟩ := exists_peers hpeers distinct
        exact wins merged ((Except.ok.inj (came.symm.trans entry)).trans found)

/-- The policies of a level are merged as in order of precedence, whatever order they are given
in. -/
theorem mergeLevel_first_wins (readable : ∀ policy ∈ policies, ∃ id, policy.id = .ok id)
    (distinct : Policy.Distinct policies) : LevelMerged policies where
  perm others := mergeLevel_perm readable distinct
  conflict together error failed := by
    obtain ⟨kind, failed⟩ := (tabulates_mergeLevel readable distinct).error failed
    exact isConflict_of_peers readable together failed
  kinds table result := mem_keys_mergeLevel_iff readable distinct result
  inherited kind inherited := by
    refine exists_mergeLevel_ofKind readable distinct fun policy member => ?_
    obtain ⟨member, ofThis⟩ := Policy.mem_ofKind.mp member
    obtain ⟨shaped, inherits⟩ := inherited policy member ofThis
    exact ⟨shaped, ofThis, inherits⟩

def timeout (name : String) (defaults : Document) : Policy :=
  .manifest {
    manifest := .object [("apiVersion", .string "example.com/v1"), ("kind", .string "Timeout"),
      ("metadata", .object [("name", .string name), ("namespace", .string "n")]),
      ("spec", .object [("default", defaults)])]
    inherited := true }

/-- A level on which an object meets a leaf of a policy that comes before it, and the last policy
sets something that none of the others does. -/
def timeouts : List Policy :=
  [timeout "c" (.object [("idle", .int 3)]),
    timeout "b" (.object [("limit", .object [("hard", .int 2)])]),
    timeout "a" (.object [("limit", .int 1)])]

theorem mergeLevel_first_wins_timeouts :
    (∀ policy ∈ timeouts, policy.Shaped ∧ policy.inherited = true) ∧ LevelMerged timeouts := by
  have sections : ∀ policy ∈ timeouts, ∀ name ∈ ["default", "override"],
      (policy.specFields.sectionFields? name).isSome = true := by decide
  have shaped : ∀ policy ∈ timeouts, policy.Shaped ∧ policy.inherited = true := by
    intro policy member
    have inSections := fun name among => Option.isSome_iff_exists.mp
      (sections policy member name among)
    simp only [timeouts, List.mem_cons, List.not_mem_nil, or_false] at member
    rcases member with rfl | rfl | rfl
    all_goals exact ⟨⟨⟨_, rfl⟩, rfl, fun _ => inSections⟩, rfl⟩
  have readable : ∀ policy ∈ timeouts, ∃ id, policy.id = .ok id :=
    fun policy member => (shaped policy member).1.exists_id
  have ids : timeouts.map Policy.id = (["c", "b", "a"].map
      (ResourceId.policy "example.com" "Timeout" "n")).map .ok := rfl
  exact ⟨shaped, mergeLevel_first_wins readable (Policy.distinct_of_ids ids (by decide))⟩

/-- Two inherited policies of one kind; the defaults of the first are no object. -/
def spoiledTimeouts : List Policy :=
  [timeout "a" (.int 5), timeout "b" (.object [("idle", .int 3)])]

/-- Where two policies cannot be read together, the error is no conflict, in either order. -/
theorem spoiledTimeouts_fault :
    (∀ policy ∈ spoiledTimeouts, policy.IsManifest ∧ ∃ id, policy.id = .ok id) ∧
      Policy.Distinct spoiledTimeouts ∧ ∀ others, others.Perm spoiledTimeouts →
        (specifications.mergeLevel others).result = .error (.fault (.malformed .notAnObject)) := by
  have ids : spoiledTimeouts.map Policy.id = (["a", "b"].map
      (ResourceId.policy "example.com" "Timeout" "n")).map .ok := rfl
  have distinct : Policy.Distinct spoiledTimeouts := Policy.distinct_of_ids ids (by decide)
  have manifest : ∀ policy ∈ spoiledTimeouts, policy.IsManifest ∧ ∃ id, policy.id = .ok id := by
    intro policy member
    simp only [spoiledTimeouts, List.mem_cons, List.not_mem_nil, or_false] at member
    rcases member with rfl | rfl
    all_goals exact ⟨⟨_, rfl⟩, _, rfl⟩
  refine ⟨manifest, distinct, fun others perm => ?_⟩
  have order : Policy.byPrecedence (fun policy => policy) spoiledTimeouts =
      .ok ((["a", "b"].map (ResourceId.policy "example.com" "Timeout" "n")).zip spoiledTimeouts) :=
    congrArg Except.ok (List.mergeSort_of_pairwise (by decide))
  rw [mergeLevel_perm (fun policy member => (manifest policy member).2) distinct perm,
    result_mergeLevel_of_order order]
  rfl

end MergerRegistry

end PolicyTopology
