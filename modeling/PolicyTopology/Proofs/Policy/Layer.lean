import PolicyTopology.Proofs.Document.Layering
import PolicyTopology.Proofs.Precedence

/-!
# Peers reconciled one after the other

Peers of one merge kind are reconciled in the order in which they are met: the first of two in order
of precedence is laid over the other, and the result goes on under its identity. The outcome is that
of merging all of them in order of precedence if the order in which they are met is not too far from
it. What has been merged stays together, though, and goes on under its best identity, so a policy
that comes late is laid under all of it or over all of it.
-/

namespace PolicyTopology

/-- An order of identities in which reconciling one after the other is as good as merging in order
of precedence. An identity that was not met before precedes all that were, or all of them precede
it; and when one comes that precedes all that were met, each of these but the least is met again
before any identity that it precedes. -/
structure Orderly (ids : List ResourceId) : Prop where
  extreme : ∀ before id after, ids = before ++ id :: after →
    id ∈ before ∨ (∀ other ∈ before, id.Precedes other) ∨ ∀ other ∈ before, other.Precedes id
  revisited : ∀ before least after, ids = before ++ least :: after →
    (∀ other ∈ before, least.Precedes other) → ∀ upper ∈ before, ∀ lower ∈ before,
    upper.Precedes lower → ∃ between rest, after = between ++ lower :: rest ∧
      ∀ other ∈ between, ¬ lower.Precedes other

/-- A section of a policy under the identity of the policy. -/
structure Layer where
  id : ResourceId
  fields : Fields

namespace Layer

open Document (Found)

/-- What is found under a path of a layer. -/
def look (layer : Layer) (path : List Scalar) : Option Found :=
  Document.look (.object layer.fields) path

/-- A layer misses a key of a path below an object. -/
def Misses (layer : Layer) (path : List Scalar) : Prop :=
  Document.Misses (.object layer.fields) path

def reconcile (first second : Layer) : Layer :=
  if first.id ≤ second.id then ⟨first.id, second.fields.overlay first.fields⟩
  else ⟨second.id, first.fields.overlay second.fields⟩

theorem reconcile_of_le {first second : Layer} (h : first.id ≤ second.id) :
    first.reconcile second = ⟨first.id, second.fields.overlay first.fields⟩ :=
  if_pos h

theorem reconcile_of_not_le {first second : Layer} (h : ¬ first.id ≤ second.id) :
    first.reconcile second = ⟨second.id, first.fields.overlay second.fields⟩ :=
  if_neg h

/-- An identity that is met, and precedes all that are. -/
def Foremost (ids : List ResourceId) (id : ResourceId) : Prop :=
  id ∈ ids ∧ ∀ other ∈ ids, id ≤ other

theorem foremost_singleton (id : ResourceId) : Foremost [id] id :=
  ⟨List.mem_singleton.mpr rfl, List.forall_mem_singleton.mpr (ResourceId.le_refl id)⟩

theorem Foremost.reconcile {ids : List ResourceId} {merged : Layer} (h : Foremost ids merged.id)
    (layer : Layer) :
    Foremost (ids ++ [layer.id]) (merged.reconcile layer).id := by
  by_cases under : merged.id ≤ layer.id
  · rw [reconcile_of_le under]
    refine ⟨List.mem_append_left _ h.1, ?_⟩
    exact List.forall_mem_append.mpr ⟨h.2, List.forall_mem_singleton.mpr under⟩
  · rw [reconcile_of_not_le under]
    have precedes := ResourceId.precedes_of_not_le under
    refine ⟨List.mem_append_right _ (List.mem_singleton.mpr rfl), ?_⟩
    exact List.forall_mem_append.mpr ⟨fun other member => ResourceId.le_trans precedes.1
      (h.2 other member), List.forall_mem_singleton.mpr (ResourceId.le_refl _)⟩

/-- Layers reconciled one after the other. -/
def reconcileAll (first : Layer) (rest : List Layer) : Layer := rest.foldl reconcile first

variable {merged layer first second : Layer} {visits rest : List Layer} {path : List Scalar}
  {found : Found}

theorem look_mk_overlay_of_misses {base top : Fields} {id : ResourceId}
    (h : Document.Misses (.object top) path) :
    look ⟨id, base.overlay top⟩ path = Document.look (.object base) path := by
  rw [look, ← Document.overlay_object]
  exact Document.look_overlay_of_misses h

theorem look_mk_overlay_of_not_misses {base top : Fields} {id : ResourceId}
    (h : ¬ Document.Misses (.object top) path) :
    look ⟨id, base.overlay top⟩ path = Document.look (.object top) path := by
  rw [look, ← Document.overlay_object]
  exact Document.look_overlay_of_not_misses h

theorem misses_of_mk_overlay {base top : Fields} {id : ResourceId}
    (h : Misses ⟨id, base.overlay top⟩ path) :
    Document.Misses (.object top) path ∧ Document.look (.object base) path = none := by
  rw [Misses, ← Document.overlay_object] at h
  obtain ⟨misses, absent⟩ := Document.misses_of_misses_overlay h
  exact ⟨misses, Document.look_eq_none_iff.mpr absent⟩

/-- Layers of one identity show the same. -/
def Alike (visits : List Layer) : Prop :=
  ∀ first ∈ visits, ∀ second ∈ visits, first.id = second.id →
    ∀ path, first.look path = second.look path

/-- What is shown under a path is what the first layer shows that shows anything there. -/
def ShownFirst (visits : List Layer) (merged : Layer) : Prop :=
  ∀ path found, merged.look path = some found → ∃ visit ∈ visits, visit.look path = some found ∧
    ∀ other ∈ visits, other.look path ≠ none → visit.id ≤ other.id

/-- How far layers have been reconciled after some visits. Something that was met may be missing,
but only if a least identity came after it: a leaf of a layer that precedes it had hidden it, and
the object of the new layer has hidden that leaf. -/
structure Met (visits : List Layer) (merged : Layer) : Prop where
  foremost : Foremost (visits.map id) merged.id
  shown : ShownFirst visits merged
  least_shown : ∀ visit ∈ visits, visit.id = merged.id → ∀ path, visit.look path ≠ none →
    merged.look path ≠ none
  lost : ∀ path, merged.Misses path → ∀ visit ∈ visits, visit.look path ≠ none →
    ∃ before least between, visits = before ++ least :: between ∧
      (∀ other ∈ before, least.id.Precedes other.id) ∧ visit ∈ before ∧
      (∀ other ∈ between, other.id ≠ visit.id) ∧ ∃ upper ∈ before, upper.id.Precedes visit.id

theorem met_singleton (layer : Layer) : Met [layer] layer where
  foremost := foremost_singleton layer.id
  shown path found shows := ⟨layer, List.mem_singleton.mpr rfl, shows,
    fun other member _ => List.mem_singleton.mp member ▸ ResourceId.le_refl _⟩
  least_shown visit member _ path present := List.mem_singleton.mp member ▸ present
  lost path misses visit member present := by
    rw [List.mem_singleton.mp member] at present
    exact absurd (Document.look_of_misses misses) present

theorem Met.id_mem (h : Met visits merged) : ∃ visit ∈ visits, visit.id = merged.id :=
  List.mem_map.mp h.foremost.1

theorem Met.id_least (h : Met visits merged) (member : layer ∈ visits) : merged.id ≤ layer.id :=
  h.foremost.2 layer.id (List.mem_map_of_mem member)

theorem Met.foremost_reconcile (h : Met visits merged) (layer : Layer) :
    Foremost ((visits ++ [layer]).map id) (merged.reconcile layer).id := by
  rw [List.map_append]
  exact h.foremost.reconcile layer

/-- What an orderly sequence of visits says about the next one. -/
structure Follows (visits : List Layer) (next : Layer) : Prop where
  extreme : (∃ visit ∈ visits, visit.id = next.id) ∨
    (∀ visit ∈ visits, next.id.Precedes visit.id) ∨ ∀ visit ∈ visits, visit.id.Precedes next.id
  revisited : ∀ before least between, visits = before ++ least :: between →
    (∀ other ∈ before, least.id.Precedes other.id) → ∀ upper ∈ before, ∀ lower ∈ before,
    upper.id.Precedes lower.id → (∀ other ∈ between, other.id ≠ lower.id) →
    ¬ lower.id.Precedes next.id

/-- Nothing that was lost comes before the next layer. -/
theorem Met.le_of_lost (h : Met visits merged) (follows : Follows visits layer)
    (misses : merged.Misses path) :
    ∀ other ∈ visits, other.look path ≠ none → layer.id ≤ other.id := by
  intro other visited present
  obtain ⟨before, least, between, split, precedes, lower, gone, upper, above, higher⟩ :=
    h.lost path misses other visited present
  have late := follows.revisited before least between split precedes upper above other lower higher
    gone
  exact ResourceId.le_of_not_precedes late

/-- A layer that does not precede what has been merged does not precede what that shows. -/
theorem Met.le_of_shown (h : Met visits merged) (alike : Alike (visits ++ [layer]))
    (follows : Follows visits layer) (under : merged.id ≤ layer.id) {visit : Layer}
    (visited : visit ∈ visits)
    (first : ∀ other ∈ visits, other.look path ≠ none → visit.id ≤ other.id)
    (present : layer.look path ≠ none) : visit.id ≤ layer.id := by
  rcases follows.extreme with ⟨again, visited', same⟩ | precedes | follows
  · rw [← same]
    refine first again visited' ?_
    rwa [alike again (by simp [visited']) layer (by simp) same]
  · obtain ⟨least, member, same⟩ := h.id_mem
    exact absurd under (same ▸ precedes least member).not_le
  · exact (follows visit visited).1

theorem Met.shown_under (h : Met visits merged) (alike : Alike (visits ++ [layer]))
    (follows : Follows visits layer) (under : merged.id ≤ layer.id) :
    ShownFirst (visits ++ [layer]) ⟨merged.id, layer.fields.overlay merged.fields⟩ := by
  intro path found shows
  by_cases misses : merged.Misses path
  · rw [look_mk_overlay_of_misses misses] at shows
    refine ⟨layer, by simp, shows, List.forall_mem_append.mpr ⟨h.le_of_lost follows misses, ?_⟩⟩
    exact List.forall_mem_singleton.mpr fun _ => ResourceId.le_refl _
  · rw [look_mk_overlay_of_not_misses misses] at shows
    obtain ⟨visit, visited, shows', first⟩ := h.shown path found shows
    refine ⟨visit, List.mem_append_left _ visited, shows',
      List.forall_mem_append.mpr ⟨first, List.forall_mem_singleton.mpr fun present => ?_⟩⟩
    exact h.le_of_shown alike follows under visited first present

/-- A layer that does not precede what has been merged is laid under it. -/
theorem Met.step_under (h : Met visits merged) (alike : Alike (visits ++ [layer]))
    (follows : Follows visits layer) (under : merged.id ≤ layer.id) :
    Met (visits ++ [layer]) ⟨merged.id, layer.fields.overlay merged.fields⟩ := by
  obtain ⟨least, member, same⟩ := h.id_mem
  refine ⟨reconcile_of_le under ▸ h.foremost_reconcile layer,
    h.shown_under alike follows under, ?_, ?_⟩
  · intro visit visited same' path present
    have shown : merged.look path ≠ none := by
      rcases List.mem_append.mp visited with visited | visited
      · exact h.least_shown visit visited same' path present
      · rw [List.mem_singleton.mp visited] at same' present
        refine h.least_shown least member same path ?_
        rwa [alike least (by simp [member]) layer (by simp) (same.trans same'.symm)]
    rwa [look_mk_overlay_of_not_misses fun misses => shown (Document.look_of_misses misses)]
  · intro path misses visit visited present
    obtain ⟨misses, absent⟩ := misses_of_mk_overlay misses
    rcases List.mem_append.mp visited with visited | visited
    · obtain ⟨before, least, between, split, precedes, lower, gone, upper⟩ :=
        h.lost path misses visit visited present
      refine ⟨before, least, between ++ [layer], by simp [split], precedes, lower, ?_, upper⟩
      intro other member'
      rcases List.mem_append.mp member' with member' | member'
      · exact gone other member'
      · rw [List.mem_singleton.mp member']
        intro same
        rw [← alike layer (by simp) visit (by simp [visited]) same] at present
        exact present absent
    · rw [List.mem_singleton.mp visited] at present
      exact absurd absent present

/-- A layer that precedes what has been merged is laid over it. -/
theorem Met.step_over (h : Met visits merged) (higher : ¬ merged.id ≤ layer.id) :
    Met (visits ++ [layer]) ⟨layer.id, merged.fields.overlay layer.fields⟩ := by
  obtain ⟨least, member, same⟩ := h.id_mem
  have precedes : ∀ visit ∈ visits, layer.id.Precedes visit.id := by
    intro visit visited
    exact (ResourceId.precedes_of_not_le higher).trans_le (h.id_least visited)
  refine ⟨reconcile_of_not_le higher ▸ h.foremost_reconcile layer, ?_, ?_, ?_⟩
  · intro path found shows
    by_cases misses : layer.Misses path
    · rw [look_mk_overlay_of_misses misses] at shows
      obtain ⟨visit, visited, shows', first⟩ := h.shown path found shows
      refine ⟨visit, List.mem_append_left _ visited, shows', fun other visited' present => ?_⟩
      rcases List.mem_append.mp visited' with visited' | visited'
      · exact first other visited' present
      · rw [List.mem_singleton.mp visited'] at present
        exact absurd (Document.look_of_misses misses) present
    · rw [look_mk_overlay_of_not_misses misses] at shows
      refine ⟨layer, by simp, shows, fun other visited _ => ?_⟩
      rcases List.mem_append.mp visited with visited | visited
      · exact (precedes other visited).1
      · exact List.mem_singleton.mp visited ▸ ResourceId.le_refl _
  · intro visit visited same' path present
    rcases List.mem_append.mp visited with visited | visited
    · exact absurd same'.symm (precedes visit visited).2
    · rw [List.mem_singleton.mp visited] at present
      rwa [look_mk_overlay_of_not_misses fun misses => present (Document.look_of_misses misses)]
  · intro path misses visit visited present
    obtain ⟨misses, absent⟩ := misses_of_mk_overlay misses
    rcases List.mem_append.mp visited with visited | visited
    · refine ⟨visits, layer, [], rfl, precedes, visited, by simp, least, member, ?_⟩
      rw [same]
      refine ⟨h.id_least visited, fun same' => ?_⟩
      exact h.least_shown visit visited same'.symm path present absent
    · rw [List.mem_singleton.mp visited] at present
      exact absurd (Document.look_of_misses misses) present

theorem Met.step (h : Met visits merged) (alike : Alike (visits ++ [layer]))
    (follows : Follows visits layer) : Met (visits ++ [layer]) (merged.reconcile layer) := by
  by_cases under : merged.id ≤ layer.id
  · rw [reconcile_of_le under]
    exact h.step_under alike follows under
  · rw [reconcile_of_not_le under]
    exact h.step_over under

theorem eq_or_mem_of_append {α : Type} {first second third fourth : List α} {x y : α}
    (h : first ++ x :: second = third ++ y :: fourth) (absent : y ∉ first) : x = y ∨ x ∈ third := by
  induction first generalizing third with
  | nil =>
      cases third with
      | nil => exact .inl (List.cons.inj h).1
      | cons head tail =>
          rw [(List.cons.inj h).1]
          exact .inr List.mem_cons_self
  | cons head tail ih =>
      cases third with
      | nil =>
          rw [(List.cons.inj h).1] at absent
          exact absurd List.mem_cons_self absent
      | cons head' tail' =>
          have absent' : y ∉ tail := fun member => absent (List.mem_cons_of_mem head member)
          exact (ih (List.cons.inj h).2 absent').imp_right fun member =>
            List.mem_cons_of_mem head' member

theorem follows_of_orderly (orderly : Orderly ((visits ++ layer :: rest).map id)) :
    Follows visits layer where
  extreme := by
    have extreme := orderly.extreme (visits.map id) layer.id (rest.map id) (by simp)
    simpa using extreme
  revisited := by
    rintro before least between rfl precedes upper above lower below higher gone late
    obtain ⟨between', rest', split, early⟩ := orderly.revisited (before.map id) least.id
      ((between ++ layer :: rest).map id) (by simp) (by simpa using precedes) upper.id
      (List.mem_map_of_mem above) lower.id (List.mem_map_of_mem below) higher
    rw [List.map_append, List.map_cons] at split
    rcases eq_or_mem_of_append split (by simpa using gone) with same | member
    · exact late.2 same.symm
    · exact early _ member late

theorem met_foldl (h : Met visits merged) (orderly : Orderly ((visits ++ rest).map id))
    (alike : Alike (visits ++ rest)) : Met (visits ++ rest) (rest.foldl reconcile merged) := by
  induction rest generalizing visits merged with
  | nil =>
      rw [List.append_nil]
      exact h
  | cons layer rest ih =>
      have follows := follows_of_orderly orderly
      rw [List.append_cons] at orderly alike ⊢
      refine ih (h.step (fun first visited second visited' => ?_) follows) orderly alike
      exact alike first (List.mem_append_left _ visited) second (List.mem_append_left _ visited')

/-- Layers merged as in order of precedence: what is shown is what the first layer shows that shows
anything there, and nothing is missing. -/
structure InPrecedence (visits : List Layer) (merged : Layer) : Prop where
  shown : ShownFirst visits merged
  complete : ∀ path, merged.Misses path → ∀ visit ∈ visits, visit.look path = none

/-- Layers that are met in an orderly sequence are merged as in order of precedence. -/
theorem inPrecedence_of_orderly (orderly : Orderly ((layer :: rest).map id))
    (alike : Alike (layer :: rest)) : InPrecedence (layer :: rest) (reconcileAll layer rest) := by
  have met : Met (layer :: rest) (reconcileAll layer rest) :=
    met_foldl (met_singleton layer) orderly alike
  refine ⟨met.shown, fun path misses visit visited => Classical.byContradiction fun present => ?_⟩
  obtain ⟨before, least, between, split, precedes, lower, gone, upper, above, higher⟩ :=
    met.lost path misses visit visited present
  obtain ⟨_, _, split', _⟩ := orderly.revisited (before.map id) least.id (between.map id)
    (by simp [split]) (by simpa using precedes) upper.id (List.mem_map_of_mem above) visit.id
    (List.mem_map_of_mem lower) higher
  have again : visit.id ∈ between.map id := by
    rw [split']
    exact List.mem_append_right _ List.mem_cons_self
  obtain ⟨other, member, same⟩ := List.mem_map.mp again
  exact gone other member same

/-- Ascending identities are orderly. -/
theorem orderly_of_ascending {ids : List ResourceId} (ascending : ids.Pairwise (· ≤ ·)) :
    Orderly ids where
  extreme := by
    rintro before id after rfl
    have below := (List.pairwise_append.mp ascending).2.2
    by_cases again : id ∈ before
    · exact .inl again
    · refine .inr (.inr fun other member => ⟨below other member id List.mem_cons_self, ?_⟩)
      exact fun same => again (same ▸ member)
  revisited := by
    rintro before least after rfl precedes upper above
    have below := (List.pairwise_append.mp ascending).2.2 upper above least List.mem_cons_self
    exact absurd below (precedes upper above).not_le

variable {visits' : List Layer} {merged' : Layer}

theorem InPrecedence.look_of_look (h : InPrecedence visits merged)
    (h' : InPrecedence visits' merged') (alike : Alike visits)
    (same : ∀ visit, visit ∈ visits ↔ visit ∈ visits')
    (shows : merged.look path = some found) (above : merged'.look path ≠ none) :
    merged'.look path = some found := by
  obtain ⟨found', shows'⟩ := Option.ne_none_iff_exists'.mp above
  obtain ⟨visit, visited, look, first⟩ := h.shown path found shows
  obtain ⟨visit', visited', look', first'⟩ := h'.shown path found' shows'
  have visited' := (same visit').mpr visited'
  have le := first visit' visited' (by simp [look'])
  have ge := first' visit ((same visit).mp visited) (by simp [look])
  rw [shows', ← look', ← look]
  exact (alike visit visited visit' visited' (ResourceId.le_antisymm le ge) path).symm

/-- Where nothing is shown that could be, nothing was met. -/
theorem InPrecedence.look_ne_none (h : InPrecedence visits merged)
    (h' : InPrecedence visits' merged') (same : ∀ visit, visit ∈ visits ↔ visit ∈ visits')
    {key : Scalar} (above : merged.look path = merged'.look path)
    (shows : merged.look (path ++ [key]) ≠ none) : merged'.look (path ++ [key]) ≠ none := by
  intro absent
  have branch := above.symm.trans (Document.look_of_append shows)
  obtain ⟨found, shows⟩ := Option.ne_none_iff_exists'.mp shows
  obtain ⟨visit, visited, look, _⟩ := h.shown _ found shows
  have missing := h'.complete _ (Document.misses_of_branch branch absent) visit
    ((same visit).mp visited)
  exact nomatch missing.symm.trans look

/-- What is merged as in order of precedence does not depend on the order of the visits. -/
theorem InPrecedence.look_eq (h : InPrecedence visits merged) (h' : InPrecedence visits' merged')
    (alike : Alike visits) (same : ∀ visit, visit ∈ visits ↔ visit ∈ visits')
    (path : List Scalar) : merged.look path = merged'.look path := by
  induction length : path.length generalizing path with
  | zero =>
      rw [List.length_eq_zero_iff.mp length]
      exact (Document.look_nil _).trans (Document.look_nil _).symm
  | succ n ih =>
      obtain ⟨first, key, rfl⟩ : ∃ first key, path = first ++ [key] := by
        rcases List.eq_nil_or_concat path with rfl | ⟨first, key, rfl⟩
        · cases length
        · exact ⟨first, key, List.concat_eq_append⟩
      have above := ih first (by simpa using length)
      cases shows : merged.look (first ++ [key]) with
      | some found =>
          refine (h.look_of_look h' alike same shows ?_).symm
          exact h.look_ne_none h' same above (by simp [shows])
      | none =>
          refine (Classical.byContradiction fun present => ?_ : merged'.look _ = none).symm
          exact h'.look_ne_none h (fun visit => (same visit).symm) above.symm present shows

/-- Below an object that is shown, what the first layer has there is shown. -/
theorem InPrecedence.look_of_first (h : InPrecedence visits merged) (alike : Alike visits)
    {key : Scalar} (branch : merged.look path = some .branch) (visited : layer ∈ visits)
    (shows : layer.look (path ++ [key]) = some found)
    (first : ∀ other ∈ visits, other.look (path ++ [key]) ≠ none → layer.id ≤ other.id) :
    merged.look (path ++ [key]) = some found := by
  cases shown : merged.look (path ++ [key]) with
  | none =>
      have missing := h.complete _ (Document.misses_of_branch branch shown) layer visited
      exact nomatch missing.symm.trans shows
  | some found' =>
      obtain ⟨other, visited', look, first'⟩ := h.shown _ found' shown
      have le := first' layer visited (by simp [shows])
      have ge := first other visited' (by simp [look])
      rw [← look, ← shows]
      exact alike other visited' layer visited (ResourceId.le_antisymm le ge) _

end Layer

end PolicyTopology
