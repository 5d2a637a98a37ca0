import PolicyTopology.Identity
import Mathlib.Data.List.Basic

/-!
# The text of an identity

The text of an identity is for people, and drops the parts that are empty. Still it tells an
identity from all others whose parts hold no slash, provided that where group, kind and namespace
are all in use only the group may be empty. The name of a kind of node holds no colon, so the kind
ends where the first colon stands, whatever comes after. The rest is cut at the slashes, and how
many segments there are says whether the one part that may be empty is.
-/

namespace PolicyTopology

theorem NodeKind.colon_notMem_name (kind : NodeKind) : ':' ∉ kind.name.toList := by
  cases kind <;> decide

namespace ResourceId

variable {id first second : ResourceId} {part other : String}

/-- The identity has no parts but those that its kind of node uses. -/
def Made (id : ResourceId) : Prop := ∃ parts, ofParts? id.nodeKind parts = some id

def segments (id : ResourceId) : List String :=
  [id.group, id.kind, id.nameSpace].filter (· ≠ "") ++ [id.name]

/-- An identity whose text is no other's: no part holds a slash, and kind and namespace are given
where the kind of object is a part of the identity. -/
structure Unambiguous (id : ResourceId) : Prop where
  made : id.Made
  slashless : ∀ part ∈ [id.group, id.kind, id.nameSpace, id.name], '/' ∉ part.toList
  qualified : id.nodeKind = .backend ∨ id.nodeKind = .policy → id.kind ≠ "" ∧ id.nameSpace ≠ ""

theorem toList_text (id : ResourceId) : id.text.toList =
    id.nodeKind.name.toList ++ ':' :: ':' :: ['/'].intercalate (id.segments.map String.toList) := by
  unfold text segments
  rw [String.toList_append, String.toList_append, String.toList_intercalate, List.append_assoc]
  rfl

/-- Only backends and policies have a group and a kind. -/
theorem Made.unused (made : id.Made) (kind : ¬ (id.nodeKind = .backend ∨ id.nodeKind = .policy)) :
    id.group = "" ∧ id.kind = "" := by
  obtain ⟨parts, made⟩ := made
  generalize id.nodeKind = nodeKind at made
  unfold ofParts? at made
  -- One case for each kind of node.
  split at made <;> cases made
  · exact ⟨rfl, rfl⟩
  · exact ⟨rfl, rfl⟩
  · exact ⟨rfl, rfl⟩
  · exact ⟨rfl, rfl⟩
  · exact absurd (.inl rfl) kind
  · exact ⟨rfl, rfl⟩
  · exact absurd (.inr rfl) kind

theorem Unambiguous.slash_notMem (h : id.Unambiguous) (member : part ∈ id.segments) :
    '/' ∉ part.toList := by
  refine h.slashless part ?_
  rcases List.mem_append.mp member with before | last
  · exact List.mem_append_left [id.name] (List.mem_filter.mp before).1
  · exact List.mem_append_right [id.group, id.kind, id.nameSpace] last

/-- The text of an identity is cut at its slashes. -/
theorem Unambiguous.splitOn_segments (h : id.Unambiguous) :
    (['/'].intercalate (id.segments.map String.toList)).splitOn '/' =
      id.segments.map String.toList := by
  refine List.splitOn_intercalate '/' (List.forall_mem_map.mpr fun part => h.slash_notMem) ?_
  simp [segments]

/-- A part that is shown unless it is empty is told by what is shown. -/
theorem eq_of_filter_singleton (h : [part].filter (· ≠ "") = [other].filter (· ≠ "")) :
    part = other := by
  by_cases empty : part = "" <;> by_cases empty' : other = "" <;> simp_all

/-- Where a kind of object is a part of an identity, only the group may be left out. -/
theorem Unambiguous.filter_parts (h : id.Unambiguous)
    (used : id.nodeKind = .backend ∨ id.nodeKind = .policy) :
    [id.group, id.kind, id.nameSpace].filter (· ≠ "") =
      [id.group].filter (· ≠ "") ++ [id.kind, id.nameSpace] := by
  obtain ⟨kind, nameSpace⟩ := h.qualified used
  refine (List.filter_append [id.group] [id.kind, id.nameSpace]).trans (congrArg _ ?_)
  simp [kind, nameSpace]

/-- Of the parts that identities of one kind of node show, one at most may be empty, so they are
told by what they show. -/
theorem eq_of_segments (h : first.Unambiguous) (h' : second.Unambiguous)
    (nodeKind : first.nodeKind = second.nodeKind) (same : first.segments = second.segments) :
    first = second := by
  obtain ⟨before, name⟩ := List.append_singleton_inj.mp same
  have parts : first.group = second.group ∧ first.kind = second.kind ∧
      first.nameSpace = second.nameSpace := by
    by_cases used : first.nodeKind = .backend ∨ first.nodeKind = .policy
    · rw [h.filter_parts used, h'.filter_parts (nodeKind ▸ used)] at before
      obtain ⟨group, rest⟩ := List.append_inj' before rfl
      obtain ⟨kind, rest⟩ := List.cons.inj rest
      exact ⟨eq_of_filter_singleton group, kind, List.singleton_inj.mp rest⟩
    · obtain ⟨group, kind⟩ := h.made.unused used
      obtain ⟨group', kind'⟩ := h'.made.unused (nodeKind ▸ used)
      rw [group, kind, group', kind'] at before
      exact ⟨group.trans group'.symm, kind.trans kind'.symm, eq_of_filter_singleton before⟩
  refine parts_injective ?_
  rw [ResourceId.parts, ResourceId.parts, nodeKind, parts.1, parts.2.1, parts.2.2, name]

/-- The kind of node ends where the first colon stands. -/
theorem takeWhile_text (id : ResourceId) :
    id.text.toList.takeWhile (· ≠ ':') = id.nodeKind.name.toList := by
  rw [toList_text, List.takeWhile_append_of_pos]
  · simp
  · intro character member
    simp only [ne_eq, decide_not, Bool.not_eq_true', decide_eq_false_iff_not]
    rintro rfl
    exact id.nodeKind.colon_notMem_name member

/-- Identities are told by their texts. -/
theorem eq_of_text (h : first.Unambiguous) (h' : second.Unambiguous)
    (same : first.text = second.text) : first = second := by
  have names : first.nodeKind.name = second.nodeKind.name := by
    rw [← String.toList_inj, ← takeWhile_text, same, takeWhile_text]
  have rest : ['/'].intercalate (first.segments.map String.toList) =
      ['/'].intercalate (second.segments.map String.toList) := by
    have chars := congrArg String.toList same
    rw [toList_text, toList_text, names] at chars
    simpa using chars
  have segments : first.segments.map String.toList = second.segments.map String.toList := by
    rw [← h.splitOn_segments, ← h'.splitOn_segments, rest]
  refine eq_of_segments h h' (NodeKind.name_injective names) ?_
  exact (List.map_inj_right fun _ _ => String.toList_inj.mp).mp segments

theorem text_eq_text_iff (h : first.Unambiguous) (h' : second.Unambiguous) :
    first.text = second.text ↔ first = second :=
  ⟨eq_of_text h h', congrArg text⟩

-- Policies of the whole cluster are not told from one another by their texts.
example : (policy "" "Quota" "" "p").text = (policy "Quota" "" "" "p").text := by
  decide

end ResourceId

end PolicyTopology
