import PolicyTopology.Proofs.Policy.Layer

/-!
# Orders in which reconciling goes wrong

Reconciling one after the other is as good as merging in order of precedence for the orderly
sequences of identities and for no others: to every other sequence there are contents by which a
leaf is overtaken or gets lost. A leaf is overtaken if its layer comes between two of the layers
before it, since what has been merged goes on under the better of the two. A leaf gets lost if
another leaf hides it and the object of a better layer then hides this other leaf.
-/

namespace PolicyTopology

namespace Layer

open Document (Found)

def ofContents (contents : ResourceId → Fields) (id : ResourceId) : Layer := ⟨id, contents id⟩

/-- Go on with layers of given contents. -/
def meet (contents : ResourceId → Fields) (merged : Layer) (ids : List ResourceId) : Layer :=
  (ids.map (ofContents contents)).foldl reconcile merged

variable {contents : ResourceId → Fields} {ids visited before after : List ResourceId}
  {id first next : ResourceId} {merged layer : Layer} {path : List Scalar} {key : Scalar}

theorem alike_ofContents (contents : ResourceId → Fields) (ids : List ResourceId) :
    Alike (ids.map (ofContents contents)) := by
  intro first member second member' same path
  obtain ⟨id, _, rfl⟩ := List.mem_map.mp member
  obtain ⟨other, _, rfl⟩ := List.mem_map.mp member'
  exact congrArg (fun id => (ofContents contents id).look path) same

theorem meet_append (merged : Layer) (ids others : List ResourceId) :
    meet contents merged (ids ++ others) = meet contents (meet contents merged ids) others := by
  simp only [meet, List.map_append, List.foldl_append]

/-- What each step preserves holds in the end. -/
theorem meet_induction (property : List ResourceId → Layer → Prop) (start : property [] merged)
    (step : ∀ visited next later merged, ids = visited ++ next :: later → property visited merged →
      property (visited ++ [next]) (merged.reconcile (ofContents contents next))) :
    property ids (meet contents merged ids) := by
  suffices ∀ visited later merged, ids = visited ++ later → property visited merged →
      property ids (meet contents merged later) from this [] ids merged rfl start
  intro visited later
  induction later generalizing visited with
  | nil =>
      rintro merged same holds
      rw [List.append_nil] at same
      exact same ▸ holds
  | cons next later ih =>
      intro merged same holds
      refine ih (visited ++ [next]) (merged.reconcile (ofContents contents next)) ?_
        (step visited next later merged same holds)
      rw [same, List.append_assoc, List.singleton_append]

theorem look_nil (layer : Layer) : layer.look [] = some .branch := Document.look_nil _

/-- Below an object, the upper layer decides wherever it shows anything. -/
theorem look_overlay_below {base top : Fields}
    (branch : Document.look (.object top) path = some .branch) :
    look ⟨id, base.overlay top⟩ (path ++ [key]) =
      (Document.look (.object top) (path ++ [key])).or
        (Document.look (.object base) (path ++ [key])) := by
  cases shows : Document.look (.object top) (path ++ [key]) with
  | none => exact look_mk_overlay_of_misses (Document.misses_of_branch branch shows)
  | some found =>
      rw [look_mk_overlay_of_not_misses, shows]
      · rfl
      · exact fun misses => nomatch (Document.look_of_misses misses).symm.trans shows

theorem look_reconcile_below (under : merged.id ≤ layer.id)
    (branch : merged.look path = some .branch) : (merged.reconcile layer).look (path ++ [key]) =
      (merged.look (path ++ [key])).or (layer.look (path ++ [key])) := by
  rw [reconcile_of_le under]
  exact look_overlay_below branch

theorem look_reconcile_key (merged layer : Layer) (key : Scalar) :
    (merged.reconcile layer).look [key] =
      if merged.id ≤ layer.id then (merged.look [key]).or (layer.look [key])
      else (layer.look [key]).or (merged.look [key]) := by
  by_cases under : merged.id ≤ layer.id
  · rw [if_pos under]
    exact look_reconcile_below under (look_nil merged)
  · rw [if_neg under, reconcile_of_not_le under]
    exact look_overlay_below (look_nil layer)

/-- A layer without contents changes nothing that is shown. -/
theorem look_reconcile_of_empty (merged : Layer) (empty : layer.fields = []) (path : List Scalar) :
    (merged.reconcile layer).look path = merged.look path := by
  cases path with
  | nil => rw [look_nil, look_nil]
  | cons key rest =>
      have misses : Document.Misses (.object layer.fields) (key :: rest) := by
        rw [empty, Document.misses_object_cons]
        exact fun value found => nomatch found
      by_cases under : merged.id ≤ layer.id
      · rw [reconcile_of_le under, look, ← Document.overlay_object]
        exact Document.look_overlay_of_hidden fun _ => Document.look_of_misses misses
      · rw [reconcile_of_not_le under]
        exact look_mk_overlay_of_misses misses

/-- The merge of layers in ascending order shows what the first of them shows below an object. -/
theorem look_ascending {rest : List ResourceId} (ascending : (first :: rest).Pairwise (· ≤ ·))
    (branch : (meet contents (ofContents contents first) rest).look path = some .branch)
    (member : id ∈ first :: rest) {found : Found}
    (shows : (ofContents contents id).look (path ++ [key]) = some found)
    (least : ∀ other, (ofContents contents other).look (path ++ [key]) ≠ none → id ≤ other) :
    (meet contents (ofContents contents first) rest).look (path ++ [key]) = some found := by
  have ids : ((first :: rest).map (ofContents contents)).map Layer.id = first :: rest := by
    simp [ofContents, Function.comp_def]
  have merged : InPrecedence ((first :: rest).map (ofContents contents))
      (meet contents (ofContents contents first) rest) :=
    inPrecedence_of_orderly (ids.symm ▸ orderly_of_ascending ascending)
      (alike_ofContents contents (first :: rest))
  refine merged.look_of_first (alike_ofContents _ _) branch (List.mem_map_of_mem member) shows ?_
  intro layer member present
  obtain ⟨other, _, rfl⟩ := List.mem_map.mp member
  exact least other present

/-- With the given contents a leaf is lost: merging in order of precedence shows it, and reconciling
one after the other does not. -/
def Loses (contents : ResourceId → Fields) (first : ResourceId) (rest : List ResourceId) : Prop :=
  ∃ path value, (∀ least others, (least :: others).Perm (first :: rest) →
      (least :: others).Pairwise (· ≤ ·) →
      (meet contents (ofContents contents least) others).look path = some (.leaf value)) ∧
    (meet contents (ofContents contents first) rest).look path ≠ some (.leaf value)

section Overtaken

variable {late : ResourceId}

/-- Contents by which a late layer is overtaken by all that it precedes. -/
def overtaking (late id : ResourceId) : Fields :=
  if id = late then [("p", .int 1)]
  else if late.Precedes id then [("p", .int 2)]
  else []

theorem look_overtaking (late id : ResourceId) :
    (ofContents (overtaking late) id).look ["p"] =
      if id = late then some (.leaf (.int 1))
      else if late.Precedes id then some (.leaf (.int 2))
      else none := by
  unfold look ofContents overtaking
  dsimp only
  split
  · rfl
  · split <;> rfl

/-- What precedes the late layer has no contents. -/
theorem overtaking_of_precedes {id : ResourceId} (precedes : id.Precedes late) :
    overtaking late id = [] := by
  rw [overtaking, if_neg precedes.2, if_neg fun after => precedes.not_le after.1]

/-- Before the late layer comes, a layer that it precedes shows its leaf. -/
structure Leading (late : ResourceId) (visited : List ResourceId) (merged : Layer) : Prop where
  foremost : Foremost visited merged.id
  shown : (∃ id ∈ visited, late.Precedes id) → merged.look ["p"] = some (.leaf (.int 2))
  absent : (∀ id ∈ visited, ¬ late.Precedes id) → merged.look ["p"] = none

theorem leading_singleton (other : first ≠ late) :
    Leading late [first] (ofContents (overtaking late) first) where
  foremost := foremost_singleton first
  shown := by
    rintro ⟨id, member, precedes⟩
    rw [List.mem_singleton.mp member] at precedes
    rw [look_overtaking, if_neg other, if_pos precedes]
  absent none := by
    rw [look_overtaking, if_neg other, if_neg (none first (List.mem_singleton.mpr rfl))]

theorem Leading.step (h : Leading late visited merged) (other : next ≠ late) :
    Leading late (visited ++ [next]) (merged.reconcile (ofContents (overtaking late) next)) where
  foremost := h.foremost.reconcile _
  shown := by
    rintro ⟨id, member, precedes⟩
    have present : merged.look ["p"] = some (.leaf (.int 2)) ∨ merged.look ["p"] = none := by
      by_cases shown : ∃ id ∈ visited, late.Precedes id
      · exact .inl (h.shown shown)
      · exact .inr (h.absent fun id member precedes => shown ⟨id, member, precedes⟩)
    rw [look_reconcile_key, look_overtaking, if_neg other]
    rcases List.mem_append.mp member with member | member
    · rw [h.shown ⟨id, member, precedes⟩]
      split <;> split <;> rfl
    · rw [List.mem_singleton.mp member] at precedes
      rw [if_pos precedes]
      rcases present with present | present
      · rw [present]
        split <;> rfl
      · rw [present]
        split <;> rfl
  absent none := by
    rw [look_reconcile_key, look_overtaking, if_neg other, if_neg (none next (by simp)),
      h.absent fun id member => none id (List.mem_append_left _ member)]
    split <;> rfl

/-- A layer that comes late leaves what it is laid under. -/
structure Overtaking (late : ResourceId) (merged : Layer) : Prop where
  precedes : merged.id.Precedes late
  shown : merged.look ["p"] = some (.leaf (.int 2))

theorem Overtaking.step (h : Overtaking late merged) (next : ResourceId) :
    Overtaking late (merged.reconcile (ofContents (overtaking late) next)) := by
  by_cases under : merged.id ≤ (ofContents (overtaking late) next).id
  · refine ⟨?_, ?_⟩
    · rw [reconcile_of_le under]
      exact h.precedes
    · rw [look_reconcile_key, if_pos under, h.shown]
      rfl
  · have precedes : next.Precedes late := (ResourceId.precedes_of_not_le under).trans h.precedes
    refine ⟨?_, ?_⟩
    · rw [reconcile_of_not_le under]
      exact precedes
    · rw [look_reconcile_of_empty _ (overtaking_of_precedes precedes)]
      exact h.shown

/-- A layer between two of those before it is overtaken. -/
theorem loses_of_between {rest : List ResourceId} (split : first :: rest = before ++ late :: after)
    (new : late ∉ before) {upper lower : ResourceId} (above : upper ∈ before)
    (higher : upper.Precedes late) (below : lower ∈ before) (under : late.Precedes lower) :
    Loses (overtaking late) first rest := by
  refine ⟨["p"], .int 1, fun least others perm ascending => ?_, ?_⟩
  · have member : late ∈ least :: others := perm.mem_iff.mpr (by simp [split])
    refine look_ascending ascending (look_nil _) member ?_ fun other present => ?_
    · rw [List.nil_append, look_overtaking, if_pos rfl]
    · rw [List.nil_append, look_overtaking] at present
      by_cases same : other = late
      · exact same ▸ ResourceId.le_refl _
      · rw [if_neg same] at present
        by_cases precedes : late.Precedes other
        · exact precedes.1
        · exact absurd (if_neg precedes) present
  · cases before with
    | nil => cases above
    | cons head before =>
        rw [List.cons_append] at split
        obtain ⟨rfl, rfl⟩ := List.cons.inj split
        have leading : Leading late (first :: before)
            (meet (overtaking late) (ofContents (overtaking late) first) before) := by
          refine meet_induction (fun visited => Leading late (first :: visited))
            (leading_singleton fun same => new (by simp [same])) ?_
          intro visited next later merged same leads
          exact leads.step fun same' => new (by simp [same, same'])
        rw [meet_append]
        generalize meet (overtaking late) (ofContents (overtaking late) first) before = merged
          at leading ⊢
        have merges : Overtaking late merged := by
          refine ⟨?_, leading.shown ⟨lower, below, under⟩⟩
          refine ⟨ResourceId.le_trans (leading.foremost.2 upper above) higher.1, fun same => ?_⟩
          exact higher.not_le (same ▸ leading.foremost.2 upper above)
        have overtakes : Overtaking late (meet (overtaking late) merged (late :: after)) :=
          meet_induction (fun _ => Overtaking late) merges
            fun visited next later merged _ holds => holds.step next
        rw [overtakes.shown]
        simp

end Overtaken

section Buried

variable {least upper lower : ResourceId}

/-- Contents by which the leaf of `lower` is hidden by that of `upper`, and this one by the object
of `least`. -/
def burying (least upper lower id : ResourceId) : Fields :=
  if id = least then [("p", .object [])]
  else if id = upper then [("p", .int 0)]
  else if id = lower then [("p", .object [("q", .int 1)])]
  else if lower.Precedes id then [("p", .object [("q", .int 2)])]
  else []

theorem look_burying (least upper lower id : ResourceId) :
    (ofContents (burying least upper lower) id).look ["p"] =
      if id = least then some .branch
      else if id = upper then some (.leaf (.int 0))
      else if id = lower then some .branch
      else if lower.Precedes id then some .branch
      else none := by
  unfold look ofContents burying
  dsimp only
  repeat' split
  all_goals rfl

theorem look_burying_below (higher : upper.Precedes lower) (ahead : least.Precedes upper)
    (id : ResourceId) :
    (ofContents (burying least upper lower) id).look ["p", "q"] =
      if id = lower then some (.leaf (.int 1))
      else if lower.Precedes id then some (.leaf (.int 2))
      else none := by
  unfold look ofContents burying
  dsimp only
  by_cases same : id = least
  · rw [if_pos same, same, if_neg (ahead.trans higher).2,
      if_neg fun after => (ahead.trans higher).not_le after.1]
    rfl
  · rw [if_neg same]
    by_cases same : id = upper
    · rw [if_pos same, same, if_neg higher.2, if_neg fun after => higher.not_le after.1]
      rfl
    · rw [if_neg same]
      repeat' split
      all_goals rfl

/-- What precedes `upper` and is not `least` has no contents. -/
theorem burying_of_precedes (higher : upper.Precedes lower) {id : ResourceId} (other : id ≠ least)
    (precedes : id.Precedes upper) : burying least upper lower id = [] := by
  have before := precedes.trans higher
  rw [burying, if_neg other, if_neg precedes.2, if_neg before.2,
    if_neg fun after => before.not_le after.1]

/-- Before the least layer comes, the leaf of `upper` is on top. -/
structure Covered (upper : ResourceId) (visited : List ResourceId) (merged : Layer) : Prop where
  foremost : Foremost visited merged.id
  shown : upper ∈ visited → merged.look ["p"] = some (.leaf (.int 0))
  absent : (∀ id ∈ visited, id.Precedes upper) → merged.look ["p"] = none

theorem covered_singleton (higher : upper.Precedes lower) (other : first ≠ least)
    (ahead : least.Precedes upper) :
    Covered upper [first] (ofContents (burying least upper lower) first) where
  foremost := foremost_singleton first
  shown member := by
    rw [← List.mem_singleton.mp member, look_burying, if_neg ahead.2.symm, if_pos rfl]
  absent precedes := by
    rw [ofContents, burying_of_precedes higher other (precedes first (List.mem_singleton.mpr rfl))]
    rfl

theorem Covered.step (h : Covered upper visited merged) (higher : upper.Precedes lower)
    (ahead : least.Precedes upper) (other : next ≠ least)
    (extreme : next ∈ visited ∨ (∀ id ∈ visited, next.Precedes id) ∨
      ∀ id ∈ visited, id.Precedes next) :
    Covered upper (visited ++ [next])
      (merged.reconcile (ofContents (burying least upper lower) next)) where
  foremost := h.foremost.reconcile _
  shown member := by
    by_cases met : upper ∈ visited
    · by_cases under : merged.id ≤ (ofContents (burying least upper lower) next).id
      · rw [look_reconcile_key, if_pos under, h.shown met]
        rfl
      · have precedes : next.Precedes upper :=
          (ResourceId.precedes_of_not_le under).trans_le (h.foremost.2 upper met)
        rw [look_reconcile_of_empty _ (burying_of_precedes higher other precedes)]
        exact h.shown met
    · have same : upper = next :=
        List.mem_singleton.mp ((List.mem_append.mp member).resolve_left met)
      rw [← same] at extreme ⊢
      rw [look_reconcile_key, look_burying, if_neg ahead.2.symm, if_pos rfl]
      rcases extreme with again | precedes | follows
      · exact absurd again met
      · rw [if_neg (show ¬ merged.id ≤ (ofContents _ upper).id from
          (precedes merged.id h.foremost.1).not_le)]
        rfl
      · rw [h.absent follows]
        split <;> rfl
  absent precedes := by
    rw [look_reconcile_of_empty _ (burying_of_precedes higher other (precedes next (by simp)))]
    exact h.absent fun id member => precedes id (List.mem_append_left _ member)

/-- After the least layer its object is on top, and what is below it is not the leaf of `lower`. -/
structure Buried (least lower : ResourceId) (visited : List ResourceId) (merged : Layer) :
    Prop where
  id_le : merged.id ≤ least
  branch : merged.look ["p"] = some .branch
  below : (merged.look ["p", "q"] = none ∧ ∀ id ∈ visited, ¬ lower ≤ id) ∨
    merged.look ["p", "q"] = some (.leaf (.int 2))

/-- The least layer buries what is below the leaf that it hides. -/
theorem Covered.buried (h : Covered upper visited merged) (higher : upper.Precedes lower)
    (ahead : ∀ id ∈ visited, least.Precedes id) (met : upper ∈ visited) :
    Buried least lower [] (merged.reconcile (ofContents (burying least upper lower) least)) := by
  have late : ¬ merged.id ≤ (ofContents (burying least upper lower) least).id :=
    (ahead merged.id h.foremost.1).not_le
  have object : (ofContents (burying least upper lower) least).look ["p"] = some .branch := by
    rw [look_burying, if_pos rfl]
  refine ⟨?_, ?_, .inl ⟨?_, fun id member => nomatch member⟩⟩
  · rw [reconcile_of_not_le late]
    exact ResourceId.le_refl least
  · rw [look_reconcile_key, if_neg late, object]
    rfl
  · have cut : merged.look ["p", "q"] = none := by
      refine Classical.byContradiction fun present => ?_
      have branch : merged.look ["p"] = some .branch := Document.look_of_append present
      exact nomatch (h.shown met).symm.trans branch
    have ahead := ahead upper met
    have below : (merged.reconcile (ofContents (burying least upper lower) least)).look ["p", "q"] =
        ((ofContents (burying least upper lower) least).look ["p", "q"]).or
          (merged.look ["p", "q"]) := by
      rw [reconcile_of_not_le late]
      exact look_overlay_below object
    rw [below, cut, look_burying_below higher ahead, if_neg (ahead.trans higher).2,
      if_neg fun after => (ahead.trans higher).not_le after.1]
    rfl

theorem Buried.step (h : Buried least lower visited merged) (higher : upper.Precedes lower)
    (ahead : least.Precedes upper)
    (shut : next = lower → ∃ id ∈ visited, lower.Precedes id) :
    Buried least lower (visited ++ [next])
      (merged.reconcile (ofContents (burying least upper lower) next)) := by
  by_cases under : merged.id ≤ (ofContents (burying least upper lower) next).id
  · have below : (merged.reconcile (ofContents (burying least upper lower) next)).look ["p", "q"] =
        (merged.look ["p", "q"]).or
          ((ofContents (burying least upper lower) next).look ["p", "q"]) :=
      look_reconcile_below under h.branch
    refine ⟨?_, ?_, ?_⟩
    · rw [reconcile_of_le under]
      exact h.id_le
    · rw [look_reconcile_key, if_pos under, h.branch]
      rfl
    · rw [below]
      rcases h.below with ⟨absent, lesser⟩ | shown
      · rw [absent, look_burying_below higher ahead, Option.none_or]
        by_cases same : next = lower
        · obtain ⟨id, member, after⟩ := shut same
          exact absurd after.1 (lesser id member)
        · rw [if_neg same]
          by_cases after : lower.Precedes next
          · exact .inr (if_pos after)
          · refine .inl ⟨if_neg after, List.forall_mem_append.mpr ⟨lesser, ?_⟩⟩
            exact List.forall_mem_singleton.mpr fun le => after ⟨le, Ne.symm same⟩
      · rw [shown]
        exact .inr rfl
  · have before : next.Precedes least :=
      (ResourceId.precedes_of_not_le under).trans_le h.id_le
    have precedes := before.trans ahead
    have empty := burying_of_precedes higher before.2 precedes
    refine ⟨?_, ?_, ?_⟩
    · rw [reconcile_of_not_le under]
      exact before.1
    · rw [look_reconcile_of_empty _ empty]
      exact h.branch
    · rw [look_reconcile_of_empty _ empty]
      refine h.below.imp_left fun ⟨absent, lesser⟩ => ⟨absent, ?_⟩
      exact List.forall_mem_append.mpr
        ⟨lesser, List.forall_mem_singleton.mpr (precedes.trans higher).not_le⟩

/-- In order of precedence the leaf of `lower` is shown. -/
theorem look_burying_ascending {rest : List ResourceId} (higher : upper.Precedes lower)
    (ahead : least.Precedes upper) (ascending : (first :: rest).Pairwise (· ≤ ·))
    (member : least ∈ first :: rest) (member' : lower ∈ first :: rest) :
    (meet (burying least upper lower) (ofContents (burying least upper lower) first) rest).look
      ["p", "q"] = some (.leaf (.int 1)) := by
  have object : (meet (burying least upper lower) (ofContents (burying least upper lower) first)
      rest).look ["p"] = some .branch := by
    refine look_ascending ascending (look_nil _) member ?_ fun other present => ?_
    · rw [List.nil_append, look_burying, if_pos rfl]
    · refine Classical.byContradiction fun before => present ?_
      have precedes := ResourceId.precedes_of_not_le before
      rw [ofContents, burying_of_precedes higher precedes.2 (precedes.trans ahead)]
      rfl
  refine look_ascending ascending object member' ?_ fun other present => ?_
  · exact (look_burying_below higher ahead lower).trans (if_pos rfl)
  · refine Classical.byContradiction fun before => present ?_
    have precedes := ResourceId.precedes_of_not_le before
    refine (look_burying_below higher ahead other).trans ?_
    rw [if_neg precedes.2, if_neg fun after => precedes.not_le after.1]

/-- A leaf that is hidden when a better layer comes is lost, unless it is met again in time. -/
theorem loses_of_hidden {rest : List ResourceId} (split : first :: rest = before ++ least :: after)
    (ahead : ∀ id ∈ before, least.Precedes id) (above : upper ∈ before) (below : lower ∈ before)
    (higher : upper.Precedes lower)
    (extreme : ∀ visited next later, first :: rest = visited ++ next :: later →
      next ∈ visited ∨ (∀ id ∈ visited, next.Precedes id) ∨ ∀ id ∈ visited, id.Precedes next)
    (shut : ∀ between later, after = between ++ lower :: later →
      ∃ id ∈ between, lower.Precedes id) :
    Loses (burying least upper lower) first rest := by
  refine ⟨["p", "q"], .int 1, fun first' rest' perm ascending => ?_, ?_⟩
  · refine look_burying_ascending higher (ahead upper above) ascending ?_ ?_
    · exact perm.mem_iff.mpr (by simp [split])
    · exact perm.mem_iff.mpr (by simp [split, below])
  · cases before with
    | nil => cases above
    | cons head before =>
        rw [List.cons_append] at split
        obtain ⟨rfl, rfl⟩ := List.cons.inj split
        have covered : Covered upper (first :: before) (meet (burying least upper lower)
            (ofContents (burying least upper lower) first) before) := by
          refine meet_induction (fun visited => Covered upper (first :: visited))
            (covered_singleton higher (ahead first List.mem_cons_self).2.symm
              (ahead upper above)) ?_
          intro visited next later merged same covers
          refine covers.step higher (ahead upper above) ?_ ?_
          · exact (ahead next (by simp [same])).2.symm
          · exact extreme (first :: visited) next (later ++ least :: after) (by simp [same])
        rw [meet_append]
        generalize meet (burying least upper lower) (ofContents (burying least upper lower) first)
          before = merged at covered ⊢
        have buried : Buried least lower after (meet (burying least upper lower) (merged.reconcile
            (ofContents (burying least upper lower) least)) after) := by
          refine meet_induction (Buried least lower) (covered.buried higher ahead above) ?_
          intro visited next later merged same buries
          exact buries.step higher (ahead upper above) fun found =>
            shut visited later (found ▸ same)
        change (meet _ (merged.reconcile _) after).look _ ≠ _
        rcases buried.below with ⟨absent, _⟩ | shown
        · simp [absent]
        · simp [shown]

end Buried

/-- For every sequence of identities that is not orderly there are contents by which a leaf is
lost. -/
theorem exists_loses_of_not_orderly {rest : List ResourceId}
    (disorder : ¬ Orderly (first :: rest)) :
    ∃ contents, Loses contents first rest := by
  by_cases extreme : ∀ before id after, first :: rest = before ++ id :: after →
      id ∈ before ∨ (∀ other ∈ before, id.Precedes other) ∨ ∀ other ∈ before, other.Precedes id
  · refine Classical.byContradiction fun none => disorder ⟨extreme, ?_⟩
    intro before least after split ahead upper above lower below higher
    refine Classical.byContradiction fun late => none ⟨burying least upper lower, ?_⟩
    refine loses_of_hidden split ahead above below higher extreme fun between rest met => ?_
    refine Classical.byContradiction fun early =>
      late ⟨between, rest, met, fun id member after => ?_⟩
    exact early ⟨id, member, after⟩
  · simp only [Classical.not_forall, not_or] at extreme
    obtain ⟨before, id, after, split, new, ⟨upper, above, higher⟩, lower, below, under⟩ := extreme
    refine ⟨overtaking id, loses_of_between split new above ⟨?_, ?_⟩ below ⟨?_, ?_⟩⟩
    · exact ResourceId.le_of_not_precedes higher
    · exact fun same => new (same ▸ above)
    · exact ResourceId.le_of_not_precedes under
    · exact fun same => new (same ▸ below)

end Layer

end PolicyTopology
