import PolicyTopology.Proofs.Policy.OneKind
import Mathlib.Algebra.Ring.Nat

/-!
# Counting the calls of mergers

The trace of a merge lists the calls of recording mergers in order. Every policy that is put under a
kind either opens the entry of this kind or costs one call of its merger, so the calls for a kind
and the entries that are there afterwards make up the policies that came in and the entries that
were there before. The calls for one kind are told from the others by silencing all other mergers,
which changes no result and leaves the remaining calls in their order.
-/

namespace PolicyTopology

namespace Traced

variable {ω ω' ε ε' α β σ : Type}

theorem bind_ok {first : Traced ω ε α} {next : α → Traced ω ε β} {value : β}
    (h : (first >>= next).result = .ok value) :
    ∃ middle, first.result = .ok middle ∧ (next middle).result = .ok value ∧
      (first >>= next).trace = first.trace ++ (next middle).trace := by
  rw [result_bindM] at h
  obtain ⟨middle, found, h⟩ := Except.bind_ok_iff.mp h
  exact ⟨middle, found, h, congrArg Traced.trace (bind_of_ok found next)⟩

/-- If every step of a loop pays for what its item brings in and its state can no longer hold, so
does the loop. -/
theorem length_trace_foldlM {step : σ → α → Traced ω ε σ} (load : σ → Nat) (brings : α → Nat)
    (h : ∀ state item next, (step state item).result = .ok next →
      (step state item).trace.length + load next = brings item + load state)
    {items : List α} {start final : σ} (run : (items.foldlM step start).result = .ok final) :
    (items.foldlM step start).trace.length + load final =
      (items.map brings).sum + load start := by
  induction items generalizing start with
  | nil =>
      cases run
      rfl
  | cons item rest ih =>
      rw [List.foldlM_cons] at run ⊢
      obtain ⟨middle, found, run, trace⟩ := bind_ok run
      have head := h start item middle found
      have tail := ih run
      rw [trace, List.length_append, List.map_cons, List.sum_cons]
      omega

/-- The second computation comes to what the first one comes to, and notes some of its events. -/
structure Quieter (first second : Traced ω ε α) : Prop where
  result : second.result = first.result
  trace : second.trace.Sublist first.trace

namespace Quieter

theorem refl (computation : Traced ω ε α) : Quieter computation computation := ⟨rfl, .refl _⟩

theorem bind {first second : Traced ω ε α} {next next' : α → Traced ω ε β}
    (h : Quieter first second) (h' : ∀ value, Quieter (next value) (next' value)) :
    Quieter (first >>= next) (second >>= next') := by
  cases found : first.result with
  | error error =>
      rw [bind_of_error found, bind_of_error (h.result.trans found)]
      exact ⟨rfl, h.trace⟩
  | ok value =>
      rw [bind_of_ok found, bind_of_ok (h.result.trans found)]
      exact ⟨(h' value).result, h.trace.append (h' value).trace⟩

theorem foldlM {step step' : σ → α → Traced ω ε σ}
    (h : ∀ state item, Quieter (step state item) (step' state item)) (items : List α) (start : σ) :
    Quieter (items.foldlM step start) (items.foldlM step' start) := by
  induction items generalizing start with
  | nil => exact .refl _
  | cons item rest ih =>
      rw [List.foldlM_cons, List.foldlM_cons]
      exact (h start item).bind ih

theorem adapt {first second : Traced ω ε α} (h : Quieter first second) (event : ω → ω')
    (error : ε → ε') : Quieter (adapt event error first) (adapt event error second) :=
  ⟨congrArg (Except.mapError error) h.result, h.trace.map event⟩

end Quieter

end Traced

theorem Table.get?_mapValues {κ α β : Type} [DecidableEq κ] (f : α → β) (table : Table κ α)
    (key : κ) : (table.mapValues f).get? key = (table.get? key).map f := by
  obtain ⟨entries, nodup⟩ := table
  change Entries.get? (entries.map fun entry => (entry.1, f entry.2)) key =
    (Entries.get? entries key).map f
  clear nodup
  induction entries with
  | nil => rfl
  | cons entry rest ih =>
      rw [List.map_cons, Entries.get?_cons, Entries.get?_cons, ih]
      split <;> rfl

/-- Policies that can be put in order have readable identities. -/
theorem Policy.readable_of_byPrecedence {policies : List Policy}
    {ordered : Entries ResourceId Policy}
    (order : byPrecedence (fun policy => policy) policies = .ok ordered) :
    ∀ policy ∈ policies, ∃ id, policy.id = .ok id := by
  obtain ⟨identified, mapped, -⟩ := Except.bind_ok_iff.mp order
  clear order
  induction policies generalizing identified with
  | nil => exact fun _ member => nomatch member
  | cons policy rest ih =>
      rw [List.mapM_cons] at mapped
      obtain ⟨entry, head, mapped⟩ := Except.bind_ok_iff.mp mapped
      obtain ⟨others, tail, -⟩ := Except.bind_ok_iff.mp mapped
      obtain ⟨id, found, -⟩ := Except.bind_ok_iff.mp head
      intro other member
      rcases List.mem_cons.mp member with rfl | member
      · exact ⟨id, found⟩
      · exact ih others tail other member

namespace KindMerger

/-- A merger that notes its own calls only, and each call that succeeds once. -/
structure Recording (merger : KindMerger) : Prop where
  own : ∀ operation first second,
    (merger.merge operation first second).Notes fun call => call.operation = operation
  once : ∀ {operation first second merged},
    (merger.merge operation first second).result = .ok merged →
      (merger.merge operation first second).trace.length = 1

def silent (merger : KindMerger) : KindMerger :=
  ⟨fun operation first second => ⟨[], (merger.merge operation first second).result⟩⟩

theorem quieter_silent (merger : KindMerger) (operation : MergeOperation) (first second : Policy) :
    Traced.Quieter (merger.merge operation first second)
      (merger.silent.merge operation first second) := ⟨rfl, List.nil_sublist _⟩

/-- A merger that notes nothing itself is a recording one if its calls are noted. -/
theorem recording_recorded {merger : KindMerger}
    (h : ∀ operation first second, (merger.merge operation first second).trace = []) :
    merger.recorded.Recording where
  own operation first second := by
    refine Traced.Notes.bind (fun _ noted => nomatch noted) fun firstName => ?_
    refine Traced.Notes.bind (fun _ noted => nomatch noted) fun secondName => ?_
    refine Traced.Notes.bind (.note rfl) fun _ call noted => ?_
    rw [h] at noted
    cases noted
  once {operation first second merged} success := by
    unfold recorded at success ⊢
    obtain ⟨firstName, _, success, trace⟩ := Traced.bind_ok success
    obtain ⟨secondName, _, success, trace'⟩ := Traced.bind_ok success
    obtain ⟨_, _, success, trace''⟩ := Traced.bind_ok success
    rw [trace, trace', trace'', h]
    rfl

end KindMerger

namespace MergerRegistry

variable {registry : MergerRegistry} {kind : MergeKind}

def Recording (registry : MergerRegistry) : Prop := ∀ kind, (registry.mergerFor kind).Recording

/-- No merger of the registry notes calls other than its own. -/
def NotesOwn (registry : MergerRegistry) : Prop :=
  ∀ kind operation first second, ((registry.mergerFor kind).merge operation first second).Notes
    fun call => call.operation = operation

theorem Recording.notesOwn (h : registry.Recording) : registry.NotesOwn := fun kind => (h kind).own

def silent (registry : MergerRegistry) : MergerRegistry :=
  ⟨registry.fallback.silent, registry.mergers.mapValues KindMerger.silent⟩

/-- The same registry, in which only the merger for one kind notes anything. -/
def onlyAt (registry : MergerRegistry) (kind : MergeKind) : MergerRegistry :=
  registry.silent.register kind (registry.mergerFor kind)

theorem mergerFor_silent (kind : MergeKind) :
    registry.silent.mergerFor kind = (registry.mergerFor kind).silent := by
  unfold mergerFor silent
  rw [Table.get?_mapValues]
  cases registry.mergers.get? kind <;> rfl

theorem mergerFor_onlyAt (other : MergeKind) : (registry.onlyAt kind).mergerFor other =
    if kind = other then registry.mergerFor other else (registry.mergerFor other).silent := by
  unfold onlyAt register
  rw [mergerFor, Table.get?_set]
  split
  · next same => rw [same]; rfl
  · exact mergerFor_silent other

/-- The second registry comes to what the first one comes to, and notes some of its calls. -/
def Quieter (registry registry' : MergerRegistry) : Prop :=
  ∀ kind operation first second, Traced.Quieter
    ((registry.mergerFor kind).merge operation first second)
    ((registry'.mergerFor kind).merge operation first second)

theorem quieter_onlyAt (registry : MergerRegistry) (kind : MergeKind) :
    Quieter registry (registry.onlyAt kind) := by
  intro other operation first second
  rw [mergerFor_onlyAt]
  split
  · exact .refl _
  · exact KindMerger.quieter_silent ..

section Quieter

variable {registry' : MergerRegistry} (h : Quieter registry registry')
include h

omit h in
theorem quieter_place {combine combine' : Policy → Merging Policy}
    (h : ∀ existing, Traced.Quieter (combine existing) (combine' existing))
    (result : PoliciesByKind) (kind : MergeKind) (policy : Policy) :
    Traced.Quieter (place result kind policy combine) (place result kind policy combine') := by
  unfold place
  cases result.get? kind with
  | none => exact .refl _
  | some existing => exact (h existing).bind fun _ => .refl _

theorem Quieter.mergeLevel (policies : List Policy) :
    Traced.Quieter (registry.mergeLevel policies) (registry'.mergeLevel policies) :=
  (Traced.Quieter.refl _).bind fun ordered =>
    .foldlM (fun _ _ => quieter_place (fun _ => h _ _ _ _) _ _ _) ordered _

theorem Quieter.overlay (ancestor specific : PoliciesByKind) :
    Traced.Quieter (registry.overlay ancestor specific) (registry'.overlay ancestor specific) :=
  .foldlM (fun _ _ => quieter_place (fun _ => h _ _ _ _) _ _ _) _ _

theorem Quieter.reconcile (first : Option PoliciesByKind) (second : PoliciesByKind) :
    Traced.Quieter (registry.reconcile first second) (registry'.reconcile first second) :=
  .foldlM (fun _ _ => quieter_place (fun _ =>
    (Traced.Quieter.refl _).bind fun _ => h _ _ _ _) _ _ _) _ _

end Quieter

/-! ### Which calls an operation makes -/

section Operations

variable {policies : List Policy} {ancestor specific table : PoliciesByKind}
  {first : Option PoliciesByKind} {second : PoliciesByKind}

theorem notes_place {property : MergeCall → Prop} {combine : Policy → Merging Policy}
    (h : ∀ existing, (combine existing).Notes property) (result : PoliciesByKind)
    (kind : MergeKind) (policy : Policy) : (place result kind policy combine).Notes property := by
  unfold place
  cases result.get? kind with
  | none => exact .pure _
  | some existing => exact (h existing).bind fun _ => .pure _

theorem NotesOwn.onlyAt (h : registry.NotesOwn) (kind : MergeKind) :
    (registry.onlyAt kind).NotesOwn := by
  intro other operation first second call noted
  exact h other operation first second call
    ((quieter_onlyAt registry kind other operation first second).trace.subset noted)

theorem NotesOwn.notes_mergeLevel (h : registry.NotesOwn) (policies : List Policy) :
    (registry.mergeLevel policies).Notes fun call => call.operation = .peers :=
  .bind (fun _ noted => nomatch noted) fun _ =>
    .foldlM (fun _ _ => notes_place (fun _ => h _ _ _ _) _ _ _) _ _

theorem NotesOwn.notes_overlay (h : registry.NotesOwn) (ancestor specific : PoliciesByKind) :
    (registry.overlay ancestor specific).Notes fun call => call.operation = .levels :=
  .foldlM (fun _ _ => notes_place (fun _ => h _ _ _ _) _ _ _) _ _

theorem NotesOwn.notes_reconcile (h : registry.NotesOwn) (first : Option PoliciesByKind)
    (second : PoliciesByKind) :
    (registry.reconcile first second).Notes fun call => call.operation = .peers :=
  .foldlM (fun _ _ => notes_place (fun _ =>
    .bind (fun _ noted => nomatch noted) fun _ => h _ _ _ _) _ _ _) _ _

/-- The mergers note one event for each successful call that merges policies of the kind, and none
for any other call. -/
def CountsOnly (registry : MergerRegistry) (kind : MergeKind) : Prop :=
  ∀ ⦃other operation first second merged⦄,
    ((registry.mergerFor other).merge operation first second).result = .ok merged →
      ((registry.mergerFor other).merge operation first second).trace.length =
        if other = kind then 1 else 0

theorem Recording.countsOnly (h : registry.Recording) (kind : MergeKind) :
    (registry.onlyAt kind).CountsOnly kind := by
  intro other operation first second merged success
  rw [mergerFor_onlyAt] at success ⊢
  by_cases same : kind = other
  · rw [if_pos same] at success ⊢
    rw [if_pos same.symm]
    exact (h other).once success
  · rw [if_neg same, if_neg (Ne.symm same)]
    rfl

def load (kind : MergeKind) (table : PoliciesByKind) : Nat := (table.get? kind).isSome.toNat

theorem length_toList (table : PoliciesByKind) :
    (table.get? kind).toList.length = load kind table := by
  unfold load
  cases table.get? kind <;> rfl

theorem load_set (table : PoliciesByKind) (other : MergeKind) (policy : Policy) :
    load kind (table.set other policy) = if other = kind then 1 else load kind table := by
  unfold load
  rw [Table.get?_set]
  split <;> rfl

theorem sum_valuesAt (items : List (MergeKind × Policy)) :
    (items.map fun item => if item.1 = kind then 1 else 0).sum =
      (Table.valuesAt items kind).length := by
  induction items with
  | nil => rfl
  | cons item rest ih =>
      rw [List.map_cons, List.sum_cons, ih, Table.valuesAt_cons]
      split
      · rw [List.length_cons, Nat.add_comm]
      · rw [Nat.zero_add]

theorem length_trace_place {combine : Policy → Merging Policy} {other : MergeKind}
    (h : ∀ {existing merged}, (combine existing).result = .ok merged →
      (combine existing).trace.length = if other = kind then 1 else 0)
    {result next : PoliciesByKind} {policy : Policy}
    (placed : (place result other policy combine).result = .ok next) :
    (place result other policy combine).trace.length + load kind next =
      (if other = kind then 1 else 0) + load kind result := by
  unfold place at placed ⊢
  cases found : result.get? other with
  | none =>
      rw [found] at placed
      cases placed
      change 0 + load kind (result.set other policy) = _
      rw [load_set]
      split
      · next same =>
        rw [load, ← same, found]
        rfl
      · rfl
  | some existing =>
      rw [found] at placed
      obtain ⟨merged, success, placed, trace⟩ := Traced.bind_ok placed
      cases placed
      dsimp only at trace ⊢
      rw [trace, Traced.trace_pure, List.append_nil, h success, load_set]
      split
      · next same =>
        rw [load, ← same, found]
        rfl
      · rfl

/-- What is left under a kind and the calls for it make up what was there. -/
theorem length_trace_placeAll (kind : MergeKind) (items : List (MergeKind × Policy))
    (combine : MergeKind × Policy → Policy → Merging Policy)
    (h : ∀ {item existing merged}, (combine item existing).result = .ok merged →
      (combine item existing).trace.length = if item.1 = kind then 1 else 0)
    {start : PoliciesByKind} (filled : (items.foldlM (fun result item =>
      place result item.1 item.2 (combine item)) start).result = .ok table) :
    (items.foldlM (fun result item =>
        place result item.1 item.2 (combine item)) start).trace.length + load kind table =
      (Table.valuesAt items kind).length + load kind start := by
  have total := Traced.length_trace_foldlM (load kind)
    (fun item : MergeKind × Policy => if item.1 = kind then 1 else 0)
    (fun _ _ _ placed => length_trace_place h placed) filled
  rwa [sum_valuesAt] at total

theorem exists_order (h : (registry.mergeLevel policies).result = .ok table) :
    ∃ ordered, Policy.byPrecedence (fun policy => policy) policies = .ok ordered := by
  obtain ⟨_, order, -, -⟩ := Traced.bind_ok h
  cases found : Policy.byPrecedence (fun policy => policy) policies with
  | ok ordered => exact ⟨ordered, rfl⟩
  | error error =>
      rw [found] at order
      cases order

/-- The merge of a level is a loop over its policies in order of precedence. -/
theorem mergeLevel_eq {ordered : Entries ResourceId Policy}
    (order : Policy.byPrecedence (fun policy => policy) policies = .ok ordered) :
    registry.mergeLevel policies =
      (ordered.map fun entry => (kindOf entry.1, entry.2)).foldlM (fun result item =>
        place result item.1 item.2 fun existing =>
          (registry.mergerFor item.1).merge .peers existing item.2) .empty := by
  unfold mergeLevel
  rw [order, List.foldlM_map]
  rfl

theorem length_valuesAt {ordered : Entries ResourceId Policy}
    (order : Policy.byPrecedence (fun policy => policy) policies = .ok ordered)
    (kind : MergeKind) :
    (Table.valuesAt (ordered.map fun entry => (kindOf entry.1, entry.2)) kind).length =
      (Policy.ofKind kind policies).length := by
  obtain ⟨ordered', order', perm, ids⟩ :=
    Policy.byPrecedence_total (Policy.readable_of_byPrecedence order)
  cases order.symm.trans order'
  refine List.Perm.length_eq (List.Perm.trans (List.Perm.of_eq ?_) (perm.filter _))
  rw [Table.valuesAt, List.filter_map, List.filter_map, List.map_map]
  refine congrArg (List.map Prod.snd) (List.filter_congr fun entry member => ?_)
  rw [Function.comp_apply, Function.comp_apply, (Policy.parts_of_id (ids entry member)).1]
  exact decide_eq_decide.mpr (by simp [kindOf, Except.toOption])

/-- There is a policy of a kind in the end if there is one on the level. -/
theorem isSome_of_mergeLevel (h : (registry.mergeLevel policies).result = .ok table)
    (kind : MergeKind) :
    (table.get? kind).isSome = !(Policy.ofKind kind policies).isEmpty := by
  obtain ⟨ordered, order⟩ := exists_order h
  have filled := Table.get?_of_fill ((result_mergeLevel_of_order order).symm.trans h) kind
  have present := Table.isSome_of_gather filled
  have length := length_valuesAt order kind
  rw [Bool.eq_iff_iff, present, ← List.length_pos_iff, length, List.length_pos_iff]
  simp

theorem isSome_of_overlay (h : (registry.overlay ancestor specific).result = .ok table)
    (kind : MergeKind) : (table.get? kind).isSome =
      ((ancestor.get? kind).isSome || (specific.get? kind).isSome) := by
  have joins := joins_of_overlay h kind
  revert joins
  generalize ancestor.get? kind = first, specific.get? kind = second, table.get? kind = result
  intro joins
  cases joins with
  | left => simp
  | right => rfl
  | both => rfl

variable (counts : registry.CountsOnly kind)
include counts

theorem CountsOnly.overlay (h : (registry.overlay ancestor specific).result = .ok table) :
    (registry.overlay ancestor specific).trace.length + load kind table =
      load kind specific + load kind ancestor := by
  have total := length_trace_placeAll kind _ _ (fun success => counts success) h
  rwa [Table.valuesAt_of_perm (Entries.sorted_perm _), length_toList] at total

theorem CountsOnly.reconcile (h : (registry.reconcile first second).result = .ok table) :
    (registry.reconcile first second).trace.length + load kind table =
      load kind second + load kind (first.getD .empty) := by
  have total := length_trace_placeAll kind _ _ (fun success => ?_) h
  · rwa [Table.valuesAt_of_perm (Entries.sorted_perm _), length_toList] at total
  · obtain ⟨_, _, success, trace⟩ := Traced.bind_ok success
    rw [trace]
    exact counts success

theorem CountsOnly.mergeLevel (h : (registry.mergeLevel policies).result = .ok table) :
    (registry.mergeLevel policies).trace.length + load kind table =
      (Policy.ofKind kind policies).length := by
  obtain ⟨ordered, order⟩ := exists_order h
  rw [← length_valuesAt order, mergeLevel_eq order]
  rw [mergeLevel_eq order] at h
  exact length_trace_placeAll kind _ _ (fun success => counts success) h

/-- Two levels cost one call for the kind if both have a policy of it. -/
theorem CountsOnly.length_overlay (h : (registry.overlay ancestor specific).result = .ok table) :
    (registry.overlay ancestor specific).trace.length =
      ((ancestor.get? kind).isSome && (specific.get? kind).isSome).toNat := by
  have total := counts.overlay h
  unfold load at total
  rw [isSome_of_overlay h] at total
  revert total
  cases (ancestor.get? kind).isSome <;> cases (specific.get? kind).isSome <;> simp

/-- A level costs one call for each policy of the kind but the first. -/
theorem CountsOnly.length_mergeLevel (h : (registry.mergeLevel policies).result = .ok table) :
    (registry.mergeLevel policies).trace.length = (Policy.ofKind kind policies).length - 1 := by
  have total := counts.mergeLevel h
  unfold load at total
  rw [isSome_of_mergeLevel h] at total
  cases listed : Policy.ofKind kind policies with
  | nil => simpa [listed] using total
  | cons policy rest => simpa [listed] using total

end Operations

end MergerRegistry

end PolicyTopology
