import PolicyTopology.Proofs.Naming
import PolicyTopology.Proofs.Topology.Account
import PolicyTopology.Proofs.Topology.Atomicity

/-!
# What diagnostics name

A diagnostic is left by an operation that skips an edge or leaves a policy out, and it is about the
source of the edge or the identity of the policy. Of that it shows the text. So two diagnostics that
show the same are about one identity, wherever texts tell identities from one another.
-/

namespace PolicyTopology

def Diagnostic.IsAbout (diagnostic : Diagnostic) (policy : Policy) : Prop :=
  diagnostic.edge? = none ∧ policy.id = .ok diagnostic.subject

/-- The identity of a policy is made of its parts, whatever they are. -/
theorem Diagnostic.IsAbout.made {diagnostic : Diagnostic} {policy : Policy}
    (h : diagnostic.IsAbout policy) : diagnostic.subject.Made := by
  have identity := h.2
  unfold Policy.id at identity
  obtain ⟨kind, _, identity⟩ := Except.bind_ok_iff.mp identity
  obtain ⟨nameSpace, _, identity⟩ := Except.bind_ok_iff.mp identity
  obtain ⟨name, _, identity⟩ := Except.bind_ok_iff.mp identity
  rw [← Except.ok.inj identity]
  exact ⟨[kind.group, kind.kind, nameSpace, name], rfl⟩

/-- The diagnostics that an operation can leave: of an edge under its source, or of a policy that is
offered under its identity. -/
def Operation.Omits : Operation → Diagnostic → Prop
  | .connect edge source _, diagnostic =>
    diagnostic.edge? = some edge ∧ diagnostic.subject = source
  | .attach policy, diagnostic => diagnostic.IsAbout policy
  | .attachAll policies, diagnostic => ∃ policy ∈ policies, diagnostic.IsAbout policy
  | _, _ => False

namespace Topology

variable {topology : Topology} {policy : Policy} {diagnostic : Diagnostic} {edge : Edge}
  {source target : ResourceId}

theorem isAbout_of_omissionOf? (h : topology.omissionOf? policy = some diagnostic) :
    diagnostic.IsAbout policy := by
  unfold omissionOf? at h
  split at h
  · next id found placed =>
    cases h
    obtain ⟨edgeless, subject⟩ := omission_of_placement placed
    exact ⟨edgeless, subject ▸ (readable_of_placement placed).1⟩
  · cases h

theorem omits_of_refusal? (h : topology.refusal? edge source target = some diagnostic) :
    (Operation.connect edge source target).Omits diagnostic := by
  unfold refusal? at h
  split at h
  · cases h
    exact ⟨rfl, rfl⟩
  · split at h
    · cases h
      exact ⟨rfl, rfl⟩
    · cases h

/-- What is new among the diagnostics after an operation was left by the operation. -/
theorem mem_diagnostics_apply (operation : Operation)
    (member : diagnostic ∈ (operation.apply topology).diagnostics) :
    diagnostic ∈ topology.diagnostics ∨ operation.Omits diagnostic := by
  cases operation with
  | insert resource => exact .inl member
  | note event => exact .inl member
  | connect edge source target =>
      cases refused : topology.refusal? edge source target with
      | none =>
          change diagnostic ∈ (topology.connect edge source target).diagnostics at member
          rw [connect_of_sound refused] at member
          exact .inl member
      | some omission =>
          change diagnostic ∈ (topology.connect edge source target).diagnostics at member
          rw [connect_of_refusal refused] at member
          rcases List.mem_append.mp member with before | added
          · exact .inl before
          · cases List.mem_singleton.mp added
            exact .inr (omits_of_refusal? refused)
  | attach policy =>
      change diagnostic ∈ ((attach policy).run topology).2.diagnostics at member
      rw [diagnostics_attach] at member
      rcases List.mem_append.mp member with before | added
      · exact .inl before
      · exact .inr (isAbout_of_omissionOf? (Option.mem_toList.mp added))
  | attachAll policies =>
      change diagnostic ∈ ((attachAll policies).run topology).2.diagnostics at member
      rw [diagnostics_attachAll] at member
      rcases List.mem_append.mp member with before | added
      · exact .inl before
      · obtain ⟨policy, offered, left⟩ := List.mem_filterMap.mp added
        exact .inr ⟨policy, List.takeWhile_subset _ offered, isAbout_of_omissionOf? left⟩
  | resolve merger mode =>
      exact .inl ((resolve_sameButResolved merger mode topology).diagnostics ▸ member)
  | inherit => exact .inl (diagnostics_inherit topology ▸ member)

/-- What is new among the diagnostics after some operations was left by one of them. -/
theorem mem_diagnostics_applyAll (operations : List Operation)
    (member : diagnostic ∈ (operations.foldl Operation.apply topology).diagnostics) :
    diagnostic ∈ topology.diagnostics ∨ ∃ operation ∈ operations, operation.Omits diagnostic := by
  induction operations generalizing topology with
  | nil => exact .inl member
  | cons operation rest ih =>
      rcases ih member with before | ⟨later, among, omitted⟩
      · rcases mem_diagnostics_apply operation before with before | omitted
        · exact .inl before
        · exact .inr ⟨operation, List.mem_cons_self, omitted⟩
      · exact .inr ⟨later, List.mem_cons_of_mem _ among, omitted⟩

theorem made_of_omits {operation : Operation} (h : operation.Omits diagnostic)
    (edgeless : diagnostic.edge? = none) : diagnostic.subject.Made := by
  cases operation with
  | connect edge source target => cases edgeless.symm.trans h.1
  | attach policy => exact Diagnostic.IsAbout.made h
  | attachAll policies =>
      obtain ⟨policy, _, about⟩ := h
      exact about.made
  | insert resource => exact h.elim
  | note event => exact h.elim
  | resolve merger mode => exact h.elim
  | inherit => exact h.elim

/-- What the diagnostics after some operations name. -/
structure NamesApart (operations : List Operation) (after : Topology) : Prop where
  /-- Each is about an edge or a policy that one of the operations has left out. -/
  omitted : ∀ diagnostic ∈ after.diagnostics, ∃ operation ∈ operations, operation.Omits diagnostic
  /-- What is said of a policy is said of an identity that is made of its parts. -/
  made : ∀ diagnostic ∈ after.diagnostics, diagnostic.edge? = none → diagnostic.subject.Made
  /-- Two that show the same are about one identity. -/
  resource_iff : ∀ diagnostic ∈ after.diagnostics, ∀ other ∈ after.diagnostics,
    diagnostic.subject.Unambiguous → other.subject.Unambiguous →
      (diagnostic.resource = other.resource ↔ diagnostic.subject = other.subject)

theorem namesApart (operations : List Operation) :
    NamesApart operations (operations.foldl Operation.apply .empty) := by
  have omitted : ∀ diagnostic ∈ (operations.foldl Operation.apply Topology.empty).diagnostics,
      ∃ operation ∈ operations, operation.Omits diagnostic := fun diagnostic member =>
    (mem_diagnostics_applyAll operations member).resolve_left List.not_mem_nil
  refine ⟨omitted, fun diagnostic member edgeless => ?_, fun diagnostic _ other _ h h' => ?_⟩
  · obtain ⟨operation, _, left⟩ := omitted diagnostic member
    exact made_of_omits left edgeless
  · exact ResourceId.text_eq_text_iff h h'

/-- Texts tell identities from one another, and so do diagnostics. -/
theorem text_identifies :
    (∀ first second : ResourceId, first.Unambiguous → second.Unambiguous →
        (first.text = second.text ↔ first = second)) ∧
      ∀ operations : List Operation,
        NamesApart operations (operations.foldl Operation.apply .empty) :=
  ⟨fun _ _ h h' => ResourceId.text_eq_text_iff h h', namesApart⟩

def quotaId (name : String) : ResourceId := .policy "example.com" "Quota" "n" name

def leftOut : List Operation :=
  [.attach (quotaOn toNameSpace "n:p"), .attach (quotaOn toNameSpace "")]

theorem text_identifies_leftOut :
    (quotaId "n:p").Unambiguous ∧ (quotaId "").Unambiguous ∧
      ((quotaId "n:p").text = (quotaId "").text ↔ quotaId "n:p" = quotaId "") ∧
      (leftOut.foldl Operation.apply .empty).diagnostics =
        [.missingTarget (quotaId "n:p") (.ofNamespace "n"),
          .missingTarget (quotaId "") (.ofNamespace "n")] ∧
      ((Diagnostic.missingTarget (quotaId "n:p") (.ofNamespace "n")).resource =
          (Diagnostic.missingTarget (quotaId "") (.ofNamespace "n")).resource ↔
        quotaId "n:p" = quotaId "") := by
  have made : ∀ name, (quotaId name).Made := fun name => ⟨["example.com", "Quota", "n", name], rfl⟩
  have first : (quotaId "n:p").Unambiguous := ⟨made _, by decide, by decide⟩
  have second : (quotaId "").Unambiguous := ⟨made _, by decide, by decide⟩
  have left : (leftOut.foldl Operation.apply .empty).diagnostics =
      [.missingTarget (quotaId "n:p") (.ofNamespace "n"),
        .missingTarget (quotaId "") (.ofNamespace "n")] := by rfl
  refine ⟨first, second, text_identifies.1 _ _ first second, left, ?_⟩
  refine (text_identifies.2 leftOut).resource_iff _ ?_ _ ?_ first second
  · exact left ▸ List.mem_cons_self
  · exact left ▸ List.mem_cons_of_mem _ List.mem_cons_self

end Topology

end PolicyTopology
