import PolicyTopology.Proofs.Document.Leaves
import PolicyTopology.Proofs.Policy.Twins

/-!
# A level laid over its ancestors again

Where a namespace is passed twice on the way to a node, its policies are laid over what they have
been laid over before. For inherited policies this can be done whenever it could be done the first
time, whatever shapes their sections have, and it changes nothing: the `default` sections are laid
on top and the `override` sections are laid under, and an overlay keeps exactly the leaves that it
had kept the first time.
-/

namespace PolicyTopology

namespace ManifestPolicy

variable {child middle : ManifestPolicy} {ancestor : Policy}

/-- An inherited policy that could be laid over its ancestors can be laid over the outcome, which it
does not change. -/
theorem exists_mergeLevels_again (inherits : child.inherited = true)
    (h : mergeLevels ancestor (.manifest child) = .ok middle) :
    ∃ merged, mergeLevels (.manifest middle) (.manifest child) = .ok merged ∧
      Twins merged middle := by
  have readable : ∃ kind, child.kind = .ok kind := by
    obtain ⟨⟨first, second⟩, reconciled, _⟩ := Except.bind_ok_iff.mp h
    obtain ⟨_, same, _, kind, _, found⟩ := reconcilable_ok_iff.mp reconciled
    cases same
    exact ⟨kind, found⟩
  obtain ⟨_, _, rfl, ofLevel, merges⟩ := exists_mergesLevels h
  cases ofLevel
  cases merges with
  | united direct => cases inherits.symm.trans direct
  | @layered fields upper lower defaults overrides _ same ofChild _ hd ho =>
      obtain ⟨defaults', overrides', hd', ho', _⟩ := exists_layerSections_again hd ho
      have ofMiddle := spec_replaceSpec child.inherited fields
        ((lower.writeSection "default" defaults).writeSection "override" overrides)
      have again := mergeLevels_layered readable (kind_replaceSpec same _) inherits inherits
        ofMiddle ofChild
      rw [hd', ho', Except.lift_ok_bind, Except.lift_ok_bind, layer_eq same] at again
      exact ⟨_, again, twins_of_mergeLevels_again h again⟩

/-- An overlay keeps the leaves on top and just those under it whose paths are left open to them. So
an inherited policy that is laid over its ancestors once more is not changed. -/
theorem overlay_keeps_leaves :
    (∀ base top : Fields, base.OverlaysExactly top) ∧
      ∀ (ancestor : Policy) (child middle : ManifestPolicy), child.inherited = true →
        mergeLevels ancestor (.manifest child) = .ok middle →
          ∃ merged, mergeLevels (.manifest middle) (.manifest child) = .ok merged ∧
            Twins merged middle :=
  ⟨Fields.overlaysExactly, fun _ _ _ inherits h => exists_mergeLevels_again inherits h⟩

def retrying (name : String) (defaults overrides : Fields) : ManifestPolicy where
  manifest := .object [("apiVersion", .string "example.com/v1"), ("kind", .string "Retry"),
    ("metadata", .object [("name", .string name), ("namespace", .string "n")]),
    ("spec", .object [("default", .object defaults), ("override", .object overrides)])]
  inherited := true

def retriesOfClass : ManifestPolicy :=
  retrying "ofClass"
    [("codes", .object [("first", .int 502), ("last", .int 504)]), ("backoff", .int 1)]
    [("budget", .object [("percent", .int 20)])]

def retriesOfNameSpace : ManifestPolicy :=
  retrying "ofNameSpace" [("codes", .object [("last", .int 503)]), ("backoff", .object [])]
    [("budget", .int 5), ("attempts", .int 3)]

def retriesLaidOver : ManifestPolicy :=
  retrying "ofNameSpace"
    [("codes", .object [("first", .int 502), ("last", .int 503)]), ("backoff", .object [])]
    [("budget", .object [("percent", .int 20)]), ("attempts", .int 3)]

/-- They are laid over one another twice. -/
theorem overlay_keeps_leaves_retries :
    retriesOfNameSpace.inherited = true ∧
      mergeLevels (.manifest retriesOfClass) (.manifest retriesOfNameSpace) =
        .ok retriesLaidOver ∧
      ∃ merged, mergeLevels (.manifest retriesLaidOver) (.manifest retriesOfNameSpace) =
        .ok merged ∧ Twins merged retriesLaidOver :=
  ⟨rfl, rfl, overlay_keeps_leaves.2 (.manifest retriesOfClass) _ _ rfl rfl⟩

end ManifestPolicy

end PolicyTopology
