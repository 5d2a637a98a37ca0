import PolicyTopology.Topology.Attach

/-!
# Runs of work on a topology

Work on a topology is a state transformer that may fail and keeps the state in which it failed. A
run of a sequence is a run of its first part followed, if that succeeded, by one of its second part.
A property of topologies is kept by some work if every run leaves it true, whether or not the run
succeeds; sequences and loops keep what their parts keep.
-/

namespace PolicyTopology

namespace Assembly

variable {ε α β σ : Type} {topology after : Topology}

@[simp] theorem run_pure (value : α) (topology : Topology) :
    (pure value : Assembly ε α).run topology = (.ok value, topology) := rfl

@[simp] theorem run_get (topology : Topology) :
    (get : Assembly ε Topology).run topology = (.ok topology, topology) := rfl

@[simp] theorem run_set (next topology : Topology) :
    (set next : Assembly ε Unit).run topology = (.ok (), next) := rfl

@[simp] theorem run_modify (f : Topology → Topology) (topology : Topology) :
    (modify f : Assembly ε Unit).run topology = (.ok (), f topology) := rfl

@[simp] theorem run_throw (error : ε) (topology : Topology) :
    (throw error : Assembly ε α).run topology = (.error error, topology) := rfl

@[simp] theorem run_lift (computation : Except ε α) (topology : Topology) :
    (liftM computation : Assembly ε α).run topology = (computation, topology) := by
  cases computation <;> rfl

theorem run_adapt {ε' : Type} (f : ε → ε') (work : Assembly ε α) (topology : Topology) :
    (ExceptT.adapt f work : Assembly ε' α).run topology =
      ((work.run topology).1.mapError f, (work.run topology).2) := rfl

theorem run_bind (first : Assembly ε α) (next : α → Assembly ε β) (topology : Topology) :
    (first >>= next).run topology =
      match first.run topology with
      | (.ok value, middle) => (next value).run middle
      | (.error error, middle) => (.error error, middle) := by
  change (ExceptT.bindCont next (first.run topology).1) (first.run topology).2 = _
  rcases first.run topology with ⟨_ | _, _⟩ <;> rfl

theorem run_bind_ok_iff {first : Assembly ε α} {next : α → Assembly ε β} {value : β} :
    (first >>= next).run topology = (.ok value, after) ↔
      ∃ middle state, first.run topology = (.ok middle, state) ∧
        (next middle).run state = (.ok value, after) := by
  rw [run_bind]
  rcases first.run topology with ⟨_ | middle, state⟩
  · constructor
    · exact fun h => nomatch congrArg Prod.fst h
    · rintro ⟨_, _, h, _⟩
      exact nomatch congrArg Prod.fst h
  · constructor
    · exact fun h => ⟨middle, state, rfl, h⟩
    · rintro ⟨_, _, h, rest⟩
      cases h
      exact rest

/-- Every run leaves the property true, whether or not it succeeds. -/
def Keeps (property : Topology → Prop) (work : Assembly ε α) : Prop :=
  ∀ topology, property topology → property (work.run topology).2

variable {property : Topology → Prop}

theorem Keeps.bind {first : Assembly ε α} {next : α → Assembly ε β}
    (h : Keeps property first) (h' : ∀ value, Keeps property (next value)) :
    Keeps property (first >>= next) := by
  intro topology holds
  have middle := h topology holds
  rw [run_bind]
  generalize first.run topology = run at middle
  rcases run with ⟨_ | value, state⟩
  · exact middle
  · exact h' value state middle

theorem Keeps.pure (value : α) : Keeps property (pure value : Assembly ε α) :=
  fun _ holds => holds

theorem Keeps.throw (error : ε) : Keeps property (throw error : Assembly ε α) :=
  fun _ holds => holds

theorem Keeps.modify {f : Topology → Topology}
    (h : ∀ topology, property topology → property (f topology)) :
    Keeps property (modify f : Assembly ε Unit) :=
  fun topology holds => h topology holds

/-- Reading the state is no step of its own: what follows may use that the property holds there. -/
theorem Keeps.get_bind {next : Topology → Assembly ε α}
    (h : ∀ topology, property topology → property ((next topology).run topology).2) :
    Keeps property (get >>= next) :=
  fun topology holds => h topology holds

theorem Keeps.foldlM {step : σ → α → Assembly ε σ} {items : List α}
    (h : ∀ item ∈ items, ∀ state, Keeps property (step state item)) (start : σ) :
    Keeps property (items.foldlM step start) := by
  induction items generalizing start with
  | nil => exact .pure start
  | cons item rest ih =>
      rw [List.foldlM_cons]
      exact (h item List.mem_cons_self start).bind
        (ih fun other member => h other (List.mem_cons_of_mem item member))

theorem Keeps.mapM {step : α → Assembly ε β} (h : ∀ item, Keeps property (step item))
    (items : List α) : Keeps property (items.mapM step) := by
  induction items with
  | nil =>
      rw [List.mapM_nil]
      exact .pure []
  | cons item rest ih =>
      rw [List.mapM_cons]
      exact (h item).bind fun value => ih.bind fun values => .pure (value :: values)

end Assembly

end PolicyTopology
