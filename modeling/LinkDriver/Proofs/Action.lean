import LinkDriver.Action

/-!
# Runs of actions

`Runs action state value final` says an action, started in a state, ends with a value and leaves a
final state. Read `runs_bind_iff` first: a sequence of two actions runs exactly if both run, one
after the other. The other lemmas say when the primitive actions run, so that a run of a composed
action is taken apart by rewriting.

`NotedBefore outcome later` says an outcome is a later one with mere notes before it. An action that
only takes notes can so be left out of what follows it, however that ends. The events that are more
than notes are the `deeds` of an outcome. A note that tells of no error is a remark.

`beside` lets an action that works on no state run beside any state; `beside_bind` takes such an
action apart.
-/

namespace LinkDriver.Action

variable {σ ε ε' α β : Type}

/-- Other terms for an error are not terms for a success. -/
theorem mapError_eq_ok_iff {change : ε → ε'} {result : Except ε α} {a : α} :
    result.mapError change = .ok a ↔ result = .ok a := by
  cases result with
  | error e =>
      constructor
      · intro h
        have herror : Except.error (change e) = .ok a := h
        exact absurd herror (by simp)
      · intro h
        exact absurd h (by simp)
  | ok b =>
      constructor
      · intro h
        obtain rfl : b = a := Except.ok.inj h
        rfl
      · intro h
        obtain rfl := Except.ok.inj h
        rfl

/-- Another result leaves an error as it is. -/
theorem map_eq_error_iff {change : α → β} {result : Except ε α} {e : ε} :
    result.map change = .error e ↔ result = .error e := by
  cases result <;> simp [Except.map]

/-- A value is replaced by another one where there is a value. -/
theorem map_const_eq_ok_iff {result : Except ε α} {b c : β} :
    (result.map fun _ => b) = .ok c ↔ (∃ a, result = .ok a) ∧ b = c := by
  cases result <;> simp [Except.map]

/-- A value that is returned behind an action takes the place of its own. -/
theorem run_bind_const (action : Action σ ε α) (b : β) (state : σ) :
    (action >>= fun _ => pure b).run state =
      ⟨(action.run state).events, (action.run state).state,
        (action.run state).result.map fun _ => b⟩ := by
  cases hresult : (action.run state).result with
  | error e =>
      rw [run_bind_error hresult]
      rfl
  | ok a =>
      rw [run_bind_ok hresult, run_pure, List.append_nil]
      rfl

/-- The action ends with a value, and leaves the final state. -/
def Runs (action : Action σ ε α) (state : σ) (value : α) (final : σ) : Prop :=
  (action.run state).result = .ok value ∧ (action.run state).state = final

/-- A sequence runs exactly if its second action runs on what the first one left. -/
theorem runs_bind_iff {action : Action σ ε α} {next : α → Action σ ε β} {state final : σ}
    {b : β} :
    Runs (action >>= next) state b final ↔
      ∃ a middle, Runs action state a middle ∧ Runs (next a) middle b final := by
  cases hresult : (action.run state).result with
  | error e =>
      constructor
      · intro h
        obtain ⟨hvalue, -⟩ := h
        rw [run_bind_error hresult] at hvalue
        exact absurd hvalue (by simp)
      · intro h
        obtain ⟨a, middle, ⟨hvalue, -⟩, -⟩ := h
        rw [hresult] at hvalue
        exact absurd hvalue (by simp)
  | ok a =>
      unfold Runs
      rw [run_bind_ok hresult]
      constructor
      · intro h
        exact ⟨a, _, ⟨hresult, rfl⟩, h⟩
      · intro h
        obtain ⟨other, middle, ⟨hvalue, hmiddle⟩, h⟩ := h
        obtain rfl : a = other := Except.ok.inj (hresult.symm.trans hvalue)
        rwa [hmiddle]

@[simp] theorem runs_pure_iff {a value : α} {state final : σ} :
    Runs (pure a : Action σ ε α) state value final ↔ a = value ∧ state = final := by
  simp [Runs]

@[simp] theorem runs_fail_iff {e : ε} {value : α} {state final : σ} :
    Runs (fail e : Action σ ε α) state value final ↔ False := by
  simp [Runs]

@[simp] theorem runs_emit_iff {event : Event} {value : Unit} {state final : σ} :
    Runs (emit event : Action σ ε Unit) state value final ↔ state = final := by
  simp [Runs]

@[simp] theorem runs_log_iff {level : Level} {source message : String} {value : Unit}
    {state final : σ} :
    Runs (log level source message : Action σ ε Unit) state value final ↔ state = final := by
  simp [Runs]

@[simp] theorem runs_get_iff {value state final : σ} :
    Runs (get : Action σ ε σ) state value final ↔ state = value ∧ state = final := by
  simp [Runs]

@[simp] theorem runs_modify_iff {change : σ → σ} {value : Unit} {state final : σ} :
    Runs (modify change : Action σ ε Unit) state value final ↔ change state = final := by
  simp [Runs]

@[simp] theorem runs_ofExcept_iff {result : Except ε α} {value : α} {state final : σ} :
    Runs (ofExcept result : Action σ ε α) state value final ↔
      result = .ok value ∧ state = final := by
  simp [Runs]

/-- An action runs whatever its errors are called. -/
@[simp] theorem runs_mapError_iff {change : ε → ε'} {action : Action σ ε α} {value : α}
    {state final : σ} :
    Runs (mapError change action) state value final ↔ Runs action state value final := by
  unfold Runs
  rw [run_mapError, mapError_eq_ok_iff]

/-! ## Actions beside a state -/

/-- An action that works on no state, run beside a state that it leaves as it is. -/
def beside (action : Action Unit ε α) : Action σ ε α := fun state =>
  ⟨(action.run ()).events, state, (action.run ()).result⟩

@[simp] theorem run_beside (action : Action Unit ε α) (state : σ) :
    (beside action : Action σ ε α).run state =
      ⟨(action.run ()).events, state, (action.run ()).result⟩ := rfl

theorem beside_pure (a : α) : (beside (pure a : Action Unit ε α) : Action σ ε α) = pure a := rfl

theorem beside_emit (event : Event) :
    (beside (emit event : Action Unit ε Unit) : Action σ ε Unit) = emit event := rfl

theorem beside_log (level : Level) (source message : String) :
    (beside (log level source message : Action Unit ε Unit) : Action σ ε Unit) =
      log level source message := rfl

/-- A sequence runs beside a state as its actions do. -/
theorem beside_bind (action : Action Unit ε α) (next : α → Action Unit ε β) :
    (beside (action >>= next) : Action σ ε β) = beside action >>= fun a => beside (next a) := by
  funext state
  cases hresult : (action.run ()).result with
  | error e =>
      have hbeside : ((beside action : Action σ ε α).run state).result = .error e := hresult
      show Outcome.mk _ state _ = (beside action >>= fun a => beside (next a)).run state
      rw [run_bind_error hresult, run_bind_error hbeside]
      rfl
  | ok a =>
      have hbeside : ((beside action : Action σ ε α).run state).result = .ok a := hresult
      show Outcome.mk _ state _ = (beside action >>= fun a => beside (next a)).run state
      rw [run_bind_ok hresult, run_bind_ok hbeside]
      rfl

/-! ## Notes -/

/-- The event is a mere note, and no deed of the driver: a log record, an entry of the report, or
what a command that was started left in a file. -/
def IsNote : Event → Prop
  | .log _ | .report _ | .wrote _ _ => True
  | .print _ | .start _ => False

instance : DecidablePred IsNote
  | .log _ | .report _ | .wrote _ _ => .isTrue trivial
  | .print _ | .start _ => .isFalse id

/-- The event is a remark: a log record that tells of no error. -/
def IsRemark : Event → Prop
  | .log record => record.level ≠ .error
  | .report _ | .print _ | .start _ | .wrote _ _ => False

theorem isNote_of_isRemark {event : Event} (h : IsRemark event) : IsNote event := by
  cases event with
  | log | report | wrote => trivial
  | print | start => exact h

/-- The events of an outcome that are more than notes. -/
def deeds (outcome : Outcome σ ε α) : List Event :=
  outcome.events.filter (¬ IsNote ·)

/-- Notes are no deeds. -/
theorem filter_notes {notes : List Event} (h : ∀ event ∈ notes, IsNote event) :
    notes.filter (¬ IsNote ·) = [] := by
  rw [List.filter_eq_nil_iff]
  intro event hmem
  simpa using h event hmem

/-- The outcome is a later one with mere notes before it. -/
def NotedBefore (outcome later : Outcome σ ε α) : Prop :=
  ∃ notes, (∀ event ∈ notes, IsNote event) ∧
    outcome = ⟨notes ++ later.events, later.state, later.result⟩

namespace NotedBefore

variable {action : Action σ ε α} {next : α → Action σ ε β} {state final : σ} {a : α} {e : ε}
  {outcome later : Outcome σ ε α}

theorem refl (outcome : Outcome σ ε α) : NotedBefore outcome outcome :=
  ⟨[], by simp, rfl⟩

theorem trans {last : Outcome σ ε α} (h : NotedBefore outcome later)
    (hlater : NotedBefore later last) : NotedBefore outcome last := by
  obtain ⟨notes, hnotes, rfl⟩ := h
  obtain ⟨more, hmore, rfl⟩ := hlater
  exact ⟨notes ++ more, List.forall_mem_append.mpr ⟨hnotes, hmore⟩, by simp⟩

theorem log (level : Level) (source message : String) (state : σ) :
    NotedBefore ((log level source message : Action σ ε Unit).run state) ⟨[], state, .ok ()⟩ :=
  ⟨[.log ⟨level, source, message⟩], by simp [IsNote], rfl⟩

theorem report (entry : ReportEntry) (state : σ) :
    NotedBefore ((emit (.report entry) : Action σ ε Unit).run state) ⟨[], state, .ok ()⟩ :=
  ⟨[.report entry], by simp [IsNote], rfl⟩

/-- An action that ends well and only takes notes can be left out. -/
theorem bind_ok {last : Outcome σ ε β} (h : NotedBefore (action.run state) ⟨[], final, .ok a⟩)
    (hnext : NotedBefore ((next a).run final) last) :
    NotedBefore ((action >>= next).run state) last := by
  obtain ⟨notes, hnotes, hrun⟩ := h
  obtain ⟨more, hmore, hlast⟩ := hnext
  refine ⟨notes ++ more, ?_, ?_⟩
  · intro event hmem
    rcases List.mem_append.mp hmem with hmem | hmem
    · exact hnotes event hmem
    · exact hmore event hmem
  · rw [run_bind_ok (a := a) (by rw [hrun]), hrun, hlast]
    simp

/-- An error that comes after mere notes ends a sequence. -/
theorem bind_error (h : NotedBefore (action.run state) ⟨[], final, .error e⟩) :
    NotedBefore ((action >>= next).run state) ⟨[], final, .error e⟩ := by
  obtain ⟨notes, hnotes, hrun⟩ := h
  refine ⟨notes, hnotes, ?_⟩
  rw [run_bind_error (e := e) (by rw [hrun]), hrun]

theorem result_eq (h : NotedBefore outcome later) : outcome.result = later.result := by
  obtain ⟨_, -, rfl⟩ := h
  rfl

theorem state_eq (h : NotedBefore outcome later) : outcome.state = later.state := by
  obtain ⟨_, -, rfl⟩ := h
  rfl

/-- Notes taken before are no deeds. -/
theorem deeds_eq (h : NotedBefore outcome later) : deeds outcome = deeds later := by
  obtain ⟨notes, hnotes, rfl⟩ := h
  show (notes ++ later.events).filter (¬ IsNote ·) = later.events.filter (¬ IsNote ·)
  rw [List.filter_append, filter_notes hnotes, List.nil_append]

/-- What is more than a note is not a note taken before. -/
theorem mem_events (h : NotedBefore outcome later) {event : Event} (hmem : event ∈ outcome.events)
    (hevent : ¬ IsNote event) : event ∈ later.events := by
  obtain ⟨notes, hnotes, rfl⟩ := h
  rcases List.mem_append.mp hmem with hmem | hmem
  · exact absurd (hnotes event hmem) hevent
  · exact hmem

end NotedBefore

end LinkDriver.Action
