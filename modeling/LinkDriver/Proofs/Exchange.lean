import LinkDriver.Proofs.Invocation

/-!
# The exchange with an engine

An invocation is an exchange with its engine: calls are made one after the other, each on the state
that the one before left, until one of them fails. `Exchange engine stages state made outcome` says
the stages, taken from a state, make these calls and end with this outcome.

Read `exists_exchange` first: every run of stages is an exchange. `Engine.traced` keeps the calls
that are made of an engine, and `Exchange.run_traced` says it changes nothing else, so the calls of
an exchange are those that an engine sees.
-/

namespace LinkDriver

/-! ## Calls that are made -/

/-- A call that was made of an engine: the state on which it ran, and how it ended. -/
structure MadeCall (σ : Type) where
  call : Call
  before : σ
  outcome : Outcome σ CallFailure Unit

/-- Whether a call that was made succeeded. -/
def MadeCall.passed {σ : Type} (step : MadeCall σ) : Bool :=
  step.outcome.result.isOk

theorem MadeCall.passed_iff {σ : Type} {step : MadeCall σ} :
    step.passed = true ↔ step.outcome.result = .ok () := by
  unfold passed
  cases step.outcome.result <;> simp [Except.isOk, Except.toBool]

/-- The engine that also keeps the calls that are made of it. -/
def Engine.traced {σ : Type} (engine : Engine σ) : Engine (σ × List (MadeCall σ)) where
  perform call := fun (state, made) =>
    let outcome := (engine.perform call).run state
    ⟨outcome.events, (outcome.state, made ++ [⟨call, state, outcome⟩]), outcome.result⟩

theorem Engine.run_traced {σ : Type} (engine : Engine σ) (call : Call) (state : σ)
    (earlier : List (MadeCall σ)) :
    (engine.traced.perform call).run (state, earlier) =
      ⟨((engine.perform call).run state).events,
        (((engine.perform call).run state).state,
          earlier ++ [⟨call, state, (engine.perform call).run state⟩]),
        ((engine.perform call).run state).result⟩ := rfl

/-- `Chained engine state made final` says each call was made on the state that the one before left,
the first one on `state`, and that the engine did with it what is kept; the last one left
`final`. -/
def Chained {σ : Type} (engine : Engine σ) : σ → List (MadeCall σ) → σ → Prop
  | state, [], final => final = state
  | state, step :: rest, final =>
    step.before = state ∧ step.outcome = (engine.perform step.call).run state ∧
      Chained engine step.outcome.state rest final

/-- What is kept of a call is what the engine does with it. -/
theorem Chained.performed {σ : Type} {engine : Engine σ} {state final : σ}
    {made : List (MadeCall σ)} (h : Chained engine state made final) :
    ∀ step ∈ made, step.outcome = (engine.perform step.call).run step.before := by
  induction made generalizing state with
  | nil => simp
  | cons first rest ih =>
      obtain ⟨rfl, hfirst, hrest⟩ := h
      simpa using ⟨hfirst, ih hrest⟩

/-! ## Stages as exchanges -/

/-- What is logged before a stage calls the engine. -/
def Stage.announced (stage : Stage) : List Event :=
  stage.announcement?.toList.map .log

/-- An announcement is a mere note. -/
theorem Stage.isNote_of_mem_announced {stage : Stage} {event : Event}
    (h : event ∈ stage.announced) : Action.IsNote event := by
  obtain ⟨record, -, rfl⟩ := List.mem_map.mp h
  exact trivial

/-- A stage announces its call, makes it, and tells its failure in its own terms. -/
theorem Stage.run_perform {σ : Type} (engine : Engine σ) {stage : Stage} {call : Call}
    (hcall : stage.call = .ok call) (state : σ) :
    (stage.perform engine).run state =
      ⟨stage.announced ++ ((engine.perform call).run state).events,
        ((engine.perform call).run state).state,
        ((engine.perform call).run state).result.mapError stage.failure⟩ := by
  unfold perform announced
  cases hrecord : stage.announcement? with
  | none =>
      simp only [hcall]
      rw [Action.run_bind_ok (a := call) rfl]
      simp
  | some record =>
      rw [Action.run_bind_ok (a := ()) rfl, hcall, Action.run_bind_ok (a := call) rfl]
      simp

/-- What a call does after mere notes is what its stage does, told in the terms of the stage. -/
theorem Stage.notedBefore_perform {σ : Type} {engine : Engine σ} {stage : Stage} {call : Call}
    {state : σ} {later : Outcome σ CallFailure Unit} (hcall : stage.call = .ok call)
    (h : Action.NotedBefore ((engine.perform call).run state) later) :
    Action.NotedBefore ((stage.perform engine).run state)
      ⟨later.events, later.state, later.result.mapError stage.failure⟩ := by
  obtain ⟨notes, hnotes, hrun⟩ := h
  refine ⟨stage.announced ++ notes, ?_, ?_⟩
  · exact List.forall_mem_append.mpr ⟨fun _ => Stage.isNote_of_mem_announced, hnotes⟩
  · rw [Stage.run_perform engine hcall, hrun, List.append_assoc]

/-- A stage whose call fails is the last one. -/
theorem run_stages_stopped {σ : Type} {engine : Engine σ} {stage : Stage} {call : Call} {state : σ}
    {failure : CallFailure} (rest : List Stage) (hcall : stage.call = .ok call)
    (hresult : ((engine.perform call).run state).result = .error failure) :
    ((stage :: rest).forM (Stage.perform engine)).run state =
      ⟨stage.announced ++ ((engine.perform call).run state).events,
        ((engine.perform call).run state).state, .error (stage.failure failure)⟩ := by
  have hrun := Stage.run_perform engine hcall state
  rw [hresult] at hrun
  show (stage.perform engine >>= fun _ => rest.forM (Stage.perform engine)).run state = _
  rw [Action.run_bind_error (e := stage.failure failure) (by rw [hrun]; rfl), hrun]

/-- The stages behind one whose call succeeds run on the state that it left. -/
theorem run_stages_passed {σ : Type} {engine : Engine σ} {stage : Stage} {call : Call} {state : σ}
    (rest : List Stage) (hcall : stage.call = .ok call)
    (hresult : ((engine.perform call).run state).result = .ok ()) :
    ((stage :: rest).forM (Stage.perform engine)).run state =
      let others := (rest.forM (Stage.perform engine)).run ((engine.perform call).run state).state
      ⟨stage.announced ++ ((engine.perform call).run state).events ++ others.events, others.state,
        others.result⟩ := by
  have hrun := Stage.run_perform engine hcall state
  rw [hresult] at hrun
  show (stage.perform engine >>= fun _ => rest.forM (Stage.perform engine)).run state = _
  rw [Action.run_bind_ok (a := ()) (by rw [hrun]; rfl), hrun]

/-- The exchange of some stages with an engine, from a state: no stage is left, the call of the
first one fails, or it succeeds and the others follow on the state that it left. -/
inductive Exchange {σ : Type} (engine : Engine σ) :
    List Stage → σ → List (MadeCall σ) → Outcome σ Failure Unit → Prop where
  | finished (state) : Exchange engine [] state [] ⟨[], state, .ok ()⟩
  | stopped {stage call state answer failure} (rest) :
      stage.call = .ok call → (engine.perform call).run state = answer →
      answer.result = .error failure →
      Exchange engine (stage :: rest) state [⟨call, state, answer⟩]
        ⟨stage.announced ++ answer.events, answer.state, .error (stage.failure failure)⟩
  | passed {stage call state answer rest made outcome} :
      stage.call = .ok call → (engine.perform call).run state = answer →
      answer.result = .ok () → Exchange engine rest answer.state made outcome →
      Exchange engine (stage :: rest) state (⟨call, state, answer⟩ :: made)
        ⟨stage.announced ++ answer.events ++ outcome.events, outcome.state, outcome.result⟩

/-- Stages that all have a call make an exchange. -/
theorem exists_exchange {σ : Type} (engine : Engine σ) {stages : List Stage}
    (hcalls : ∀ stage ∈ stages, ∃ call, stage.call = .ok call) (state : σ) :
    ∃ made, Exchange engine stages state made
      ((stages.forM (Stage.perform engine)).run state) := by
  induction stages generalizing state with
  | nil => exact ⟨[], .finished state⟩
  | cons stage rest ih =>
      obtain ⟨call, hcall⟩ := hcalls stage (List.mem_cons_self ..)
      cases hresult : ((engine.perform call).run state).result with
      | error failure =>
          rw [run_stages_stopped rest hcall hresult]
          exact ⟨_, .stopped rest hcall rfl hresult⟩
      | ok =>
          obtain ⟨made, hmade⟩ := ih
            (fun other hmem => hcalls other (List.mem_cons_of_mem _ hmem))
            ((engine.perform call).run state).state
          rw [run_stages_passed rest hcall hresult]
          exact ⟨_, .passed hcall rfl hresult hmade⟩

namespace Exchange

variable {σ : Type} {engine : Engine σ} {stages : List Stage} {state : σ}
  {made : List (MadeCall σ)} {outcome : Outcome σ Failure Unit}

/-- An engine that keeps its calls goes through the same exchange, and keeps the calls of it. -/
theorem run_traced (h : Exchange engine stages state made outcome) (earlier : List (MadeCall σ)) :
    (stages.forM (Stage.perform engine.traced)).run (state, earlier) =
      ⟨outcome.events, (outcome.state, earlier ++ made), outcome.result⟩ := by
  induction h generalizing earlier with
  | finished state => rw [List.append_nil]; rfl
  | @stopped stage call state answer failure rest hcall hanswer hresult =>
      subst hanswer
      have htraced : ((engine.traced.perform call).run (state, earlier)).result =
        .error failure := hresult
      rw [run_stages_stopped rest hcall htraced, Engine.run_traced]
  | @passed stage call state answer rest made outcome hcall hanswer hresult hrest ih =>
      subst hanswer
      have htraced : ((engine.traced.perform call).run (state, earlier)).result = .ok () := hresult
      have hothers := ih (earlier ++ [⟨call, state, (engine.perform call).run state⟩])
      rw [List.append_assoc, List.singleton_append] at hothers
      rw [run_stages_passed rest hcall htraced]
      simp only [Engine.run_traced, hothers]

/-- Each call of an exchange runs on the state that the one before left. -/
theorem chained (h : Exchange engine stages state made outcome) :
    Chained engine state made outcome.state := by
  induction h with
  | finished => rfl
  | stopped rest hcall hanswer hresult => exact ⟨rfl, hanswer.symm, rfl⟩
  | passed hcall hanswer hresult hrest ih => exact ⟨rfl, hanswer.symm, ih⟩

/-- The calls of an exchange are those of the stages, from the first one on. -/
theorem calls_begin (h : Exchange engine stages state made outcome) {calls : List Call}
    (hcalls : stages.map Stage.call = calls.map .ok) : made.map MadeCall.call <+: calls := by
  induction h generalizing calls with
  | finished => exact List.nil_prefix
  | stopped rest hcall hanswer hresult =>
      cases calls with
      | nil => exact absurd hcalls (by simp)
      | cons first others =>
          simp only [List.map_cons, List.cons.injEq, hcall, Except.ok.injEq] at hcalls
          simp [hcalls.1]
  | passed hcall hanswer hresult hrest ih =>
      cases calls with
      | nil => exact absurd hcalls (by simp)
      | cons first others =>
          simp only [List.map_cons, List.cons.injEq, hcall, Except.ok.injEq] at hcalls
          simpa [hcalls.1] using ih hcalls.2

/-- Some call is made where there is a stage. -/
theorem made_ne_nil (h : Exchange engine stages state made outcome) (hstages : stages ≠ []) :
    made ≠ [] := by
  cases h with
  | finished => exact absurd rfl hstages
  | stopped | passed => exact List.cons_ne_nil _ _

/-- How an exchange ends: with all calls made and none failed, or with the first call that failed,
whose failure is told in the terms of its stage. -/
theorem ending (h : Exchange engine stages state made outcome) :
    (made.length = stages.length ∧ (∀ step ∈ made, step.outcome.result = .ok ()) ∧
      outcome.result = .ok ()) ∨
    ∃ earlier last stage failure, made = earlier ++ [last] ∧
      (∀ step ∈ earlier, step.outcome.result = .ok ()) ∧ stages[earlier.length]? = some stage ∧
      stage.call = .ok last.call ∧ last.outcome.result = .error failure ∧
      outcome.result = .error (stage.failure failure) := by
  induction h with
  | finished => exact Or.inl ⟨rfl, by simp, rfl⟩
  | stopped rest hcall hanswer hresult =>
      exact Or.inr ⟨[], _, _, _, rfl, by simp, rfl, hcall, hresult, rfl⟩
  | passed hcall hanswer hresult hrest ih =>
      rcases ih with ⟨hlength, hall, hok⟩ |
        ⟨earlier, last, stage, failure, rfl, hearlier, hstage, hlast, hfailure, herror⟩
      · exact Or.inl ⟨by simpa using hlength, by simpa using ⟨hresult, hall⟩, hok⟩
      · exact Or.inr ⟨_ :: earlier, last, stage, failure, rfl,
          by simpa using ⟨hresult, hearlier⟩, by simpa using hstage, hlast, hfailure, herror⟩

/-- An exchange ends well exactly if no call failed. -/
theorem result_eq_ok_iff (h : Exchange engine stages state made outcome) :
    outcome.result = .ok () ↔ ∀ step ∈ made, step.passed = true := by
  simp only [MadeCall.passed_iff]
  rcases h.ending with ⟨-, hall, hok⟩ | ⟨earlier, last, stage, failure, rfl, -, -, -, hlast, herror⟩
  · exact iff_of_true hok hall
  · refine iff_of_false (by simp [herror]) ?_
    intro hall
    have hresult := hall last (by simp)
    rw [hlast] at hresult
    exact absurd hresult (by simp)

/-- Without a failed call all stages make their calls. -/
theorem length_of_passed (h : Exchange engine stages state made outcome)
    (hpassed : ∀ step ∈ made, step.passed = true) : made.length = stages.length := by
  have hresult := h.result_eq_ok_iff.mpr hpassed
  rcases h.ending with ⟨hlength, -, -⟩ | ⟨_, _, _, _, -, -, -, -, -, herror⟩
  · exact hlength
  · exact absurd (hresult.symm.trans herror) (by simp)

/-- Only the last call of an exchange may have failed. -/
theorem passed_of_mem_dropLast (h : Exchange engine stages state made outcome) :
    ∀ step ∈ made.dropLast, step.passed = true := by
  intro step hmem
  rw [MadeCall.passed_iff]
  rcases h.ending with ⟨-, hall, -⟩ | ⟨earlier, last, _, _, rfl, hearlier, -, -, -, -⟩
  · exact hall step (List.dropLast_subset _ hmem)
  · rw [List.dropLast_concat] at hmem
    exact hearlier step hmem

/-- The failure of the last call is told in the terms of the stage that made it. -/
theorem result_of_failed (h : Exchange engine stages state made outcome)
    {earlier : List (MadeCall σ)} {last : MadeCall σ} {failure : CallFailure}
    (hmade : made = earlier ++ [last]) (hlast : last.outcome.result = .error failure) :
    ∃ stage, stages[earlier.length]? = some stage ∧ stage.call = .ok last.call ∧
      outcome.result = .error (stage.failure failure) := by
  rcases h.ending with ⟨-, hall, -⟩ |
    ⟨others, final, stage, other, hsplit, -, hstage, hcall, hfinal, herror⟩
  · have hresult := hall last (by simp [hmade])
    rw [hlast] at hresult
    exact absurd hresult (by simp)
  · obtain ⟨rfl, hsame⟩ := List.append_inj' (hmade.symm.trans hsplit) rfl
    obtain rfl : last = final := by simpa using hsame
    obtain rfl : failure = other := Except.error.inj (hlast.symm.trans hfinal)
    exact ⟨stage, hstage, hcall, herror⟩

end Exchange

end LinkDriver
