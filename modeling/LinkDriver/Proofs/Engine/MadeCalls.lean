import LinkDriver.Proofs.Exchange

/-!
# Calls in any order

An engine may be called in any order, and the caller may go on after a call that failed. `makeCalls`
makes such calls one after the other. They are `Linked`: each is made on the state that the one
before left, and is answered as its engine answers (`linked_makeCalls`). What was handed over last,
and what was added, is read off the calls that were made.
-/

namespace LinkDriver

/-! ## What a call hands over -/

namespace Call

/-- The configuration that a call hands over. -/
def configuration? : Call → Option Configuration
  | configure settled => some settled
  | _ => none

/-- The path of the output that a call sets. -/
def output? : Call → Option String
  | setOutput path => some path
  | _ => none

/-- Whether a call adds an input. -/
def adds : Call → Bool
  | addObject _ | addNamespec _ => true
  | _ => false

end Call

/-! ## Making calls -/

variable {σ : Type}

/-- Makes calls one after the other, each of its engine and on the state that the one before left,
however that ended. -/
def makeCalls : σ → List (Engine σ × Call) → List (MadeCall σ)
  | _, [] => []
  | state, (engine, call) :: rest =>
    let outcome := (engine.perform call).run state
    ⟨call, state, outcome⟩ :: makeCalls outcome.state rest

/-- Makes calls of one engine, one after the other. -/
def Engine.makeCalls (engine : Engine σ) (state : σ) (calls : List Call) : List (MadeCall σ) :=
  LinkDriver.makeCalls state (calls.map fun call => (engine, call))

/-- The state that some calls leave. -/
def stateAfter (state : σ) : List (MadeCall σ) → σ
  | [] => state
  | step :: rest => stateAfter step.outcome.state rest

/-- `Linked answers state made` says each call was made on the state that the one before left, the
first one on `state`, and was answered as `answers` says. -/
def Linked (answers : σ → Call → Outcome σ CallFailure Unit → Prop) : σ → List (MadeCall σ) → Prop
  | _, [] => True
  | state, step :: rest =>
    step.before = state ∧ answers step.before step.call step.outcome ∧
      Linked answers step.outcome.state rest

variable {answers : σ → Call → Outcome σ CallFailure Unit → Prop} {state : σ}
  {made earlier later : List (MadeCall σ)} {step : MadeCall σ}

theorem map_call_makeCalls (state : σ) (requests : List (Engine σ × Call)) :
    (makeCalls state requests).map MadeCall.call = requests.map Prod.snd := by
  induction requests generalizing state with
  | nil => rfl
  | cons request rest ih => exact congrArg (request.2 :: ·) (ih _)

/-- Calls that are made are linked, and answered as each engine answers. -/
theorem linked_makeCalls {requests : List (Engine σ × Call)}
    (h : ∀ request ∈ requests, ∀ state,
      answers state request.2 ((request.1.perform request.2).run state)) (state : σ) :
    Linked answers state (makeCalls state requests) := by
  induction requests generalizing state with
  | nil => trivial
  | cons request rest ih =>
      obtain ⟨hfirst, hrest⟩ := List.forall_mem_cons.mp h
      exact ⟨rfl, hfirst state, ih hrest _⟩

namespace Linked

/-- Of linked calls, each one was answered on the state that those before it left. -/
theorem split (h : Linked answers state (earlier ++ step :: later)) :
    Linked answers state earlier ∧ step.before = stateAfter state earlier ∧
      answers step.before step.call step.outcome := by
  induction earlier generalizing state with
  | nil => exact ⟨trivial, h.1, h.2.1⟩
  | cons first rest ih =>
      obtain ⟨hbefore, hanswer, hrest⟩ := h
      obtain ⟨hearlier, hstep⟩ := ih hrest
      exact ⟨⟨hbefore, hanswer, hearlier⟩, hstep⟩

/-- Each of some linked calls was answered. -/
theorem answered_of_mem (h : Linked answers state made) (hmem : step ∈ made) :
    answers step.before step.call step.outcome := by
  obtain ⟨earlier, later, rfl⟩ := List.append_of_mem hmem
  exact h.split.2.2

/-- Linked calls that one engine answered are a chain of its calls. -/
theorem chained {engine : Engine σ}
    (h : Linked (fun state call outcome => outcome = (engine.perform call).run state) state made) :
    Chained engine state made (stateAfter state made) := by
  induction made generalizing state with
  | nil => rfl
  | cons step rest ih =>
      obtain ⟨rfl, houtcome, hrest⟩ := h
      exact ⟨rfl, houtcome, ih hrest⟩

end Linked

theorem Engine.map_call_makeCalls (engine : Engine σ) (state : σ) (calls : List Call) :
    (engine.makeCalls state calls).map MadeCall.call = calls := by
  rw [Engine.makeCalls, LinkDriver.map_call_makeCalls, List.map_map]
  exact List.map_id calls

theorem Engine.chained_makeCalls (engine : Engine σ) (state : σ) (calls : List Call) :
    Chained engine state (engine.makeCalls state calls)
      (stateAfter state (engine.makeCalls state calls)) := by
  refine (linked_makeCalls ?_ state).chained
  rintro _ hmem state
  obtain ⟨call, -, rfl⟩ := List.mem_map.mp hmem
  rfl

/-! ## What was handed over -/

/-- The calls that succeeded. -/
def passedCalls (made : List (MadeCall σ)) : List Call :=
  (made.filter MadeCall.passed).map MadeCall.call

theorem passedCalls_cons (step : MadeCall σ) (rest : List (MadeCall σ)) :
    passedCalls (step :: rest) = (if step.passed then [step.call] else []) ++ passedCalls rest := by
  unfold passedCalls
  rw [List.filter_cons]
  split <;> rfl

/-- The configuration that was handed over last. -/
def lastConfigured (made : List (MadeCall σ)) : Option Configuration :=
  (made.filterMap fun step => step.call.configuration?).getLast?

/-- The output that was set last by a call that succeeded. -/
def lastOutput (made : List (MadeCall σ)) : Option String :=
  ((made.filter MadeCall.passed).filterMap fun step => step.call.output?).getLast?

/-- The calls that succeeded in adding an input. -/
def additions (made : List (MadeCall σ)) : List (MadeCall σ) :=
  made.filter fun step => step.passed && step.call.adds

/-- The last value read off a list is the last one read off its tail, or else that of its head. -/
theorem getLast?_filterMap_cons {α β : Type} (read : α → Option β) (head : α) (tail : List α) :
    ((head :: tail).filterMap read).getLast? = (tail.filterMap read).getLast?.or (read head) := by
  rw [List.filterMap_cons]
  cases read head with
  | none => exact Option.or_none.symm
  | some value =>
      simp only [List.getLast?_cons]
      cases (tail.filterMap read).getLast? <;> rfl

/-- The configuration handed over last is that of the later calls, or else that of the first. -/
theorem lastConfigured_cons (step : MadeCall σ) (rest : List (MadeCall σ)) :
    lastConfigured (step :: rest) = (lastConfigured rest).or step.call.configuration? :=
  getLast?_filterMap_cons _ step rest

/-- The output set last is that of the later calls, or else that of the first. -/
theorem lastOutput_cons (step : MadeCall σ) (rest : List (MadeCall σ)) :
    lastOutput (step :: rest) =
      (lastOutput rest).or (if step.passed then step.call.output? else none) := by
  simp only [lastOutput, List.filterMap_filter]
  exact getLast?_filterMap_cons _ step rest

end LinkDriver
