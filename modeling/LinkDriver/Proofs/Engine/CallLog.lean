import LinkDriver.Proofs.Engine.MadeCalls
import LinkDriver.Proofs.Engine.Recording

/-!
# The log of a recording engine

A recording engine of which calls are made in any order, some of which fail, has the log of them.
Read `engine_keeps_log` first. `Answer` says everything that one call can do, and `State.after` is
the state behind many calls of which some succeeded (`state_of_chained`). Which ones succeed is
settled by the table of failures alone, so the state is what the table makes of the calls.
-/

namespace LinkDriver.Recording

/-! ## What the log tells -/

/-- The rule covers a call: the operation fails always, or for the argument of the call. -/
def FailureRule.Covers : FailureRule → Call → Prop
  | always, _ => True
  | never, _ => False
  | forArguments arguments, call => ∃ argument ∈ arguments, argumentOf? call = some argument

instance (rule : FailureRule) (call : Call) : Decidable (rule.Covers call) :=
  match rule with
  | .always => isTrue trivial
  | .never => isFalse id
  | .forArguments arguments => List.decidableBEx _ arguments

/-- The calls that a table of failures does not cover, in their order. -/
def uncovered (failures : Failures) (calls : List Call) : List Call :=
  calls.filter fun call => ¬ (failures call.operation).Covers call

/-- No value in the argument of a call is blank. -/
def IsTextual (call : Call) : Prop :=
  argumentOf? call ≠ none

/-- The word that is kept of a call that adds an input. -/
def wordOf? : Call → Option String
  | .addObject path => some path
  | .addNamespec name => some ("-l" ++ name.display)
  | _ => none

/-- The state behind some calls, of which the passed ones succeeded. All of them are recorded. The
configuration and the output are those that a passed call handed over last, each passed call that
adds an input adds its word, and a passed link is remembered. -/
def State.after (state : State) (calls passed : List Call) : State where
  calls := state.calls ++ calls
  configuration := (passed.filterMap Call.configuration?).getLast?.or state.configuration
  output := (passed.filterMap Call.output?).getLast?.or state.output
  inputs := state.inputs ++ passed.filterMap wordOf?
  linked := state.linked || passed.contains .link

/-- `KeepsLog failures made final` says that a new engine of which these calls were made has kept
the log of them, and that this is its final state. -/
structure KeepsLog (failures : Failures) (made : List (MadeCall State)) (final : State) :
    Prop where
  /-- The state records every call, and besides only those that succeeded. -/
  final_eq : final = State.new.after (made.map MadeCall.call) (passedCalls made)
  /-- A call is refused exactly if the table covers it. -/
  refused_iff : ∀ step ∈ made, ∀ detail, step.outcome.result = .error (.refused detail) ↔
    (failures step.call.operation).Covers step.call ∧
      detail = step.call.operation.name ++ " failed"
  /-- A call without a blank in it fails in no other way. -/
  passed_iff : ∀ step ∈ made, IsTextual step.call →
    (step.passed = true ↔ ¬ (failures step.call.operation).Covers step.call)
  /-- A call that fails changes nothing but the calls. -/
  failed_recorded : ∀ step ∈ made, step.passed = false →
    step.outcome.state = { step.before with calls := step.before.calls ++ [step.call] }
  /-- The calls and the table settle the state, unless there is a blank in some call. -/
  settled : (∀ call ∈ final.calls, IsTextual call) →
    final = State.new.after final.calls (uncovered failures final.calls)

variable {failures : Failures} {state final : State} {call : Call} {made : List (MadeCall State)}

/-! ## One call -/

/-- `Answer failures state call later` lists the ways in which a call ends: it succeeds, it is
refused as it is covered, or a blank stands where it cannot be compared or added. -/
inductive Answer (failures : Failures) (state : State) (call : Call) :
    Outcome State CallFailure Unit → Prop where
  | passed (huncovered : ¬ (failures call.operation).Covers call) :
      Answer failures state call ⟨[], state.after [call] [call], .ok ()⟩
  | refused (hcovered : (failures call.operation).Covers call) :
      Answer failures state call
        ⟨[], state.after [call] [], .error (.refused (call.operation.name ++ " failed"))⟩
  | stuck (fault : Fault) (hblank : ¬ IsTextual call)
      (huncovered : ¬ (failures call.operation).Covers call) :
      Answer failures state call ⟨[], state.after [call] [], .error (.fault fault)⟩

theorem State.after_none (state : State) (calls : List Call) :
    state.after calls [] = { state with calls := state.calls ++ calls } := by
  simp [State.after]

theorem State.after_after (state : State) (calls passed others otherPassed : List Call) :
    (state.after calls passed).after others otherPassed =
      state.after (calls ++ others) (passed ++ otherPassed) := by
  simp [State.after, Option.or_assoc, Bool.or_assoc]

/-- A rule refuses what it covers, and has an answer to everything without a blank in it. -/
theorem FailureRule.refuses_cases (rule : FailureRule) (call : Call) :
    (rule.refuses call = .ok true ∧ rule.Covers call) ∨
      (rule.refuses call = .ok false ∧ ¬ rule.Covers call) ∨
      ((∃ fault, rule.refuses call = .error fault) ∧ ¬ IsTextual call ∧ ¬ rule.Covers call) := by
  cases rule with
  | always => exact .inl ⟨rfl, trivial⟩
  | never => exact .inr (.inl ⟨rfl, id⟩)
  | forArguments arguments =>
      cases arguments with
      | nil => exact .inr (.inl ⟨rfl, by simp [Covers]⟩)
      | cons first rest =>
          rw [refuses.eq_def]
          simp only [isAmong]
          cases hargument : argumentOf? call with
          | none =>
              refine .inr (.inr ⟨⟨_, rfl⟩, fun htextual => htextual hargument, ?_⟩)
              simp [Covers, hargument]
          | some argument =>
              by_cases hmem : argument ∈ first :: rest
              · exact .inl ⟨by simpa using hmem, argument, hmem, hargument⟩
              · refine .inr (.inl ⟨by simpa using hmem, ?_⟩)
                rintro ⟨other, hother, hsame⟩
                obtain rfl : argument = other := Option.some.inj (hargument.symm.trans hsame)
                exact hmem hother

/-- A state accepts every call without a blank in it. -/
theorem State.accept_cases (state : State) (call : Call) :
    (state.after [call] []).accept call = .ok (state.after [call] [call]) ∨
      (∃ fault, (state.after [call] []).accept call = .error fault) ∧ ¬ IsTextual call := by
  cases call with
  | configure | setOutput | addObject | link =>
      exact .inl (by simp [State.accept, State.after, Call.configuration?, Call.output?, wordOf?])
  | addNamespec name =>
      cases name with
      | text content =>
          exact .inl (by simp [State.accept, State.after, Call.configuration?, Call.output?,
            wordOf?])
      | blank => exact .inr ⟨⟨_, rfl⟩, fun htextual => htextual rfl⟩

/-- A call is recorded before the state answers it. -/
theorem run_perform (failures : Failures) (state : State) (call : Call) :
    ((engine failures).perform call).run state =
      match (state.after [call] []).answer failures call with
      | .ok next => ⟨[], next, .ok ()⟩
      | .error failure => ⟨[], state.after [call] [], .error failure⟩ := by
  rw [State.after_none]
  show (Action.modify _ >>= fun _ => Action.get >>= fun recorded =>
    Action.ofExcept (State.answer failures recorded call) >>= fun next =>
      Action.modify fun _ => next).run state = _
  rw [Action.run_bind_ok (a := ()) rfl, Action.run_bind_ok (a := _) rfl]
  cases hanswer : State.answer failures { state with calls := state.calls ++ [call] } call with
  | ok next =>
      rw [Action.run_bind_ok (a := next) (by simpa using hanswer)]
      simp
  | error failure =>
      rw [Action.run_bind_error (e := failure) (by simpa using hanswer)]
      simp

/-- Every call has an answer. -/
theorem answer_perform (failures : Failures) (state : State) (call : Call) :
    Answer failures state call (((engine failures).perform call).run state) := by
  rw [run_perform]
  unfold State.answer
  rcases (failures call.operation).refuses_cases call with
    ⟨hrefuses, hcovered⟩ | ⟨hrefuses, huncovered⟩ | ⟨⟨fault, hrefuses⟩, hblank, huncovered⟩
  · rw [hrefuses]
    exact .refused hcovered
  · rw [hrefuses]
    rcases state.accept_cases call with haccept | ⟨⟨fault, haccept⟩, hblank⟩
    · rw [haccept]
      exact .passed huncovered
    · rw [haccept]
      exact .stuck fault hblank huncovered
  · rw [hrefuses]
    exact .stuck fault hblank huncovered

section Answers

variable {later : Outcome State CallFailure Unit} (h : Answer failures state call later)

include h

theorem Answer.state_eq :
    later.state = state.after [call] (if later.result.isOk then [call] else []) := by
  cases h <;> rfl

theorem Answer.refused_iff (detail : String) :
    later.result = .error (.refused detail) ↔
      (failures call.operation).Covers call ∧ detail = call.operation.name ++ " failed" := by
  cases h with
  | passed huncovered | stuck _ _ huncovered => simp [huncovered]
  | refused hcovered => simp [hcovered, eq_comm]

theorem Answer.passed_iff (htextual : IsTextual call) :
    later.result.isOk = true ↔ ¬ (failures call.operation).Covers call := by
  cases h with
  | passed huncovered => simp [huncovered, Except.isOk, Except.toBool]
  | refused hcovered => simp [hcovered, Except.isOk, Except.toBool]
  | stuck _ hblank => exact absurd htextual hblank

end Answers

/-! ## Many calls -/

/-- Calls of which some succeeded lead to the state behind them. -/
theorem state_of_chained (h : Chained (engine failures) state made final) :
    final = state.after (made.map MadeCall.call) (passedCalls made) := by
  induction made generalizing state with
  | nil =>
      obtain rfl : final = state := h
      simp [State.after, passedCalls]
  | cons step rest ih =>
      obtain ⟨rfl, houtcome, hrest⟩ := h
      have hstep := (answer_perform failures step.before step.call).state_eq
      rw [← houtcome] at hstep
      rw [ih hrest, hstep, State.after_after, passedCalls_cons, MadeCall.passed]
      rfl

/-- Each call of a chain has an answer. -/
theorem answer_of_chained (h : Chained (engine failures) state made final)
    {step : MadeCall State} (hmem : step ∈ made) :
    Answer failures step.before step.call step.outcome := by
  rw [h.performed step hmem]
  exact answer_perform failures step.before step.call

/-- Among calls without a blank, those that succeed are the ones that the table does not cover. -/
theorem passedCalls_of_chained (h : Chained (engine failures) state made final)
    (htextual : ∀ call ∈ made.map MadeCall.call, IsTextual call) :
    passedCalls made = uncovered failures (made.map MadeCall.call) := by
  unfold passedCalls uncovered
  rw [List.filter_map]
  congr 1
  refine List.filter_congr ?_
  intro step hmem
  have hpassed := (answer_of_chained h hmem).passed_iff (htextual _ (List.mem_map_of_mem hmem))
  rw [Bool.eq_iff_iff]
  simpa [MadeCall.passed] using hpassed

/-- Whatever calls are made of a new engine, and whichever of them fail, its state is the log of
them. -/
theorem engine_keeps_log (failures : Failures) (calls : List Call) :
    let made := (engine failures).makeCalls .new calls
    made.map MadeCall.call = calls ∧ KeepsLog failures made (stateAfter .new made) := by
  intro made
  have hchained : Chained (engine failures) .new made (stateAfter .new made) :=
    (engine failures).chained_makeCalls .new calls
  have hfinal := state_of_chained hchained
  have hcalls : (stateAfter .new made).calls = made.map MadeCall.call := by rw [hfinal]; rfl
  refine ⟨(engine failures).map_call_makeCalls .new calls, ?_⟩
  exact {
    final_eq := hfinal
    refused_iff := fun step hmem => (answer_of_chained hchained hmem).refused_iff
    passed_iff := fun step hmem => (answer_of_chained hchained hmem).passed_iff
    failed_recorded := by
      intro step hmem hfailed
      have hstate := (answer_of_chained hchained hmem).state_eq
      rw [← MadeCall.passed, hfailed] at hstate
      rw [hstate]
      exact State.after_none step.before [step.call]
    settled := by
      intro htextual
      rw [hcalls] at htextual ⊢
      rw [← passedCalls_of_chained hchained htextual]
      exact hfinal }

/-- A refused object and a refused link are recorded, and leave the rest as it is. -/
example :
    let failures : Failures := fun
      | .addObject => .among [some "bad.o"]
      | .link => .among [none]
      | _ => .never
    let calls := [.setOutput "out", .addObject "bad.o", .addNamespec (.text "m"), .link]
    stateAfter .new ((engine failures).makeCalls .new calls) =
      ⟨calls, none, some "out", ["-lm"], false⟩ := by decide

end LinkDriver.Recording
