import LinkDriver.Engine.Recording
import LinkDriver.Proofs.Invocation

/-!
# The inputs of a recording engine

An invocation that a recording engine lets run to its end leaves the inputs of the plan behind, in
their order. Read `runs_invoke` first. It follows stage by stage: `runs_perform` says what one stage
adds, whatever the table of failures is.
-/

namespace LinkDriver.Recording

open LinkDriver.Action

/-- The word that a recording engine keeps of an input. -/
def word : Item → String
  | .object file => file.path
  | .namespec spec => "-l" ++ spec.name.display

/-- The words that a recording engine keeps of a stage. -/
def stageWords : Stage → List String
  | .input item => [word item]
  | _ => []

/-- A namespec of which no engine can keep a word. -/
def IsBlank (item : Item) : Prop :=
  ∃ spec, item = .namespec spec ∧ spec.name = .blank

variable {failures : Failures}

/-- A call runs exactly if the table lets it pass and the state accepts it. -/
theorem runs_call_iff {call : Call} {state final : State} :
    Runs ((engine failures).perform call) state () final ↔
      { state with calls := state.calls ++ [call] }.answer failures call = .ok final := by
  simp only [engine, runs_bind_iff, runs_modify_iff, runs_get_iff, runs_ofExcept_iff]
  constructor
  · intro h
    obtain ⟨-, _, rfl, _, _, ⟨rfl, rfl⟩, next, _, ⟨hanswer, rfl⟩, rfl⟩ := h
    exact hanswer
  · intro hanswer
    exact ⟨(), _, rfl, _, _, ⟨rfl, rfl⟩, final, _, ⟨hanswer, rfl⟩, rfl⟩

/-- A call that is answered was accepted. -/
theorem accept_of_answer {state final : State} {call : Call}
    (h : state.answer failures call = .ok final) : state.accept call = .ok final := by
  unfold State.answer at h
  split at h
  · exact absurd h (by simp)
  · exact absurd h (by simp)
  · exact mapError_eq_ok_iff.mp h

/-- A stage that runs adds its words to the inputs. -/
theorem runs_perform {stage : Stage} {state final : State}
    (h : Runs (stage.perform (engine failures)) state () final) :
    final.inputs = state.inputs ++ stageWords stage ∧
      ∀ item, stage = .input item → ¬ IsBlank item := by
  obtain ⟨call, hcall, hruns⟩ := Stage.runs_perform_iff.mp h
  have haccept := accept_of_answer (runs_call_iff.mp hruns)
  cases stage with
  | configuration | output | link =>
      obtain rfl := Except.ok.inj hcall
      obtain rfl := Except.ok.inj haccept
      exact ⟨(List.append_nil _).symm, by simp⟩
  | foreign text => exact absurd hcall (by simp [Stage.call])
  | input item =>
      cases item with
      | object file =>
          obtain rfl := Except.ok.inj hcall
          obtain rfl := Except.ok.inj haccept
          refine ⟨rfl, ?_⟩
          rintro _ hitem ⟨spec, rfl, -⟩
          exact absurd hitem (by simp)
      | namespec spec =>
          obtain rfl := Except.ok.inj hcall
          cases hname : spec.name with
          | blank => simp [State.accept, hname] at haccept
          | text name =>
              rw [hname] at haccept
              obtain rfl := Except.ok.inj haccept
              refine ⟨by simp [stageWords, word, hname], ?_⟩
              rintro _ hitem ⟨other, rfl, hblank⟩
              obtain rfl : spec = other := by simpa using hitem
              rw [hname] at hblank
              exact absurd hblank (by simp)

/-- Stages that run one after the other add their words in their order. -/
theorem runs_stages {stages : List Stage} {state final : State}
    (h : Runs (stages.forM (Stage.perform (engine failures))) state () final) :
    final.inputs = state.inputs ++ stages.flatMap stageWords ∧
      ∀ item, .input item ∈ stages → ¬ IsBlank item := by
  induction stages generalizing state with
  | nil =>
      obtain ⟨-, rfl⟩ := runs_pure_iff.mp h
      simp
  | cons stage rest ih =>
      obtain ⟨⟨⟩, middle, hstage, hrest⟩ := runs_bind_iff.mp h
      obtain ⟨hinputs, hwhole⟩ := runs_perform hstage
      obtain ⟨hothers, hall⟩ := ih hrest
      constructor
      · rw [hothers, hinputs, List.flatMap_cons, List.append_assoc]
      · intro item hmem
        rcases List.mem_cons.mp hmem with hitem | hmem
        · exact hwhole item hitem.symm
        · exact hall item hmem

/-- After an invocation the engine has the inputs of the plan, and none of them is blank. -/
theorem runs_invoke {configuration : Configuration} {output : String} {items : List Item}
    {state final : State}
    (h : Runs (invoke (engine failures) configuration output (items.map .item)) state () final) :
    final.inputs = state.inputs ++ items.map word ∧ ∀ item ∈ items, ¬ IsBlank item := by
  obtain ⟨hinputs, hwhole⟩ := runs_stages h
  constructor
  · rw [hinputs]
    simp [stages, stageWords, PlanEntry.stage, List.flatMap_map, ← List.map_eq_flatMap]
  · intro item hmem
    exact hwhole item (by simpa [stages, PlanEntry.stage] using hmem)

end LinkDriver.Recording
