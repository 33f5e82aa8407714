import LinkDriver.Invocation
import LinkDriver.Proofs.Action

/-!
# Invocations that end well

`runs_perform_iff` says a stage runs exactly if it has a call that the engine lets run. What holds
of every stage then holds of an invocation, by induction on its stages.
-/

namespace LinkDriver.Stage

open LinkDriver.Action

variable {σ : Type} {engine : Engine σ}

/-- A stage that has no call runs on no engine, every other one runs as its call does. -/
theorem runs_perform_iff {stage : Stage} {state final : σ} :
    Runs (stage.perform engine) state () final ↔
      ∃ call, stage.call = .ok call ∧ Runs (engine.perform call) state () final := by
  have hannounced :
      Runs (stage.perform engine) state () final ↔
        Runs (do
          let call ← Action.ofExcept (stage.call.mapError Failure.fault)
          (engine.perform call).mapError stage.failure) state () final := by
    unfold perform
    cases hrecord : stage.announcement? with
    | none => rfl
    | some record => simp [runs_bind_iff]
  rw [hannounced]
  simp [runs_bind_iff, mapError_eq_ok_iff, and_assoc]

end LinkDriver.Stage
