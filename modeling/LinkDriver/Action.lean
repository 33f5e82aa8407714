import LinkDriver.Log
import LinkDriver.Report
import LinkDriver.Shell

/-!
# Actions

An action works on a state, leaves a list of events behind, and ends with a result or an error. It
always ends, and the state it leaves is there in both cases: an error undoes nothing.

`run_bind_ok` and `run_bind_error` say how two actions follow each other, and the actions obey the
laws of monads.
-/

namespace LinkDriver

/-- A command: a program and its arguments. -/
structure Command where
  program : Value
  arguments : List String
  deriving DecidableEq, Repr

/-- The command with one more argument at its end. -/
def Command.withArgument (command : Command) (argument : String) : Command :=
  { command with arguments := command.arguments ++ [argument] }

/-- The command as it is pasted into a shell. -/
def Command.shellText (command : Command) : String :=
  Shell.quoteCommand (command.program.textOrEmpty :: command.arguments)

/-- What an action lets others see: a log record, an entry of the report, text on the standard
output, the start of a command, or the text that a started command left in the file at a place. -/
inductive Event where
  | log (record : Record)
  | report (entry : ReportEntry)
  | print (text : String)
  | start (command : Command)
  | wrote (place : List String) (content : String)
  deriving DecidableEq

namespace Event

/-- The record that an event logs. -/
def record? : Event → Option Record
  | log record => some record
  | _ => none

/-- The entry that an event adds to the report. -/
def entry? : Event → Option ReportEntry
  | report entry => some entry
  | _ => none

/-- The text that an event prints. -/
def printed? : Event → Option String
  | print text => some text
  | _ => none

/-- The command that an event starts. -/
def started? : Event → Option Command
  | start command => some command
  | _ => none

/-- The place of the file that a command wrote, and the text that it left there. -/
def written? : Event → Option (List String × String)
  | wrote place content => some (place, content)
  | _ => none

end Event

/-- How an action ended: its events in their order, the state it left, and its result or error. -/
structure Outcome (σ ε α : Type) where
  events : List Event
  state : σ
  result : Except ε α

/-- An action on a state `σ` that may end with an error `ε`. -/
def Action (σ ε α : Type) := σ → Outcome σ ε α

namespace Action

variable {σ ε ε' α β : Type}

/-- Runs an action on a state. -/
def run (action : Action σ ε α) (state : σ) : Outcome σ ε α :=
  action state

/-- The action that does nothing. -/
def done (a : α) : Action σ ε α := fun state =>
  ⟨[], state, .ok a⟩

/-- Runs a second action with the result of the first one, unless that ended with an error. -/
def andThen (action : Action σ ε α) (next : α → Action σ ε β) : Action σ ε β := fun state =>
  let first := action state
  match first.result with
  | .error e => ⟨first.events, first.state, .error e⟩
  | .ok a =>
    let second := next a first.state
    ⟨first.events ++ second.events, second.state, second.result⟩

instance : Monad (Action σ ε) where
  pure := done
  bind := andThen

/-- Ends with an error. -/
def fail (e : ε) : Action σ ε α := fun state =>
  ⟨[], state, .error e⟩

/-- Leaves one event behind. -/
def emit (event : Event) : Action σ ε Unit := fun state =>
  ⟨[event], state, .ok ()⟩

/-- Logs a record. -/
def log (level : Level) (source message : String) : Action σ ε Unit :=
  emit (.log ⟨level, source, message⟩)

/-- The state. -/
def get : Action σ ε σ := fun state =>
  ⟨[], state, .ok state⟩

/-- Changes the state. -/
def modify (change : σ → σ) : Action σ ε Unit := fun state =>
  ⟨[], change state, .ok ()⟩

/-- Ends with a result or an error that is known already. -/
def ofExcept (result : Except ε α) : Action σ ε α := fun state =>
  ⟨[], state, result⟩

/-- Tells the errors of an action in other terms. -/
def mapError (change : ε → ε') (action : Action σ ε α) : Action σ ε' α := fun state =>
  let outcome := action state
  ⟨outcome.events, outcome.state, outcome.result.mapError change⟩

@[simp] theorem run_pure (a : α) (state : σ) :
    (pure a : Action σ ε α).run state = ⟨[], state, .ok a⟩ := rfl

@[simp] theorem run_fail (e : ε) (state : σ) :
    (fail e : Action σ ε α).run state = ⟨[], state, .error e⟩ := rfl

@[simp] theorem run_emit (event : Event) (state : σ) :
    (emit event : Action σ ε Unit).run state = ⟨[event], state, .ok ()⟩ := rfl

@[simp] theorem run_log (level : Level) (source message : String) (state : σ) :
    (log level source message : Action σ ε Unit).run state =
      ⟨[.log ⟨level, source, message⟩], state, .ok ()⟩ := rfl

@[simp] theorem run_get (state : σ) :
    (get : Action σ ε σ).run state = ⟨[], state, .ok state⟩ := rfl

@[simp] theorem run_modify (change : σ → σ) (state : σ) :
    (modify change : Action σ ε Unit).run state = ⟨[], change state, .ok ()⟩ := rfl

@[simp] theorem run_ofExcept (result : Except ε α) (state : σ) :
    (ofExcept result : Action σ ε α).run state = ⟨[], state, result⟩ := rfl

@[simp] theorem run_mapError (change : ε → ε') (action : Action σ ε α) (state : σ) :
    (mapError change action).run state =
      ⟨(action.run state).events, (action.run state).state,
        (action.run state).result.mapError change⟩ := rfl

/-- A second action runs on the state that the first one left, and its events come after. -/
theorem run_bind_ok {action : Action σ ε α} {next : α → Action σ ε β} {state : σ} {a : α}
    (h : (action.run state).result = .ok a) :
    (action >>= next).run state =
      ⟨(action.run state).events ++ ((next a).run (action.run state).state).events,
        ((next a).run (action.run state).state).state,
        ((next a).run (action.run state).state).result⟩ := by
  simp only [run] at h
  simp [bind, andThen, run, h]

/-- An error ends an action where it stands. -/
theorem run_bind_error {action : Action σ ε α} {next : α → Action σ ε β} {state : σ} {e : ε}
    (h : (action.run state).result = .error e) :
    (action >>= next).run state =
      ⟨(action.run state).events, (action.run state).state, .error e⟩ := by
  simp only [run] at h
  simp [bind, andThen, run, h]

theorem andThen_done (action : Action σ ε α) : action.andThen done = action := by
  funext state
  cases h : action state with
  | mk events final result => cases result <;> simp [andThen, done, h]

theorem done_andThen (a : α) (next : α → Action σ ε β) : (done a).andThen next = next a := by
  funext state
  simp [andThen, done]

theorem andThen_assoc {γ : Type} (action : Action σ ε α) (next : α → Action σ ε β)
    (last : β → Action σ ε γ) :
    (action.andThen next).andThen last = action.andThen fun a => (next a).andThen last := by
  funext state
  cases h : (action state).result with
  | error e => simp [andThen, h]
  | ok a => cases h' : (next a (action state).state).result <;> simp [andThen, h, h']

instance : LawfulMonad (Action σ ε) :=
  LawfulMonad.mk' (Action σ ε) andThen_done done_andThen andThen_assoc

end Action

end LinkDriver
