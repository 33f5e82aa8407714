import LinkDriver.Engine.Basic

/-!
# The recording engine

An engine that keeps a log of its calls and links nothing. A table says which operations fail. A
call is recorded before it can fail; the rest of the state changes only when it succeeds.
-/

namespace LinkDriver.Recording

/-- The argument of a call, as a table can hold it: a text, a configuration, or none, as for the
link operation. -/
inductive Argument where
  | absent
  | text (content : String)
  | configuration (settled : Configuration)
  deriving DecidableEq, Repr

/-- When an operation fails: always, never, or for some arguments. -/
inductive FailureRule where
  | always
  | never
  | forArguments (arguments : List Argument)
  deriving DecidableEq, Repr

/-- The rule by which an operation fails for some texts, where a missing text stands for the absent
argument. -/
def FailureRule.among (texts : List (Option String)) : FailureRule :=
  .forArguments (texts.map fun text => text.elim .absent .text)

/-- A rule for each operation. -/
abbrev Failures := Operation → FailureRule

/-- The state of a recording engine. -/
structure State where
  calls : List Call
  configuration : Option Configuration
  output : Option String
  inputs : List String
  linked : Bool
  deriving DecidableEq, Repr

/-- The state of a new engine. -/
def State.new : State where
  calls := []
  configuration := none
  output := none
  inputs := []
  linked := false

/-- The literal of an engine, which counts its calls. -/
def State.literal (state : State) : String :=
  "RecordingEngine(" ++ toString state.calls.length ++ " calls)"

/-- The argument of a call. There is none to compare if a value in it is blank. -/
def argumentOf? : Call → Option Argument
  | .configure configuration =>
    if configuration.hasBlank then none else some (.configuration configuration)
  | .setOutput path => some (.text path)
  | .addObject path => some (.text path)
  | .addNamespec (.text name) => some (.text name)
  | .addNamespec .blank => none
  | .link => some .absent

/-- Whether the argument of a call is one of the given ones. -/
def isAmong (arguments : List Argument) (call : Call) : Except Fault Bool :=
  match argumentOf? call with
  | none => .error (.blank .compared)
  | some argument => .ok (arguments.contains argument)

/-- Whether a call fails by a rule. Among no arguments nothing is compared. -/
def FailureRule.refuses : FailureRule → Call → Except Fault Bool
  | always, _ => .ok true
  | never, _ => .ok false
  | forArguments [], _ => .ok false
  | forArguments arguments, call => isAmong arguments call

/-- The state after a call that succeeds. -/
def State.accept (state : State) : Call → Except Fault State
  | .configure configuration => .ok { state with configuration := some configuration }
  | .setOutput path => .ok { state with output := some path }
  | .addObject path => .ok { state with inputs := state.inputs ++ [path] }
  | .addNamespec (.text name) => .ok { state with inputs := state.inputs ++ ["-l" ++ name] }
  | .addNamespec .blank => .error (.blank .appended)
  | .link => .ok { state with linked := true }

/-- Why a call fails, or the state it leads to. -/
def State.answer (failures : Failures) (state : State) (call : Call) : Except CallFailure State :=
  match (failures call.operation).refuses call with
  | .error fault => .error (.fault fault)
  | .ok true => .error (.refused (call.operation.name ++ " failed"))
  | .ok false => (state.accept call).mapError .fault

/-- The engine that records its calls and fails by a table. -/
def engine (failures : Failures) : Engine State where
  perform call := do
    .modify fun state => { state with calls := state.calls ++ [call] }
    let state ← .ofExcept ((← .get).answer failures call)
    .modify fun _ => state

end LinkDriver.Recording
