import LinkDriver.Action

/-!
# Link engines

An engine performs five operations on a state of its own: it takes the configuration, the output
and the inputs, and it links. Each operation is a call; it may refuse with a detail for the user.
-/

namespace LinkDriver

/-- The operations of an engine. -/
inductive Operation where
  | configure
  | setOutput
  | addObject
  | addNamespec
  | link
  deriving DecidableEq, Repr

/-- The name of an operation. -/
def Operation.name : Operation → String
  | configure => "configure"
  | setOutput => "set_output"
  | addObject => "add_object"
  | addNamespec => "add_namespec"
  | link => "link"

/-- A call into an engine: an operation with its argument. -/
inductive Call where
  | configure (settled : Configuration)
  | setOutput (path : String)
  | addObject (path : String)
  | addNamespec (name : Value)
  | link
  deriving DecidableEq, Repr

/-- The operation of a call. -/
def Call.operation : Call → Operation
  | configure _ => .configure
  | setOutput _ => .setOutput
  | addObject _ => .addObject
  | addNamespec _ => .addNamespec
  | link => .link

/-- How a call fails: the engine refuses it with a detail, or has no answer to it. -/
inductive CallFailure where
  | refused (detail : String)
  | fault (fault : Fault)
  deriving DecidableEq, Repr

/-- An engine with states `σ`: what each call does. -/
structure Engine (σ : Type) where
  perform : Call → Action σ CallFailure Unit

end LinkDriver
