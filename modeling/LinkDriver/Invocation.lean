import LinkDriver.Engine.Basic

/-!
# Invoking an engine

An invocation takes an engine through a list of stages: the configuration, the output, the inputs
in the order of the plan, and the link. Every stage must succeed before the next one begins. A
refusal becomes the driver error of its stage, and ends the invocation.
-/

namespace LinkDriver

/-- An entry of a plan. An entry that is neither an object file nor a namespec is known by its text
alone. -/
inductive PlanEntry where
  | item (input : Item)
  | foreign (text : String)
  deriving DecidableEq, Repr

/-- A stage of an invocation. -/
inductive Stage where
  | configuration (settled : Configuration)
  | output (path : String)
  | input (entry : Item)
  | foreign (text : String)
  | link (path : String)
  deriving DecidableEq, Repr

namespace Stage

/-- The source of the log records of an invocation. -/
def source : String := "invoke"

/-- What is logged before a stage calls the engine. -/
def announcement? : Stage → Option Record
  | configuration _ => none
  | output _ => none
  | input (.object file) => some ⟨.debug, source, "Adding object " ++ file.path⟩
  | input (.namespec spec) => some ⟨.debug, source, "Adding namespec " ++ spec.name.display⟩
  | foreign _ => none
  | link path => some ⟨.info, source, "Linking " ++ path⟩

/-- The call of a stage. A foreign entry has none. -/
def call : Stage → Except Fault Call
  | configuration settled => .ok (.configure settled)
  | output path => .ok (.setOutput path)
  | input (.object file) => .ok (.addObject file.path)
  | input (.namespec spec) => .ok (.addNamespec spec.name)
  | foreign text => .error (.foreignItem text)
  | link _ => .ok .link

/-- The driver error for a stage whose call was refused. The stage of a foreign entry makes no
call, so nothing refuses it. -/
def refusal : Stage → String → DriverError
  | configuration _, detail => .configurationRefused detail
  | output path, detail => .outputRefused path detail
  | input entry, detail => .inputRefused entry detail
  | foreign _, detail => .linkFailed detail
  | link _, detail => .linkFailed detail

/-- The failure of a stage whose call failed. -/
def failure (stage : Stage) : CallFailure → Failure
  | .refused detail => .driver (stage.refusal detail)
  | .fault fault => .fault fault

/-- Performs a stage on an engine. -/
def perform {σ : Type} (engine : Engine σ) (stage : Stage) : Action σ Failure Unit := do
  if let some record := stage.announcement? then
    .emit (.log record)
  let call ← .ofExcept (stage.call.mapError .fault)
  (engine.perform call).mapError stage.failure

end Stage

/-- The stage of an entry of a plan. -/
def PlanEntry.stage : PlanEntry → Stage
  | item input => .input input
  | foreign text => .foreign text

/-- The stages of an invocation. -/
def stages (configuration : Configuration) (output : String) (entries : List PlanEntry) :
    List Stage :=
  .configuration configuration :: .output output :: entries.map PlanEntry.stage ++ [.link output]

/-- Takes an engine through the stages of a link. -/
def invoke {σ : Type} (engine : Engine σ) (configuration : Configuration) (output : String)
    (entries : List PlanEntry) : Action σ Failure Unit :=
  (stages configuration output entries).forM (Stage.perform engine)

end LinkDriver
